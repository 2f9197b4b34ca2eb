import Livox.Comm.LidarPubHandler
import Livox.Library.Exec

open checked

namespace livox_ros

/-- The publish interval in nanoseconds. The node clamps the frequency it is
given to at most 100 Hz, hence the bound. -/
structure PublishInterval where
  ns : UInt64
  lower : 10000000 ≤ ns

def PublishInterval.tolerance (publish_interval : PublishInterval) : UInt64 :=
  publish_interval.ns - kNsTolerantFrameTimeDeviation

def PublishInterval.ms (publish_interval : PublishInterval) : UInt64 :=
  publish_interval.ns / kRatioOfMsToNs

/-- The interval that `SetPointCloudConfig` computes, in exact arithmetic. -/
def publish_interval_ns (publish_freq : ℚ) : ℕ :=
  ⌊kNsPerSecond / (publish_freq * 10) * 10⌋₊

theorem publish_interval_ns_bounds {publish_freq : ℚ} (hlow : 1 / 2 ≤ publish_freq)
    (hhigh : publish_freq ≤ 100) :
    10000000 ≤ publish_interval_ns publish_freq ∧ publish_interval_ns publish_freq ≤ 2000000000 := by
  have hpos : 0 < publish_freq := by linarith
  have hexact : (kNsPerSecond : ℚ) / (publish_freq * 10) * 10 = 1000000000 / publish_freq := by
    rw [kNsPerSecond]
    field_simp
    norm_num
  unfold publish_interval_ns
  rw [hexact]
  constructor
  · apply Nat.le_floor
    rw [le_div_iff₀ hpos]
    push_cast
    linarith
  · apply Nat.floor_le_of_le
    rw [div_le_iff₀ hpos]
    push_cast
    linarith

/-- `SetPointCloudConfig` for a frequency that the node has clamped. -/
def set_point_cloud_config (publish_freq : ℚ) (hlow : 1 / 2 ≤ publish_freq)
    (hhigh : publish_freq ≤ 100) : PublishInterval where
  ns := UInt64.ofNat (publish_interval_ns publish_freq)
  lower := by
    have hbounds := publish_interval_ns_bounds hlow hhigh
    have hsize : UInt64.size = 2 ^ 64 := rfl
    rw [UInt64.le_iff_toNat_le, UInt64.toNat_ofNat_of_lt' (by omega)]
    exact hbounds.1

/-- One lidar of a published frame as the callback sees it: the base time next
to the packet with the points that its pointer addresses. -/
structure PublishedPacket (F : Type) where
  base_time : UInt64
  packet : PointPacket (List (PointXyzlt F))
  deriving DecidableEq

/-- `high_resolution_clock` readings are nanoseconds. -/
structure PubHandler (F : Type) where
  frame : PointFrame
  raw_packet_queue : List RawPacket
  publish_interval : PublishInterval
  last_pub_time : Int
  first : Bool
  lidar_process_handlers : Std.TreeMap UInt32 (LidarPubHandler F)
  points : Std.TreeMap UInt32 (List (PointXyzlt F))
  lidar_extrinsics : Std.TreeMap UInt32 (LidarExtParameter F)
  is_timestamp_sync : Bool

namespace PubHandler

variable {F : Type}

/-- The handler before the first packet, with the extrinsics added so far. -/
def start (publish_interval : PublishInterval)
    (lidar_extrinsics : Std.TreeMap UInt32 (LidarExtParameter F)) : PubHandler F where
  frame := PointFrame.zero
  raw_packet_queue := []
  publish_interval := publish_interval
  last_pub_time := 0
  first := true
  lidar_process_handlers := ∅
  points := ∅
  lidar_extrinsics := lidar_extrinsics
  is_timestamp_sync := false

/-- Only a lidar of the Livox type has an identity of its own. -/
def get_lidar_id (lidar_type : LidarProtoType) (handle : UInt32) : UInt32 :=
  if lidar_type = .kLivoxLidarType then handle else 0

/-- `lidar_process_handlers_[id]`, dereferenced: the entry that the map makes
up for an unknown lidar is a null pointer. -/
def process_handler (s : PubHandler F) (id : UInt32) : Checked (LidarPubHandler F) :=
  match s.lidar_process_handlers[id]? with
  | some handler => .ok handler
  | none => .error .nullDereference

/-- What `CheckTimer` does for one lidar in either mode: write the base time,
swap the accumulated points out into `points_[id]`, and add a packet to the
frame when there are any. The result says whether one was added. -/
def collect_points (s : PubHandler F) (id : UInt32) : Checked (PubHandler F × Bool) := do
  let handler ← s.process_handler id
  let base_time ← writeAt s.frame.base_time s.frame.lidar_num.toNat handler.get_lidar_base_time
  let (handler, points) := handler.get_lidar_point_clouds []
  let s :=
    { s with
      frame := { s.frame with base_time }
      lidar_process_handlers := s.lidar_process_handlers.insert id handler
      points := s.points.insert id points }
  if points.isEmpty then
    .ok (s, false)
  else
    let lidar_point ← writeAt s.frame.lidar_point s.frame.lidar_num.toNat
      { handle := id, lidar_type := LidarProtoType.kLivoxLidarType.val
        points_num := UInt32.ofNat points.length, points := some id }
    .ok ({ s with frame := { s.frame with lidar_point, lidar_num := s.frame.lidar_num + 1 } }, true)

/-- The loop over the known lidars, in the order of the map. -/
def collect_all (s : PubHandler F) : List UInt32 → Checked (PubHandler F)
  | [] => .ok s
  | id :: ids => do
    let (s, _) ← s.collect_points id
    collect_all s ids

/-- The points that a packet of the frame addresses. -/
def deref_points (s : PubHandler F) : PointsAddress → Checked (List (PointXyzlt F))
  | none => .error .nullDereference
  | some id =>
    match s.points[id]? with
    | some points => .ok points
    | none => .error .freedStorage

/-- What the callback reads at one position of the frame. -/
def read_packet (s : PubHandler F) (i : Nat) : Checked (PublishedPacket F) :=
  if h : i < kMaxSourceLidar then do
    let points ← s.deref_points s.frame.lidar_point[i].points
    .ok { base_time := s.frame.base_time[i], packet := { s.frame.lidar_point[i] with points } }
  else
    .error (.outOfBounds i kMaxSourceLidar)

/-- The first `lidar_num` positions of the frame, as the callback reads them. -/
def publish_point_cloud (s : PubHandler F) : Checked (List (PublishedPacket F)) :=
  (List.range s.frame.lidar_num.toNat).mapM s.read_packet

/-- `PublishPointCloud` and the reset of the frame that follows it. -/
def publish_and_reset (s : PubHandler F) :
    Checked (PubHandler F × Option (List (PublishedPacket F))) := do
  let published ← s.publish_point_cloud
  .ok ({ s with frame := { s.frame with lidar_num := 0 } }, some published)

/-- The frame of one lidar whose own time has come to a multiple of the publish
interval, when the host and the lidar are synchronised. -/
def check_timer_sync (s : PubHandler F) (id : UInt32) :
    Checked (PubHandler F × Option (List (PublishedPacket F))) := do
  let handler ← s.process_handler id
  let recent_time_ms := handler.get_recent_time_stamp / kRatioOfMsToNs
  if recent_time_ms % s.publish_interval.ms ≠ 0 ∨ recent_time_ms = 0 then
    .ok (s, none)
  else
    let diff := handler.get_recent_time_stamp - handler.get_lidar_base_time
    if diff < s.publish_interval.tolerance then
      .ok (s, none)
    else
      let (s, added) ← s.collect_points id
      if !added then
        .ok (s, none)
      else if s.frame.lidar_num ≠ 0 then
        s.publish_and_reset
      else
        .ok (s, none)

/-- The host clock has reached the next publication. -/
def is_due (s : PubHandler F) (now_time : Int) : Bool :=
  !s.first && !(now_time - s.last_pub_time < s.publish_interval.ns.toNat)

def advance_pub_time (s : PubHandler F) : PubHandler F :=
  { s with last_pub_time := s.last_pub_time + s.publish_interval.ns.toNat }

/-- The frame of all known lidars, cut by the clock of the host. -/
def check_timer_host (s : PubHandler F) (now_time : Int) :
    Checked (PubHandler F × Option (List (PublishedPacket F))) := do
  if s.first then
    .ok ({ s with last_pub_time := now_time, first := false }, none)
  else if now_time - s.last_pub_time < s.publish_interval.ns.toNat then
    .ok (s, none)
  else
    let s := s.advance_pub_time
    let s ← s.collect_all s.lidar_process_handlers.keys
    s.publish_and_reset

def check_timer (s : PubHandler F) (id : UInt32) (now_time : Int) :
    Checked (PubHandler F × Option (List (PublishedPacket F))) :=
  if s.is_timestamp_sync then s.check_timer_sync id else s.check_timer_host now_time

variable [Coordinate F]

/-- The accumulator of a lidar, made on its first packet. -/
def find_process_handler (s : PubHandler F) (id : UInt32) : LidarPubHandler F :=
  (s.lidar_process_handlers[id]?).getD LidarPubHandler.new

/-- The accumulator with the configured extrinsic, if there is one. -/
def configure_handler (s : PubHandler F) (id : UInt32) (handler : LidarPubHandler F) :
    LidarPubHandler F :=
  match s.lidar_extrinsics[id]? with
  | some lidar_param => handler.set_lidars_ext_param lidar_param
  | none => handler

/-- The body of `RawDataProcess` for one raw packet, up to the timer. -/
def process_raw_packet (s : PubHandler F) (raw_data : RawPacket) : PubHandler F × UInt32 :=
  let id := get_lidar_id raw_data.lidar_type raw_data.handle
  let handler := (s.configure_handler id (s.find_process_handler id)).point_cloud_process raw_data
  ({ s with lidar_process_handlers := s.lidar_process_handlers.insert id handler }, id)

end PubHandler

/-- The points of a lidar are transformed with the extrinsic configured for it,
or with the initial one. -/
def extrinsic_of {F : Type} [Coordinate F]
    (lidar_extrinsics : Std.TreeMap UInt32 (LidarExtParameter F)) (id : UInt32) :
    ExtParameterDetailed F :=
  match lidar_extrinsics[id]? with
  | some lidar_param => ExtParameterDetailed.of_param lidar_param.param
  | none => ExtParameterDetailed.initial

/-- The publisher thread between two of its steps: `pending` is the lidar whose
packet has been processed and whose timer is still to be checked. -/
structure PubRun (F : Type) where
  handler : PubHandler F
  pending : Option UInt32
  arrived : List RawPacket
  processed : List RawPacket
  published : List (List (PublishedPacket F))

/-- A packet is queued by the receiving thread, the synchronisation flag is
stored by it, the publisher processes the oldest queued packet, and then checks
the timer with some clock reading. -/
inductive PubEvent where
  | packet (raw_packet : RawPacket)
  | timestamp_sync (is_timestamp_sync : Bool)
  | process
  | timer (now_time : Int)

namespace PubRun

variable {F : Type} [Coordinate F]

def start (publish_interval : PublishInterval)
    (lidar_extrinsics : Std.TreeMap UInt32 (LidarExtParameter F)) : PubRun F where
  handler := PubHandler.start publish_interval lidar_extrinsics
  pending := none
  arrived := []
  processed := []
  published := []

/-- An event of the publisher that is not its next one leaves the state as it
is, so that every list of events is a schedule. -/
def step (s : PubRun F) : PubEvent → Checked (PubRun F)
  | .packet raw_packet =>
    .ok
      { s with
        handler := { s.handler with raw_packet_queue := s.handler.raw_packet_queue ++ [raw_packet] }
        arrived := s.arrived ++ [raw_packet] }
  | .timestamp_sync is_timestamp_sync => .ok { s with handler := { s.handler with is_timestamp_sync } }
  | .process =>
    match s.pending, s.handler.raw_packet_queue with
    | none, raw_data :: rest =>
      let (handler, id) := { s.handler with raw_packet_queue := rest }.process_raw_packet raw_data
      .ok { s with handler, pending := some id, processed := s.processed ++ [raw_data] }
    | _, _ => .ok s
  | .timer now_time =>
    match s.pending with
    | none => .ok s
    | some id => do
      let (handler, published) ← s.handler.check_timer id now_time
      .ok { s with handler, pending := none, published := s.published ++ published.toList }

end PubRun

end livox_ros
