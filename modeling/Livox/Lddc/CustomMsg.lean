import Livox.Lddc
import Livox.Comm.Ldq.Refinement
import Livox.Comm.PubHandler.Capacity

open checked execution

namespace livox_ros

/-- A point of the message: its time is relative to the base time, in 32 bits. -/
structure CustomPoint (F : Type) where
  offset_time : UInt32
  x : F
  y : F
  z : F
  reflectivity : UInt8
  tag : UInt8
  line : UInt8

/-- The message; `timebase` is the time of the first point, and the stamp is
the number of nanoseconds that the header's time is made of. -/
structure CustomMsg (F : Type) where
  frame_id : String
  stamp : UInt64
  timebase : UInt64
  point_num : UInt32
  lidar_id : UInt8
  points : List (CustomPoint F)

section Message

variable {F : Type} (to_uint8 : F → UInt8) (frame_id : String) (device : LidarDevice F)

def init_custom_msg (pkg : StoragePacket F) : CustomMsg F :=
  let timestamp := if pkg.points.isEmpty then 0 else pkg.base_time
  { frame_id
    stamp := timestamp
    timebase := timestamp
    point_num := pkg.points_num
    lidar_id := init_custom_msg_lidar_id device
    points := [] }

/-- The body of the loop of `FillPointsToCustomMsg`. -/
def custom_point (base_time : UInt64) (point : PointXyzlt F) : CustomPoint F where
  offset_time := (point.offset_time - base_time).toUInt32
  x := point.x
  y := point.y
  z := point.z
  reflectivity := to_uint8 point.intensity
  tag := point.tag
  line := point.line

def fill_points_to_custom_msg (livox_msg : CustomMsg F) (pkg : StoragePacket F) :
    Checked (CustomMsg F) := do
  let points ← (List.range pkg.points_num.toNat).mapM fun i => do
    let point ← readList pkg.points i
    .ok (custom_point to_uint8 pkg.base_time point)
  .ok { livox_msg with points := livox_msg.points ++ points }

/-- `PublishCustomPointcloud` for one packet of the queue of a device. -/
def publish_custom_pointcloud (pkg : StoragePacket F) : Checked (CustomMsg F) :=
  fill_points_to_custom_msg to_uint8 (init_custom_msg frame_id device pkg) pkg

omit to_uint8 frame_id device in
/-- A loop over as many points as the packet says it has converts all of them. -/
theorem mapM_points_eq {β : Type} (convert : PointXyzlt F → β) {pkg : StoragePacket F}
    (hlength : pkg.points.length = pkg.points_num.toNat) :
    ((List.range pkg.points_num.toNat).mapM fun i => do
        let point ← readList pkg.points i
        .ok (convert point) : Checked (List β)) = .ok (pkg.points.map convert) := by
  have hread : ∀ i (hi : i < (pkg.points.map convert).length),
      (do let point ← readList pkg.points i
          .ok (convert point) : Checked β) = .ok (pkg.points.map convert)[i] := by
    intro i hi
    have hlt : i < pkg.points.length := by simpa using hi
    rw [readList_eq_ok_iff.2 (List.getElem?_eq_getElem hlt), ok_bind, List.getElem_map]
  have hpoints := mapM_range_eq_ok hread
  rwa [List.length_map, hlength] at hpoints

/-- A packet with as many points as it says is published with all of them. -/
theorem publish_custom_pointcloud_eq {pkg : StoragePacket F}
    (hlength : pkg.points.length = pkg.points_num.toNat) :
    publish_custom_pointcloud to_uint8 frame_id device pkg =
      .ok
        { init_custom_msg frame_id device pkg with
          points := pkg.points.map (custom_point to_uint8 pkg.base_time) } := by
  unfold publish_custom_pointcloud fill_points_to_custom_msg
  rw [mapM_points_eq (custom_point to_uint8 pkg.base_time) hlength]
  rfl

end Message

/-- A time is recovered from a base and the low half of its distance to it
exactly when the distance has no high half. -/
theorem add_low_half_eq_iff (base_time time : UInt64) :
    base_time + (time - base_time).toUInt32.toUInt64 = time ↔ time - base_time < 0x100000000 := by
  have hbase := base_time.toNat_lt
  have htime := time.toNat_lt
  rw [← UInt64.toNat_inj, UInt64.lt_iff_toNat_lt]
  simp only [UInt64.toNat_add, UInt32.toNat_toUInt64, UInt64.toNat_toUInt32, UInt64.toNat_sub,
    UInt64.reduceToNat]
  omega

section Lossless

variable {F : Type} (to_uint8 : F → UInt8) (frame_id : String) (device : LidarDevice F)

/-- The message that a packet of the queue is published as has the times of its points. -/
def StoragePacket.LosslessTimes (pkg : StoragePacket F) : Prop :=
  ∃ livox_msg, publish_custom_pointcloud to_uint8 frame_id device pkg = .ok livox_msg ∧
    List.Forall₂ (fun custom point =>
        livox_msg.timebase + custom.offset_time.toUInt64 = point.offset_time)
      livox_msg.points pkg.points

/-- The packet of a frame can be stored, and is published without a loss then. -/
def PublishedPacket.LosslessTimes (packet : PublishedPacket F) : Prop :=
  ∃ h : packet.packet.points_num.toNat ≤ packet.packet.points.length,
    (StoragePacket.of_point_packet ⟨packet.packet, h⟩ packet.base_time).LosslessTimes to_uint8
      frame_id device

/-- No stored point of a lidar is before its first one, or 2^32 ns or more behind it. -/
def TimesFit (points : List (PointXyzlt F)) : Prop :=
  ∀ first ∈ points.head?, ∀ point ∈ points.take (UInt32.ofNat points.length).toNat,
    point.offset_time - first.offset_time < 0x100000000

variable {to_uint8 frame_id device}

theorem StoragePacket.losslessTimes_iff {pkg : StoragePacket F}
    (hlength : pkg.points.length = pkg.points_num.toNat) :
    pkg.LosslessTimes to_uint8 frame_id device ↔
      ∀ point ∈ pkg.points, point.offset_time - pkg.base_time < 0x100000000 := by
  have htimebase : ∀ point ∈ pkg.points,
      (init_custom_msg frame_id device pkg).timebase = pkg.base_time := by
    intro point hpoint
    simp [init_custom_msg, List.ne_nil_of_mem hpoint]
  unfold LosslessTimes
  rw [publish_custom_pointcloud_eq _ _ _ hlength]
  simp only [Except.ok.injEq, exists_eq_left', List.forall₂_map_left_iff, List.forall₂_same]
  apply forall₂_congr
  intro point hpoint
  rw [htimebase point hpoint]
  exact add_low_half_eq_iff _ _

theorem lossless_cut_packet_iff {id : UInt32} {points : List (PointXyzlt F)}
    {packet : PublishedPacket F} (hcut : cut_packet id points = some packet) :
    packet.LosslessTimes to_uint8 frame_id device ↔ TimesFit points := by
  cases points with
  | nil => cases hcut
  | cons first rest =>
    obtain rfl := Option.some.inj hcut
    have hreadable : (UInt32.ofNat (first :: rest).length).toNat ≤ (first :: rest).length := by
      rw [UInt32.toNat_ofNat']
      exact Nat.mod_le _ _
    unfold PublishedPacket.LosslessTimes
    rw [exists_prop_of_true hreadable, StoragePacket.losslessTimes_iff]
    · simp [TimesFit, StoragePacket.of_point_packet]
    · simpa [StoragePacket.of_point_packet] using hreadable

theorem lossless_cut_packets_iff {s : PubHandler F} {ids : List UInt32} :
    (∀ packet ∈ s.cut_packets ids, packet.LosslessTimes to_uint8 frame_id device) ↔
      ∀ id ∈ ids, TimesFit (s.points_held id) := by
  constructor
  · intro h id hid
    cases hcut : cut_packet id (s.points_held id) with
    | none =>
      have hnil : s.points_held id = [] := by
        cases hheld : s.points_held id with
        | nil => rfl
        | cons first rest => simp [hheld, cut_packet] at hcut
      simp [TimesFit, hnil]
    | some packet =>
      exact (lossless_cut_packet_iff hcut).1 (h packet (List.mem_filterMap.2 ⟨id, hid, hcut⟩))
  · intro h packet hpacket
    obtain ⟨id, hid, hcut⟩ := List.mem_filterMap.1 hpacket
    exact (lossless_cut_packet_iff hcut).2 (h id hid)

end Lossless

/-- The lidars of the frame that a timer check cuts have times that fit. -/
def PubRun.CutTimesFit {F : Type} (s : PubRun F) : PubEvent → Prop
  | .timer now_time => ∀ id, s.pending = some id → s.handler.CutFits now_time →
      ∀ cut ∈ (s.handler.cut_ids id now_time).getD [], TimesFit (s.handler.points_held cut)
  | _ => True

/-- Every packet of every frame so far is published without a loss, if it is stored. -/
def PubRun.LosslessTimes {F : Type} (to_uint8 : F → UInt8) (frame_id : String)
    (device : LidarDevice F) (s : PubRun F) : Prop :=
  ∀ frame ∈ s.published, ∀ packet ∈ frame, packet.LosslessTimes to_uint8 frame_id device

section Run

variable {F : Type} [Coordinate F] {to_uint8 : F → UInt8} {frame_id : String}
  {device : LidarDevice F} {s : PubRun F}

/-- What a check of the timer adds to the published frames. -/
theorem step_timer_published (hready : s.Ready) {id : UInt32} {now_time : Int}
    (hpending : s.pending = some id) (hfits : s.handler.CutFits now_time) :
    ∃ t, s.step (.timer now_time) = .ok t ∧ t.published = s.published ++
      ((s.handler.cut_ids id now_time).map s.handler.cut_packets).toList := by
  obtain ⟨t, hcheck, _⟩ := PubHandler.check_timer_cut hready.idle (hready.pending id hpending) hfits
  exact ⟨_, PubRun.step_timer_of_checked hpending hcheck, rfl⟩

omit [Coordinate F] in
theorem lossless_append_iff {ids : Option (List UInt32)} (h : s.LosslessTimes to_uint8 frame_id device) :
    (∀ frame ∈ s.published ++ (ids.map s.handler.cut_packets).toList, ∀ packet ∈ frame,
        packet.LosslessTimes to_uint8 frame_id device) ↔
      ∀ id ∈ ids.getD [], TimesFit (s.handler.points_held id) := by
  rw [← @lossless_cut_packets_iff F to_uint8 frame_id device]
  cases ids with
  | none =>
    constructor
    · simp [PubHandler.cut_packets]
    · intro _
      rwa [Option.map_none, Option.toList_none, List.append_nil]
  | some ids =>
    simp only [Option.map_some, Option.toList_some, List.mem_append, List.mem_singleton,
      Option.getD_some]
    constructor
    · exact fun hall => hall _ (.inr rfl)
    · rintro hnew frame (hold | rfl)
      · exact h frame hold
      · exact hnew

/-- Only a timer check of a pending lidar publishes. -/
theorem step_published_of_not_timer {t : PubRun F} {event : PubEvent}
    (hidle : ∀ now_time, event = .timer now_time → s.pending = none)
    (hstep : s.step event = .ok t) : t.published = s.published := by
  cases event with
  | packet raw_packet =>
    obtain rfl := Except.ok.inj hstep
    rfl
  | timestamp_sync is_timestamp_sync =>
    obtain rfl := Except.ok.inj hstep
    rfl
  | process =>
    obtain rfl | ⟨_, _, _, rfl⟩ := PubRun.step_process_cases hstep
    · rfl
    · rfl
  | timer now_time =>
    obtain rfl : s = t := by simpa [PubRun.step, hidle now_time rfl] using hstep
    rfl

theorem step_lossless {t : PubRun F} (hready : s.Ready)
    (h : s.LosslessTimes to_uint8 frame_id device) {event : PubEvent}
    (hguard : s.CutTimesFit event) (hstep : s.step event = .ok t) :
    t.LosslessTimes to_uint8 frame_id device := by
  by_cases hidle : ∀ now_time, event = .timer now_time → s.pending = none
  · unfold PubRun.LosslessTimes
    rwa [step_published_of_not_timer hidle hstep]
  · simp only [not_forall] at hidle
    obtain ⟨now_time, rfl, hpending⟩ := hidle
    obtain ⟨id, hid⟩ := Option.ne_none_iff_exists'.1 hpending
    by_cases hfits : s.handler.CutFits now_time
    · obtain ⟨u, hu, hpublished⟩ := step_timer_published hready hid hfits
      obtain rfl := Except.ok.inj (hu.symm.trans hstep)
      unfold PubRun.LosslessTimes
      rw [hpublished, lossless_append_iff h]
      exact hguard id hid hfits
    · obtain ⟨fault, hfault⟩ := step_timer_of_not_fits hready fun hfit => hfits (hfit hpending)
      simp [hfault] at hstep

theorem step_lossy (hready : s.Ready) (h : s.LosslessTimes to_uint8 frame_id device)
    {event : PubEvent} (hguard : ¬ s.CutTimesFit event) :
    ∃ t, s.step event = .ok t ∧ ¬ t.LosslessTimes to_uint8 frame_id device := by
  cases event with
  | packet raw_packet => exact absurd trivial hguard
  | timestamp_sync is_timestamp_sync => exact absurd trivial hguard
  | process => exact absurd trivial hguard
  | timer now_time =>
    simp only [PubRun.CutTimesFit, not_forall] at hguard
    obtain ⟨id, hid, hfits, hcut⟩ := hguard
    obtain ⟨t, ht, hpublished⟩ := step_timer_published hready hid hfits
    refine ⟨t, ht, ?_⟩
    unfold PubRun.LosslessTimes
    rw [hpublished, lossless_append_iff h]
    exact fun hall => hcut.elim fun cut hlossy => hlossy.elim fun hmem hnot => hnot (hall cut hmem)

/-- Whatever packets arrive and in either mode, every message of a run has the times of its points
exactly when no lidar whose points are cut into a frame has one before its first or 2^32 ns behind
it. -/
theorem published_times_lossless_iff (publish_interval : PublishInterval)
    (lidar_extrinsics : Std.TreeMap UInt32 (LidarExtParameter F)) (events : List PubEvent)
    (to_uint8 : F → UInt8) (frame_id : String) (device : LidarDevice F) :
    StatesSatisfy PubRun.step (PubRun.LosslessTimes to_uint8 frame_id device)
        (PubRun.start publish_interval lidar_extrinsics) events ↔
      StepsSatisfy PubRun.step PubRun.CutTimesFit
        (PubRun.start publish_interval lidar_extrinsics) events := by
  have hstart : (PubRun.start publish_interval lidar_extrinsics).LosslessTimes to_uint8 frame_id
      device := by
    simp [PubRun.LosslessTimes, PubRun.start]
  have hlossless : ∀ s : PubRun F, s.Ready ∧ s.LosslessTimes to_uint8 frame_id device →
      s.LosslessTimes to_uint8 frame_id device := fun _ h => h.2
  have hstep : ∀ (s : PubRun F) (event : PubEvent) (t : PubRun F),
      s.Ready ∧ s.LosslessTimes to_uint8 frame_id device → s.CutTimesFit event →
      s.step event = .ok t → t.Ready ∧ t.LosslessTimes to_uint8 frame_id device :=
    fun s event t h hguard hone => ⟨step_ok_ready h.1 hone, step_lossless h.1 h.2 hguard hone⟩
  exact statesSatisfy_iff_stepsSatisfy hlossless hstep
    (fun s event h hguard => step_lossy h.1 h.2 hguard)
    ⟨start_ready publish_interval lidar_extrinsics, hstart⟩ events

end Run

/-- Two packets of one point, of which the second arrives 2^32 ns behind the first, and the frame
that the host clock cuts of them. -/
def gap_run : List PubEvent :=
  let raw_packet (time_stamp : UInt64) : RawPacket :=
    { lidar_type := .kLivoxLidarType, handle := 7, extrinsic_enable := false, point_num := 1
      data_type := kLivoxLidarCartesianCoordinateHighData, line_num := 4, time_stamp
      point_interval := 5000, raw_data := List.replicate 14 0, past_end := fun _ => 0
      line_num_ne := four_lines_ne }
  [.packet (raw_packet 1000000), .process, .timer 0,
    .packet (raw_packet 4295967296), .process, .timer 4294967296]

theorem gap_run_lossy :
    ¬ ∀ (publish_interval : PublishInterval)
      (lidar_extrinsics : Std.TreeMap UInt32 (LidarExtParameter ℝ)) (events : List PubEvent)
      (to_uint8 : ℝ → UInt8) (frame_id : String) (device : LidarDevice ℝ),
      StatesSatisfy PubRun.step (PubRun.LosslessTimes to_uint8 frame_id device)
        (PubRun.start publish_interval lidar_extrinsics) events := by
  intro h
  let shown (packet : PublishedPacket ℝ) : UInt64 × UInt32 × List UInt64 :=
    (packet.base_time, packet.packet.points_num, packet.packet.points.map PointXyzlt.offset_time)
  have hrun : (exec PubRun.step (@PubRun.start ℝ ⟨100000000, by decide⟩ ∅) gap_run).toOption.map
      (fun s => s.published.map (List.map shown)) =
      some [[(1000000, 2, [1000000, 4295967296])]] := by
    decide +kernel
  cases hexec : exec PubRun.step (@PubRun.start ℝ ⟨100000000, by decide⟩ ∅) gap_run with
  | error fault => simp [hexec, Except.toOption] at hrun
  | ok t =>
    have hpublished : t.published.map (List.map shown) =
        [[(1000000, 2, [1000000, 4295967296])]] := by
      simpa [hexec, Except.toOption] using hrun
    obtain ⟨frame, hframes, hframe⟩ := List.map_eq_singleton_iff.1 hpublished
    obtain ⟨packet, rfl, hshown⟩ := List.map_eq_singleton_iff.1 hframe
    obtain ⟨hbase, hnum, htimes⟩ : packet.base_time = 1000000 ∧ packet.packet.points_num = 2 ∧
        packet.packet.points.map PointXyzlt.offset_time = [1000000, 4295967296] := by
      simpa [shown] using hshown
    have hlossless : t.LosslessTimes (fun _ => 0) "livox_frame" (LidarDevice.zero ℝ) :=
      (h _ _ _ _ _ _).last hexec
    obtain ⟨hreadable, hpacket⟩ := hlossless [packet] (by simp [hframes]) packet (by simp)
    obtain ⟨first, second, hpoints⟩ : ∃ first second, packet.packet.points = [first, second] := by
      have hlength : packet.packet.points.length = 2 := by simpa using congrArg List.length htimes
      exact List.length_eq_two.1 hlength
    have hsecond : second.offset_time = 4295967296 := by
      rw [hpoints] at htimes
      exact (by simpa using htimes : _ ∧ _).2
    have hfits : second.offset_time - packet.base_time < 0x100000000 :=
      (StoragePacket.losslessTimes_iff
        (by simp [StoragePacket.of_point_packet, hpoints, hnum])).1 hpacket second
        (by simp [StoragePacket.of_point_packet, hpoints, hnum])
    rw [hsecond, hbase] at hfits
    exact absurd hfits (by decide)

end livox_ros
