import Livox.Comm.LidarImuDataQueue
import Livox.Comm.PubHandler.Capacity
import Livox.Library.Memory
import Livox.Sdk.LivoxLidarDef

open checked execution memory livox_lidar

namespace livox_ros

def kTimestampTypeNoSync : UInt8 := 0
def kTimestampTypeGptpOrPtp : UInt8 := 1
def kTimestampTypeGps : UInt8 := 2

def kLineNumberDefault : UInt8 := 1
def kLineNumberMid360 : UInt8 := 4
def kLineNumberHAP : UInt8 := 6

def kMaxBufferSize : Nat := 8192

/-- A received datagram: the receive buffer and the number of its bytes that have been received.
The other bytes of the buffer hold whatever was there. -/
structure Datagram where
  buf : Pointer
  size : Nat
  size_le : size ≤ kMaxBufferSize

/-- The fields of the packed header that the driver reads, and the pointer `data` behind it. -/
structure LivoxLidarEthernetPacket where
  length : UInt16
  time_interval : UInt16
  dot_num : UInt16
  data_type : UInt8
  time_type : UInt8
  timestamp : UInt64
  data : Pointer

namespace LivoxLidarEthernetPacket

def kLivoxLidarImuData : UInt8 := 0

/-- The place of the member `data`. -/
def data_offset : Nat := 36

/-- The struct ends with one byte of `data`. -/
def sizeof : UInt64 := 37

/-- The six floats of `RawImuPoint`. -/
def sizeof_raw_imu_point : Nat := 24

def of_buf (buf : Pointer) : LivoxLidarEthernetPacket where
  length := buf.u16 1
  time_interval := buf.u16 3
  dot_num := buf.u16 5
  data_type := buf.u8 10
  time_type := buf.u8 11
  timestamp := UInt64.ofNat (value ((buf.add 28).load 8))
  data := buf.add data_offset

/-- The number of bytes that are copied out of the packet: computed in `size_t` and stored in
32 bits. -/
def copied_length (data : LivoxLidarEthernetPacket) : UInt32 :=
  (data.length.toUInt64 - sizeof + 1).toUInt32

/-- The copy is made from a buffer of `kMaxBufferSize` bytes. -/
def copy_data (data : LivoxLidarEthernetPacket) : Checked (List UInt8) :=
  let finish := data_offset + data.copied_length.toNat
  if finish ≤ kMaxBufferSize then .ok (data.data.load data.copied_length.toNat)
  else .error (.outOfBounds finish kMaxBufferSize)

/-- The division is one of integers. -/
def point_interval (data : LivoxLidarEthernetPacket) : Checked UInt64 :=
  if data.dot_num = 0 then .error .divisionByZero
  else .ok (UInt64.ofNat (data.time_interval.toNat * 100 / data.dot_num.toNat))

end LivoxLidarEthernetPacket

def line_num_of (dev_type : UInt8) : UInt8 :=
  if dev_type = kLivoxLidarTypeIndustrialHAP then kLineNumberHAP
  else if dev_type = kLivoxLidarTypeMid360 ∨ dev_type = kLivoxLidarTypeMid360s then
    kLineNumberMid360
  else kLineNumberDefault

theorem line_num_of_ne (dev_type : UInt8) : line_num_of dev_type ≠ 0 := by
  unfold line_num_of
  split_ifs <;> decide

/-- A packet without a time of its own gets the one of the host clock. -/
def get_eth_packet_timestamp (timestamp_type : UInt8) (time_stamp now : UInt64) : UInt64 :=
  if timestamp_type = kTimestampTypeGptpOrPtp ∨ timestamp_type = kTimestampTypeGps then time_stamp
  else now

/-- What the callback does with a packet. -/
structure Received where
  is_timestamp_sync : Bool
  imu_data : Option (ImuData UInt32)
  raw_packet : Option RawPacket

/-- The events of the publisher. -/
def Received.events (received : Received) : List PubEvent :=
  .timestamp_sync received.is_timestamp_sync :: (received.raw_packet.map PubEvent.packet).toList

section Callback

variable (handle : UInt32) (dev_type : UInt8) (now : UInt64) (past_end : Nat → UInt8)

/-- The packet that the callback queues, around the bytes copied into it. -/
def raw_packet_of (data : LivoxLidarEthernetPacket) (point_interval : UInt64)
    (raw_data : List UInt8) : RawPacket where
  lidar_type := .kLivoxLidarType
  handle := handle
  extrinsic_enable := false
  point_num := data.dot_num.toUInt32
  data_type := data.data_type
  line_num := line_num_of dev_type
  time_stamp := get_eth_packet_timestamp data.time_type data.timestamp now
  point_interval := point_interval
  raw_data := raw_data
  past_end := past_end
  line_num_ne := line_num_of_ne dev_type

/-- The data that the callback hands on, copied out of the `RawImuPoint` behind the header. The
floats are their bits. -/
def imu_data_of (data : LivoxLidarEthernetPacket) : ImuData UInt32 where
  lidar_type := LidarProtoType.kLivoxLidarType.val
  handle := handle
  time_stamp := get_eth_packet_timestamp data.time_type data.timestamp now
  gyro_x := data.data.u32 0
  gyro_y := data.data.u32 4
  gyro_z := data.data.u32 8
  acc_x := data.data.u32 12
  acc_y := data.data.u32 16
  acc_z := data.data.u32 20

/-- The synchronisation flag is set, and the data of the IMU are handed on or a raw packet is queued.
The driver has set `imu_callback_`. -/
def on_livox_lidar_point_cloud_callback (data : LivoxLidarEthernetPacket) : Checked Received :=
  let is_timestamp_sync := decide (data.time_type ≠ kTimestampTypeNoSync)
  if data.data_type = LivoxLidarEthernetPacket.kLivoxLidarImuData then
    .ok { is_timestamp_sync, imu_data := some (imu_data_of handle now data), raw_packet := none }
  else do
    let point_interval ← data.point_interval
    let raw_data ← data.copy_data
    .ok
      { is_timestamp_sync
        imu_data := none
        raw_packet :=
          some (raw_packet_of handle dev_type now past_end data point_interval raw_data) }

/-- `DataHandler::Handle`, with the publisher as the observer that the driver adds. -/
def data_handler_handle (datagram : Datagram) : Checked Received :=
  on_livox_lidar_point_cloud_callback handle dev_type now past_end
    (LivoxLidarEthernetPacket.of_buf datagram.buf)

end Callback

namespace LivoxLidarEthernetPacket

variable {data : LivoxLidarEthernetPacket}

theorem copied_length_of_le (h : data_offset ≤ data.length.toNat) :
    data.copied_length.toNat = data.length.toNat - data_offset := by
  have hlength := data.length.toNat_lt
  simp only [data_offset] at h ⊢
  simp only [copied_length, sizeof, UInt64.toNat_toUInt32, UInt64.toNat_add, UInt64.toNat_sub,
    UInt16.toNat_toUInt64, UInt64.reduceToNat]
  omega

/-- A length field smaller than the header wraps around. -/
theorem copied_length_of_lt (h : data.length.toNat < data_offset) :
    kMaxBufferSize < data.copied_length.toNat := by
  simp only [data_offset] at h
  simp only [copied_length, sizeof, UInt64.toNat_toUInt32, UInt64.toNat_add, UInt64.toNat_sub,
    UInt16.toNat_toUInt64, UInt64.reduceToNat, kMaxBufferSize]
  omega

theorem copy_data_eq_ok_iff {raw_data : List UInt8} :
    data.copy_data = .ok raw_data ↔
      data_offset ≤ data.length.toNat ∧ data.length.toNat ≤ kMaxBufferSize ∧
        raw_data = data.data.load (data.length.toNat - data_offset) := by
  unfold copy_data
  by_cases hle : data_offset ≤ data.length.toNat
  · rw [copied_length_of_le hle, Nat.add_sub_cancel' hle]
    simp only [hle, true_and]
    split
    · rename_i hfits
      simp only [Except.ok.injEq, hfits, true_and]
      exact eq_comm
    · rename_i hfar
      simp [hfar]
  · have hwrap := copied_length_of_lt (Nat.lt_of_not_le hle)
    rw [if_neg (by omega)]
    simp [hle]

theorem point_interval_eq_ok_iff {point_interval : UInt64} :
    data.point_interval = .ok point_interval ↔
      data.dot_num ≠ 0 ∧
        point_interval = UInt64.ofNat (data.time_interval.toNat * 100 / data.dot_num.toNat) := by
  unfold LivoxLidarEthernetPacket.point_interval
  split
  · rename_i hzero
    simp [hzero]
  · rename_i hpos
    simp only [Except.ok.injEq, hpos, ne_eq, not_false_eq_true, true_and]
    exact eq_comm

end LivoxLidarEthernetPacket

/-- The size of the raw point that the decoder of a data type reads for each point; a packet of an
unknown type is not read. -/
def raw_point_size (data_type : UInt8) : Nat :=
  if data_type = kLivoxLidarCartesianCoordinateHighData then 14
  else if data_type = kLivoxLidarCartesianCoordinateLowData then 8
  else if data_type = kLivoxLidarSphericalCoordinateData then 10
  else if data_type = kLivoxLidarDoubleEchoData then 28
  else 0

namespace RawPacket

/-- Every raw point that the loop of the decoder reads lies within `raw_data`. -/
def RawPointsInside (pkt : RawPacket) : Prop :=
  ∀ i < pkt.point_num.toNat, raw_point_size pkt.data_type * (i + 1) ≤ pkt.raw_data.length

theorem rawPointsInside_iff {pkt : RawPacket} :
    pkt.RawPointsInside ↔
      raw_point_size pkt.data_type * pkt.point_num.toNat ≤ pkt.raw_data.length := by
  constructor
  · intro h
    by_cases hzero : pkt.point_num.toNat = 0
    · simp [hzero]
    · have hlast := h (pkt.point_num.toNat - 1) (by omega)
      rwa [Nat.sub_add_cancel (by omega)] at hlast
  · intro h i hi
    calc raw_point_size pkt.data_type * (i + 1)
        ≤ raw_point_size pkt.data_type * pkt.point_num.toNat := Nat.mul_le_mul_left _ hi
      _ ≤ pkt.raw_data.length := h

section PastEnd

variable {pkt : RawPacket} {offset : Nat} {past_end : Nat → UInt8}

theorem byte_past_end (h : offset < pkt.raw_data.length) :
    { pkt with past_end }.byte offset = pkt.byte offset := by
  simp [byte, h]

theorem cartesian_high_raw_point_past_end (h : offset + 14 ≤ pkt.raw_data.length) :
    { pkt with past_end }.cartesian_high_raw_point offset =
      pkt.cartesian_high_raw_point offset := by
  simp (disch := omega) only [cartesian_high_raw_point, read_i32, read_u32, read_u16, byte_past_end]

theorem cartesian_low_raw_point_past_end (h : offset + 8 ≤ pkt.raw_data.length) :
    { pkt with past_end }.cartesian_low_raw_point offset = pkt.cartesian_low_raw_point offset := by
  simp (disch := omega) only [cartesian_low_raw_point, read_i16, read_u16, byte_past_end]

theorem spher_point_past_end (h : offset + 10 ≤ pkt.raw_data.length) :
    { pkt with past_end }.spher_point offset = pkt.spher_point offset := by
  simp (disch := omega) only [spher_point, read_u32, read_u16, byte_past_end]

theorem decode_point_past_end {F : Type} [Coordinate F] (extrinsic : ExtParameterDetailed F)
    {i : UInt32} (h : raw_point_size pkt.data_type * (i.toNat + 1) ≤ pkt.raw_data.length) :
    LidarPubHandler.decode_point extrinsic { pkt with past_end } i =
      LidarPubHandler.decode_point extrinsic pkt i := by
  unfold raw_point_size at h
  unfold LidarPubHandler.decode_point
  split_ifs at h ⊢
  · rw [cartesian_high_raw_point_past_end (by omega)]
    rfl
  · rw [cartesian_low_raw_point_past_end (by omega)]
    rfl
  · rw [spher_point_past_end (by omega)]
    rfl
  · have hfirst := @cartesian_high_raw_point_past_end pkt (28 * i.toNat) past_end (by omega)
    have hsecond := @cartesian_high_raw_point_past_end pkt (28 * i.toNat + 14) past_end (by omega)
    rw [hfirst, hsecond]
    rfl
  · rfl

/-- What lies behind the vector does not reach the points of a packet that is read inside. -/
theorem RawPointsInside.decoded_points_past_end {F : Type} [Coordinate F]
    (h : pkt.RawPointsInside) (extrinsic : ExtParameterDetailed F) :
    LidarPubHandler.decoded_points extrinsic { pkt with past_end } =
      LidarPubHandler.decoded_points extrinsic pkt := by
  by_cases hlidar : pkt.lidar_type = .kLivoxLidarType
  · have hlidar' : { pkt with past_end }.lidar_type = .kLivoxLidarType := hlidar
    rw [LidarPubHandler.decoded_points_eq _ hlidar, LidarPubHandler.decoded_points_eq _ hlidar']
    apply List.flatMap_congr
    intro i hi
    have hindex : i < pkt.point_num.toNat := List.mem_range.1 hi
    apply decode_point_past_end
    rw [LidarPubHandler.index_toNat hindex]
    exact h i hindex
  · simp [LidarPubHandler.decoded_points, LidarPubHandler.point_cloud_process, hlidar]

end PastEnd

end RawPacket

/-- The bytes of a queued packet are received ones, as many as the length field says behind the
header, and its decoder stays within them. -/
structure CopiedInside (datagram : Datagram) (packet : RawPacket) : Prop where
  received : LivoxLidarEthernetPacket.data_offset + packet.raw_data.length ≤ datagram.size
  no_underflow : LivoxLidarEthernetPacket.data_offset + packet.raw_data.length =
    (LivoxLidarEthernetPacket.of_buf datagram.buf).length.toNat
  points : packet.RawPointsInside

/-- The way of a datagram to the queues completes; the data of the IMU are copied out of received
bytes, and a packet that is queued is decoded in bounds. -/
def SafelyDecoded (handle : UInt32) (dev_type : UInt8) (now : UInt64) (past_end : Nat → UInt8)
    (datagram : Datagram) : Prop :=
  ∃ received, data_handler_handle handle dev_type now past_end datagram = .ok received ∧
    (received.imu_data.isSome → LivoxLidarEthernetPacket.data_offset +
      LivoxLidarEthernetPacket.sizeof_raw_imu_point ≤ datagram.size) ∧
    ∀ packet ∈ received.raw_packet, CopiedInside datagram packet

/-- The lengths in the header of a point datagram agree with each other and with its size. -/
structure LivoxLidarEthernetPacket.Consistent (data : LivoxLidarEthernetPacket) (size : Nat) :
    Prop where
  dot_num_ne : data.dot_num ≠ 0
  offset_le : data_offset ≤ data.length.toNat
  length_le : data.length.toNat ≤ size
  points_le : raw_point_size data.data_type * data.dot_num.toNat ≤ data.length.toNat - data_offset

section Reception

variable {handle : UInt32} {dev_type : UInt8} {now : UInt64} {past_end : Nat → UInt8}
  {data : LivoxLidarEthernetPacket} {datagram : Datagram}

/-- The data of the IMU are handed on as they are, without a look at the size. -/
theorem callback_imu
    (himu : data.data_type = LivoxLidarEthernetPacket.kLivoxLidarImuData) :
    on_livox_lidar_point_cloud_callback handle dev_type now past_end data = .ok
      { is_timestamp_sync := decide (data.time_type ≠ kTimestampTypeNoSync)
        imu_data := some (imu_data_of handle now data), raw_packet := none } :=
  if_pos himu

/-- A point datagram queues one packet, or ends in a fault. -/
theorem callback_eq_ok_iff {received : Received}
    (hpoints : data.data_type ≠ LivoxLidarEthernetPacket.kLivoxLidarImuData) :
    on_livox_lidar_point_cloud_callback handle dev_type now past_end data = .ok received ↔
      ∃ point_interval raw_data, data.point_interval = .ok point_interval ∧
        data.copy_data = .ok raw_data ∧
        received =
          { is_timestamp_sync := decide (data.time_type ≠ kTimestampTypeNoSync)
            imu_data := none
            raw_packet :=
              some (raw_packet_of handle dev_type now past_end data point_interval raw_data) } := by
  unfold on_livox_lidar_point_cloud_callback
  rw [if_neg hpoints]
  constructor
  · intro h
    obtain ⟨point_interval, hinterval, h⟩ := bind_eq_ok_iff.1 h
    obtain ⟨raw_data, hcopy, h⟩ := bind_eq_ok_iff.1 h
    exact ⟨point_interval, raw_data, hinterval, hcopy, (Except.ok.inj h).symm⟩
  · rintro ⟨point_interval, raw_data, hinterval, hcopy, rfl⟩
    rw [hinterval, ok_bind, hcopy, ok_bind]

theorem rawPointsInside_raw_packet_of {point_interval : UInt64} {raw_data : List UInt8} :
    (raw_packet_of handle dev_type now past_end data point_interval raw_data).RawPointsInside ↔
      raw_point_size data.data_type * data.dot_num.toNat ≤ raw_data.length := by
  rw [RawPacket.rawPointsInside_iff]
  simp [raw_packet_of]

/-- A datagram is decoded in bounds exactly when all of its IMU data have been received, or the
lengths in the header of its points are consistent: nothing on its way checks them. -/
theorem safely_decoded_iff :
    SafelyDecoded handle dev_type now past_end datagram ↔
      if (LivoxLidarEthernetPacket.of_buf datagram.buf).data_type =
          LivoxLidarEthernetPacket.kLivoxLidarImuData then
        LivoxLidarEthernetPacket.data_offset + LivoxLidarEthernetPacket.sizeof_raw_imu_point ≤
          datagram.size
      else (LivoxLidarEthernetPacket.of_buf datagram.buf).Consistent datagram.size := by
  unfold SafelyDecoded data_handler_handle
  have hsize := datagram.size_le
  by_cases hpoints : (LivoxLidarEthernetPacket.of_buf datagram.buf).data_type =
      LivoxLidarEthernetPacket.kLivoxLidarImuData
  · rw [if_pos hpoints, callback_imu hpoints]
    constructor
    · rintro ⟨received, hreceived, himu, -⟩
      obtain rfl := Except.ok.inj hreceived
      exact himu rfl
    · intro hfits
      exact ⟨_, rfl, fun _ => hfits, by simp⟩
  · simp only [if_neg hpoints, callback_eq_ok_iff hpoints]
    constructor
    · rintro ⟨_, ⟨point_interval, raw_data, hinterval, hcopy, rfl⟩, -, hinside⟩
      have hpacket := hinside _ rfl
      obtain ⟨hdot, rfl⟩ := LivoxLidarEthernetPacket.point_interval_eq_ok_iff.1 hinterval
      obtain ⟨hoffset, hbuffer, rfl⟩ := LivoxLidarEthernetPacket.copy_data_eq_ok_iff.1 hcopy
      have hpoint := rawPointsInside_raw_packet_of.1 hpacket.points
      have hreceived := hpacket.received
      have hlength := hpacket.no_underflow
      rw [hlength] at hreceived
      rw [Pointer.length_load] at hpoint
      exact ⟨hdot, hoffset, hreceived, hpoint⟩
    · rintro ⟨hdot, hoffset, hreceived, hpoint⟩
      refine ⟨_, ⟨_, _, LivoxLidarEthernetPacket.point_interval_eq_ok_iff.2 ⟨hdot, rfl⟩,
        LivoxLidarEthernetPacket.copy_data_eq_ok_iff.2 ⟨hoffset, by omega, rfl⟩, rfl⟩, by simp, ?_⟩
      intro packet hmem
      obtain rfl : packet = raw_packet_of handle dev_type now past_end _ _ _ :=
        (Option.some.inj hmem).symm
      have hcopied := Nat.add_sub_cancel' hoffset
      refine ⟨?_, ?_, rawPointsInside_raw_packet_of.2 ?_⟩
      · simp only [raw_packet_of, Pointer.length_load]
        omega
      · simp only [raw_packet_of, Pointer.length_load]
        omega
      · rw [Pointer.length_load]
        exact hpoint

end Reception

section Queue

variable {F : Type} [Coordinate F]

/-- The packets that have been processed or wait in the queue, in the order of their arrival. -/
def PubRun.received (s : PubRun F) : List RawPacket := s.processed ++ s.handler.raw_packet_queue

/-- The packet that an event adds to the queue. -/
def PubEvent.arrival : PubEvent → Option RawPacket
  | .packet raw_packet => some raw_packet
  | _ => none

/-- Only an arrival changes the received packets. -/
theorem step_received {s t : PubRun F} (hready : s.Ready) {event : PubEvent}
    (hstep : s.step event = .ok t) : t.received = s.received ++ event.arrival.toList := by
  cases event with
  | packet packet =>
    obtain rfl := Except.ok.inj hstep
    exact (List.append_assoc ..).symm
  | timestamp_sync is_timestamp_sync =>
    obtain rfl := Except.ok.inj hstep
    exact (List.append_nil _).symm
  | process =>
    suffices t.received = s.received from this.trans (List.append_nil _).symm
    obtain rfl | ⟨raw_data, rest, hqueue, rfl⟩ := PubRun.step_process_cases hstep
    · rfl
    · -- the processing of a packet puts none into the queue
      show s.processed ++ [raw_data] ++ rest = s.processed ++ s.handler.raw_packet_queue
      rw [hqueue, List.append_assoc]
      rfl
  | timer now_time =>
    suffices t.received = s.received from this.trans (List.append_nil _).symm
    obtain rfl | ⟨handler, published, hchecked, rfl⟩ := step_timer_cases hready hstep
    · rfl
    · simp [PubRun.received, hchecked.same.raw_packet_queue]

/-- In a run the packets are received in the order in which they arrive. -/
theorem exec_received {s t : PubRun F} (hready : s.Ready) {events : List PubEvent}
    (hrun : exec PubRun.step s events = .ok t) :
    t.received = s.received ++ events.filterMap PubEvent.arrival := by
  induction events generalizing s with
  | nil =>
    cases hrun
    exact (List.append_nil _).symm
  | cons event events ih =>
    obtain ⟨u, hone, hrest⟩ := exec_cons_eq_ok_iff.1 hrun
    rw [ih (step_ok_ready hready hone) hrest, step_received hready hone, List.append_assoc]
    cases event <;> rfl

/-- The queue hands every packet on as it arrived: when the arriving packets can be read inside,
so can the ones that are decoded, in every run. -/
theorem processed_points_inside (publish_interval : PublishInterval)
    (lidar_extrinsics : Std.TreeMap UInt32 (LidarExtParameter F)) {events : List PubEvent}
    (hevents : ∀ packet, PubEvent.packet packet ∈ events → packet.RawPointsInside) :
    StatesSatisfy PubRun.step (fun s => ∀ packet ∈ s.processed, packet.RawPointsInside)
      (PubRun.start publish_interval lidar_extrinsics) events := by
  rw [statesSatisfy_iff_reached]
  intro prior t hprior hrun packet hpacket
  have hreceived := exec_received (start_ready publish_interval lidar_extrinsics) hrun
  have hmem : packet ∈ prior.filterMap PubEvent.arrival := by
    have hin : packet ∈ t.received := List.mem_append_left _ hpacket
    rw [hreceived] at hin
    simpa [PubRun.received, PubRun.start, PubHandler.start] using hin
  obtain ⟨event, hevent, harrival⟩ := List.mem_filterMap.1 hmem
  cases event with
  | packet arrived =>
    obtain rfl := Option.some.inj harrival
    exact hevents _ (hprior.subset hevent)
  | timestamp_sync is_timestamp_sync => cases harrival
  | process => cases harrival
  | timer now_time => cases harrival

end Queue

/-- A point datagram of 50 bytes whose header counts no points, or one point more than follows. -/
def short_datagram (dot_num : UInt8) : Datagram where
  buf :=
    { block := fun i => if i = 1 then 50 else if i = 5 then dot_num else if i = 10 then 1 else 0
      offset := 0 }
  size := 50
  size_le := by decide

theorem no_points_divides_by_zero :
    ¬ ∀ (handle : UInt32) (dev_type : UInt8) (now : UInt64) (past_end : Nat → UInt8)
      (datagram : Datagram), SafelyDecoded handle dev_type now past_end datagram := by
  intro h
  obtain ⟨received, hreceived, _⟩ := h 7 kLivoxLidarTypeMid360 0 (fun _ => 0) (short_datagram 0)
  obtain ⟨_, _, hinterval, _⟩ := (callback_eq_ok_iff (by decide)).1 hreceived
  exact (LivoxLidarEthernetPacket.point_interval_eq_ok_iff.1 hinterval).1 (by decide)

end livox_ros
