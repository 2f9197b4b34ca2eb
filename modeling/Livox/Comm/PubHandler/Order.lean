import Livox.Comm.PubHandler.Cadence

open checked execution livox_lidar

namespace livox_ros

/-- Points in the order of their times. -/
def InTimeOrder {F : Type} (points : List (PointXyzlt F)) : Prop :=
  points.Pairwise fun earlier later => earlier.offset_time ≤ later.offset_time

/-- The accumulator is sorted, between its base time and its recent time stamp. -/
structure LidarPubHandler.TimesOrdered {F : Type} (handler : LidarPubHandler F) : Prop where
  sorted : InTimeOrder handler.points_clouds
  base_le : ∀ point ∈ handler.points_clouds, handler.get_lidar_base_time ≤ point.offset_time
  le_recent : ∀ point ∈ handler.points_clouds, point.offset_time ≤ handler.get_recent_time_stamp

/-- A sorted accumulator begins with its least time and ends with its greatest. -/
theorem InTimeOrder.timesOrdered {F : Type} {handler : LidarPubHandler F}
    (h : InTimeOrder handler.points_clouds) : handler.TimesOrdered where
  sorted := h
  base_le := by
    intro point hpoint
    unfold LidarPubHandler.get_lidar_base_time
    unfold InTimeOrder at h
    cases hpoints : handler.points_clouds with
    | nil =>
      rw [hpoints] at hpoint
      cases hpoint
    | cons first rest =>
      rw [hpoints] at hpoint h
      rcases List.mem_cons.1 hpoint with rfl | hrest
      · exact UInt64.le_refl _
      · exact (List.pairwise_cons.1 h).1 point hrest
  le_recent := by
    intro point hpoint
    unfold LidarPubHandler.get_recent_time_stamp
    unfold InTimeOrder at h
    rcases List.eq_nil_or_concat' handler.points_clouds with hpoints | ⟨front, last, hpoints⟩
    · rw [hpoints] at hpoint
      cases hpoint
    · rw [hpoints] at hpoint h
      rw [hpoints, List.getLast?_concat]
      rcases List.mem_append.1 hpoint with hfront | hlast
      · exact (List.pairwise_append.1 h).2.2 point hfront last (List.mem_singleton_self last)
      · rw [List.mem_singleton.1 hlast]
        exact UInt64.le_refl _

namespace RawPacket

/-- The time of the last point of a packet, without the wrap at 64 bits. -/
def finish (packet : RawPacket) : ℕ :=
  packet.time_stamp.toNat + (packet.point_num.toNat - 1) * packet.point_interval.toNat

/-- The times of the first and the last point. -/
def times (packet : RawPacket) : ℕ × ℕ := (packet.time_stamp.toNat, packet.finish)

/-- When the last point fits, so do the others. -/
theorem point_offset_time_toNat {packet : RawPacket} (hfits : packet.finish < 2 ^ 64) {i : ℕ}
    (hi : i < packet.point_num.toNat) :
    (point_offset_time packet (UInt32.ofNat i)).toNat =
      packet.time_stamp.toNat + i * packet.point_interval.toNat := by
  have hle : i * packet.point_interval.toNat ≤
      (packet.point_num.toNat - 1) * packet.point_interval.toNat :=
    Nat.mul_le_mul_right _ (by omega)
  unfold finish at hfits
  simp only [point_offset_time, UInt64.toNat_add, UInt64.toNat_mul, UInt32.toNat_toUInt64,
    LidarPubHandler.index_toNat hi]
  rw [Nat.mod_eq_of_lt (a := i * packet.point_interval.toNat) (by omega), Nat.mod_eq_of_lt (by omega)]

end RawPacket

section Decoded

variable {F : Type} [Coordinate F] (extrinsic : ExtParameterDetailed F) {packet : RawPacket}

/-- The points of one iteration have its time, two in a double echo. -/
theorem offset_time_of_mem_decode_point {i : UInt32} {point : PointXyzlt F}
    (hpoint : point ∈ LidarPubHandler.decode_point extrinsic packet i) :
    point.offset_time = point_offset_time packet i := by
  by_cases hread : raw_point_size packet.data_type = 0
  · unfold raw_point_size at hread
    unfold LidarPubHandler.decode_point at hpoint
    split_ifs at hread hpoint
    cases hpoint
  · exact (decode_point_times extrinsic hread i).2 point hpoint

/-- The point of some iteration is a point of the packet, and there are no others. -/
theorem exists_index_of_mem_decoded_points {point : PointXyzlt F}
    (hpoint : point ∈ LidarPubHandler.decoded_points extrinsic packet) :
    ∃ i < packet.point_num.toNat, point.offset_time = point_offset_time packet (UInt32.ofNat i) := by
  by_cases hlidar : packet.lidar_type = .kLivoxLidarType
  · rw [LidarPubHandler.decoded_points_eq _ hlidar] at hpoint
    obtain ⟨i, hi, hdecoded⟩ := List.mem_flatMap.1 hpoint
    exact ⟨i, List.mem_range.1 hi, offset_time_of_mem_decode_point extrinsic hdecoded⟩
  · simp [LidarPubHandler.decoded_points, LidarPubHandler.point_cloud_process, hlidar] at hpoint

/-- A packet of another type decodes to nothing. -/
theorem decoded_points_of_unread (hread : raw_point_size packet.data_type = 0) :
    LidarPubHandler.decoded_points extrinsic packet = [] := by
  unfold raw_point_size at hread
  unfold LidarPubHandler.decoded_points LidarPubHandler.point_cloud_process
    LidarPubHandler.livox_lidar_point_cloud_process
  split_ifs at hread ⊢ <;> rfl

/-- The points of a packet lie between its time stamp and its last point. -/
theorem decoded_points_between (hfits : packet.finish < 2 ^ 64) {point : PointXyzlt F}
    (hpoint : point ∈ LidarPubHandler.decoded_points extrinsic packet) :
    packet.time_stamp.toNat ≤ point.offset_time.toNat ∧ point.offset_time.toNat ≤ packet.finish := by
  obtain ⟨i, hi, htime⟩ := exists_index_of_mem_decoded_points extrinsic hpoint
  rw [htime, RawPacket.point_offset_time_toNat hfits hi]
  exact ⟨Nat.le_add_right _ _, Nat.add_le_add_left (Nat.mul_le_mul_right _ (by omega)) _⟩

theorem decoded_points_inTimeOrder (hfits : packet.finish < 2 ^ 64) :
    InTimeOrder (LidarPubHandler.decoded_points extrinsic packet) := by
  by_cases hlidar : packet.lidar_type = .kLivoxLidarType
  · rw [LidarPubHandler.decoded_points_eq _ hlidar, InTimeOrder, List.pairwise_flatMap]
    constructor
    · intro i _
      apply List.pairwise_of_forall_mem_list
      intro first hfirst second hsecond
      rw [offset_time_of_mem_decode_point extrinsic hfirst,
        offset_time_of_mem_decode_point extrinsic hsecond]
      exact UInt64.le_refl _
    · refine List.pairwise_lt_range.imp_of_mem ?_
      intro i j hi hj hlt first hfirst second hsecond
      rw [offset_time_of_mem_decode_point extrinsic hfirst,
        offset_time_of_mem_decode_point extrinsic hsecond, UInt64.le_iff_toNat_le,
        RawPacket.point_offset_time_toNat hfits (List.mem_range.1 hi),
        RawPacket.point_offset_time_toNat hfits (List.mem_range.1 hj)]
      exact Nat.add_le_add_left (Nat.mul_le_mul_right _ hlt.le) _
  · simp [InTimeOrder, LidarPubHandler.decoded_points, LidarPubHandler.point_cloud_process, hlidar]

/-- Packets each of which begins when the one before it has ended decode to points in the order of
their times. -/
theorem inTimeOrder_flatMap {packets : List RawPacket}
    (hfits : ∀ packet ∈ packets, packet.finish < 2 ^ 64)
    (hspaced : packets.Pairwise fun earlier later => earlier.finish ≤ later.time_stamp.toNat) :
    InTimeOrder (packets.flatMap (LidarPubHandler.decoded_points extrinsic)) := by
  rw [InTimeOrder, List.pairwise_flatMap]
  refine ⟨fun packet hpacket => decoded_points_inTimeOrder extrinsic (hfits packet hpacket), ?_⟩
  refine hspaced.imp_of_mem ?_
  intro earlier later hearlier hlater hle first hfirst second hsecond
  have hend := (decoded_points_between extrinsic (hfits earlier hearlier) hfirst).2
  have hbegin := (decoded_points_between extrinsic (hfits later hlater) hsecond).1
  rw [UInt64.le_iff_toNat_le]
  exact (hend.trans hle).trans hbegin

end Decoded

section Run

variable {F : Type} [Coordinate F] {lidar_extrinsics : Std.TreeMap UInt32 (LidarExtParameter F)}
  {s t : PubRun F}

/-- The accumulator of every lidar holds the last points of those that its packets have been
decoded to: the others have been cut into frames. -/
structure PubRun.HoldsLatest (lidar_extrinsics : Std.TreeMap UInt32 (LidarExtParameter F))
    (s : PubRun F) : Prop where
  ready : s.Ready
  extrinsics : s.handler.lidar_extrinsics = lidar_extrinsics
  latest : ∀ id, s.handler.points_held id <:+ decoded_stream lidar_extrinsics s.processed id

theorem start_holdsLatest (publish_interval : PublishInterval)
    (lidar_extrinsics : Std.TreeMap UInt32 (LidarExtParameter F)) :
    (PubRun.start publish_interval lidar_extrinsics).HoldsLatest lidar_extrinsics where
  ready := start_ready publish_interval lidar_extrinsics
  extrinsics := rfl
  latest := by
    intro id
    simp [PubRun.start, PubHandler.start, PubHandler.points_held]

theorem step_holdsLatest (h : s.HoldsLatest lidar_extrinsics) {event : PubEvent}
    (hstep : s.step event = .ok t) : t.HoldsLatest lidar_extrinsics := by
  have hready := step_ok_ready h.ready hstep
  cases event with
  | packet raw_packet | timestamp_sync is_timestamp_sync =>
    obtain rfl := Except.ok.inj hstep
    exact ⟨hready, h.extrinsics, h.latest⟩
  | process =>
    obtain rfl | ⟨raw_data, rest, handler, _, hprocessed, rfl⟩ :=
      PubRun.step_process_spec h.ready.configured hstep
    · exact h
    · refine ⟨hready, hprocessed.same.lidar_extrinsics.trans h.extrinsics, fun id => ?_⟩
      obtain ⟨gone, hgone⟩ := h.latest id
      have hheld : s.handler.points_held id =
        { s.handler with raw_packet_queue := rest }.points_held id := rfl
      refine ⟨gone, ?_⟩
      rw [hprocessed.points, ← List.append_assoc, ← hheld, hgone, h.extrinsics,
        decoded_stream_append]
  | timer now_time =>
    obtain rfl | ⟨handler, published, hchecked, rfl⟩ := step_timer_cases h.ready hstep
    · exact h
    · obtain ⟨ids, _, hdrains, _⟩ := hchecked.cut
      refine ⟨hready, hchecked.same.lidar_extrinsics.trans h.extrinsics, fun other => ?_⟩
      rw [hdrains.points_held]
      split
      · exact List.nil_suffix
      · exact h.latest other

end Run

/-- A call of the point cloud callback: the lidar and its type, what the host clock shows, what lies
behind the copied bytes, and the header. -/
structure CallbackCall where
  handle : UInt32
  dev_type : UInt8
  now : UInt64
  past_end : Nat → UInt8
  data : LivoxLidarEthernetPacket

namespace CallbackCall

def time_stamp (call : CallbackCall) : UInt64 :=
  get_eth_packet_timestamp call.data.time_type call.data.timestamp call.now

/-- The time that the header gives the packet until. -/
def end_time (call : CallbackCall) : ℕ := call.time_stamp.toNat + call.data.time_interval.toNat * 100

/-- The interval between two points, in whole nanoseconds. -/
def interval (call : CallbackCall) : ℕ := call.data.time_interval.toNat * 100 / call.data.dot_num.toNat

/-- The time of the last point. -/
def last_time (call : CallbackCall) : ℕ :=
  call.time_stamp.toNat + (call.data.dot_num.toNat - 1) * call.interval

/-- What the publisher gets. -/
def events (call : CallbackCall) : Checked (List PubEvent) :=
  (on_livox_lidar_point_cloud_callback call.handle call.dev_type call.now call.past_end
    call.data).map Received.events

/-- The packet that is queued, around the bytes copied into it. -/
def packet (call : CallbackCall) (raw_data : List UInt8) : RawPacket :=
  raw_packet_of call.handle call.dev_type call.now call.past_end call.data
    (UInt64.ofNat call.interval) raw_data

variable {call : CallbackCall} {raw_data : List UInt8}

theorem last_time_le_end_time (call : CallbackCall) : call.last_time ≤ call.end_time := by
  unfold last_time end_time interval
  apply Nat.add_le_add_left
  calc (call.data.dot_num.toNat - 1) * (call.data.time_interval.toNat * 100 / call.data.dot_num.toNat)
      ≤ call.data.dot_num.toNat * (call.data.time_interval.toNat * 100 / call.data.dot_num.toNat) :=
        Nat.mul_le_mul_right _ (Nat.sub_le _ _)
    _ ≤ call.data.time_interval.toNat * 100 := Nat.mul_div_le _ _

theorem finish_packet (call : CallbackCall) (raw_data : List UInt8) :
    (call.packet raw_data).finish = call.last_time := by
  have htime := call.data.time_interval.toNat_lt
  have hdiv : call.interval ≤ call.data.time_interval.toNat * 100 := Nat.div_le_self _ _
  unfold RawPacket.finish last_time
  simp only [packet, raw_packet_of, UInt16.toNat_toUInt32, UInt64.toNat_ofNat']
  rw [Nat.mod_eq_of_lt (by omega)]
  rfl

/-- The times of the first and the last point. -/
def times (call : CallbackCall) : ℕ × ℕ := (call.time_stamp.toNat, call.last_time)

theorem times_packet (call : CallbackCall) (raw_data : List UInt8) :
    (call.packet raw_data).times = call.times := by
  rw [RawPacket.times, call.finish_packet]
  rfl

theorem lidar_id_packet : (call.packet raw_data).lidar_id = call.handle := rfl

/-- A call that completes queues its packet, unless the data are of the IMU. -/
theorem events_eq_ok {events : List PubEvent} (h : call.events = .ok events) :
    (arrivals events = [] ∧ call.data.data_type = LivoxLidarEthernetPacket.kLivoxLidarImuData) ∨
      call.data.data_type ≠ LivoxLidarEthernetPacket.kLivoxLidarImuData ∧
        ∃ raw_data, arrivals events = [call.packet raw_data] := by
  by_cases hpoints : call.data.data_type = LivoxLidarEthernetPacket.kLivoxLidarImuData
  · obtain ⟨received, hreceived, rfl⟩ := map_eq_ok_iff.1 h
    obtain rfl := Except.ok.inj ((callback_imu hpoints).symm.trans hreceived)
    exact Or.inl ⟨rfl, hpoints⟩
  · obtain ⟨received, hreceived, rfl⟩ := map_eq_ok_iff.1 h
    obtain ⟨point_interval, raw_data, hinterval, _, rfl⟩ := (callback_eq_ok_iff hpoints).1 hreceived
    obtain ⟨_, rfl⟩ := LivoxLidarEthernetPacket.point_interval_eq_ok_iff.1 hinterval
    exact Or.inr ⟨hpoints, raw_data, rfl⟩

end CallbackCall

/-- An event of the publisher, where packets come by the callback. -/
inductive StreamEvent where
  | callback (call : CallbackCall)
  | process
  | timer (now_time : Int)

def StreamEvent.pub_events : StreamEvent → Checked (List PubEvent)
  | .callback call => call.events
  | .process => .ok [.process]
  | .timer now_time => .ok [.timer now_time]

/-- The call, when it brings points of the lidar. -/
def StreamEvent.call_of (id : UInt32) : StreamEvent → Option CallbackCall
  | .callback call =>
    if call.handle = id ∧ call.data.data_type ≠ LivoxLidarEthernetPacket.kLivoxLidarImuData then
      some call
    else none
  | _ => none

/-- The calls that bring points of the lidar, in their order. -/
def calls_of (id : UInt32) (events : List StreamEvent) : List CallbackCall :=
  events.filterMap (StreamEvent.call_of id)

def PubRun.receive {F : Type} [Coordinate F] (s : PubRun F) (event : StreamEvent) :
    Checked (PubRun F) := do
  let events ← event.pub_events
  exec PubRun.step s events

/-- The packets of a lidar follow each other without overlap, and none runs into the end of the
64 bits of a time. -/
structure SpacedStream (id : UInt32) (events : List StreamEvent) : Prop where
  spaced : (calls_of id events).IsChain fun earlier later =>
    earlier.end_time ≤ later.time_stamp.toNat
  fits : ∀ call ∈ calls_of id events, call.last_time < 2 ^ 64

section Receive

variable {F : Type} [Coordinate F] {s t : PubRun F} {id : UInt32} {events : List StreamEvent}

/-- The packets of a lidar that arrive in a run are those of its calls. -/
theorem exec_receive (hrun : exec PubRun.receive s events = .ok t) (id : UInt32) :
    ∃ pub_events, exec PubRun.step s pub_events = .ok t ∧
      ((arrivals pub_events).filter fun packet => packet.lidar_id = id).map RawPacket.times =
        (calls_of id events).map CallbackCall.times := by
  induction events generalizing s with
  | nil => exact ⟨[], hrun, rfl⟩
  | cons event events ih =>
    obtain ⟨u, hone, hrest⟩ := exec_cons_eq_ok_iff.1 hrun
    obtain ⟨front, hfront, hone⟩ := bind_eq_ok_iff.1 hone
    obtain ⟨back, hback, htimes⟩ := ih hrest
    refine ⟨front ++ back, exec_append_eq_ok_iff.2 ⟨u, hone, hback⟩, ?_⟩
    have hsplit : arrivals (front ++ back) = arrivals front ++ arrivals back :=
      List.filterMap_append
    rw [hsplit, List.filter_append, List.map_append, htimes]
    cases event with
    | callback call =>
      obtain ⟨hnone, himu⟩ | ⟨hpoints, raw_data, hone⟩ := CallbackCall.events_eq_ok hfront
      · have hcalls : calls_of id (.callback call :: events) = calls_of id events := by
          simp [calls_of, StreamEvent.call_of, himu]
        rw [hnone, hcalls]
        rfl
      · rw [hone]
        by_cases hid : call.handle = id
        · have hcalls : calls_of id (.callback call :: events) = call :: calls_of id events := by
            simp [calls_of, StreamEvent.call_of, hid, hpoints]
          rw [hcalls, List.filter_singleton, CallbackCall.lidar_id_packet, decide_eq_true hid,
            List.map_cons, ← call.times_packet raw_data]
          rfl
        · have hcalls : calls_of id (.callback call :: events) = calls_of id events := by
            simp [calls_of, StreamEvent.call_of, hid]
          rw [hcalls, List.filter_singleton, CallbackCall.lidar_id_packet, decide_eq_false hid]
          rfl
    | process | timer now_time =>
      obtain rfl := Except.ok.inj hfront
      rfl

/-- Between spaced packets the order is that of any two of them. -/
theorem SpacedStream.pairwise (h : SpacedStream id events) :
    (calls_of id events).Pairwise fun earlier later =>
      earlier.end_time ≤ later.time_stamp.toNat := by
  have : Trans (fun earlier later : CallbackCall => earlier.end_time ≤ later.time_stamp.toNat)
      (fun earlier later : CallbackCall => earlier.end_time ≤ later.time_stamp.toNat)
      (fun earlier later : CallbackCall => earlier.end_time ≤ later.time_stamp.toNat) :=
    ⟨fun hfirst hsecond => (hfirst.trans (Nat.le_add_right _ _)).trans hsecond⟩
  exact List.isChain_iff_pairwise.1 h.spaced

/-- The packets of spaced calls are spaced, and their times fit. -/
theorem SpacedStream.packets (h : SpacedStream id events) {packets : List RawPacket}
    (htimes : packets.map RawPacket.times = (calls_of id events).map CallbackCall.times) :
    (∀ packet ∈ packets, packet.finish < 2 ^ 64) ∧
      packets.Pairwise fun earlier later => earlier.finish ≤ later.time_stamp.toNat := by
  constructor
  · intro packet hpacket
    have hmem : packet.times ∈ (calls_of id events).map CallbackCall.times := by
      rw [← htimes]
      exact List.mem_map_of_mem hpacket
    obtain ⟨call, hcall, heq⟩ := List.mem_map.1 hmem
    have hfinish : call.last_time = packet.finish := congrArg Prod.snd heq
    rw [← hfinish]
    exact h.fits call hcall
  · have hcalls : ((calls_of id events).map CallbackCall.times).Pairwise fun earlier later =>
        earlier.2 ≤ later.1 :=
      List.pairwise_map.2 (h.pairwise.imp fun {earlier later} hle =>
        (earlier.last_time_le_end_time).trans hle)
    rw [← htimes, List.pairwise_map] at hcalls
    exact hcalls

/-- A run over the beginning of a spaced stream is one of a spaced stream. -/
theorem SpacedStream.earlier {earlier : List StreamEvent} (h : SpacedStream id events)
    (hfront : earlier <+: events) : SpacedStream id earlier where
  spaced := h.spaced.prefix (hfront.filterMap _)
  fits := fun call hcall => h.fits call ((hfront.filterMap _).subset hcall)

end Receive

/-- The times that the points of a packet have: they begin with its time stamp, do not run
backwards, and stay within the time that its header gives. -/
structure CallbackCall.PointTimes {F : Type} (call : CallbackCall) (points : List (PointXyzlt F)) :
    Prop where
  decoded : raw_point_size call.data.data_type ≠ 0 → points ≠ []
  start : ∀ first ∈ points.head?, first.offset_time = call.time_stamp
  sorted : InTimeOrder points
  le_end : ∀ point ∈ points, point.offset_time.toNat ≤ call.end_time

section Times

variable {F : Type} [Coordinate F]

theorem pointTimes_of_fits (extrinsic : ExtParameterDetailed F) {call : CallbackCall}
    (hdot : call.data.dot_num ≠ 0) (hfits : call.last_time < 2 ^ 64) (raw_data : List UInt8) :
    call.PointTimes (LidarPubHandler.decoded_points extrinsic (call.packet raw_data)) := by
  have hfinish : (call.packet raw_data).finish < 2 ^ 64 := by rwa [call.finish_packet]
  have hspan : raw_point_size call.data.data_type ≠ 0 →
      ∃ first, (LidarPubHandler.decoded_points extrinsic (call.packet raw_data)).head? = some first ∧
        first.offset_time = call.time_stamp := by
    intro hread
    obtain ⟨first, last, hhead, _, hends⟩ := exists_ends_of_span (points_span_decoded extrinsic
      (fromCallback_raw_packet_of hdot call.handle call.dev_type call.now call.past_end raw_data)
      hread)
    exact ⟨first, hhead, (congrArg Prod.fst hends).symm.trans first_time_eq⟩
  refine ⟨fun hread hnil => ?_, fun first hfirst => ?_, decoded_points_inTimeOrder extrinsic hfinish,
    fun point hpoint => ?_⟩
  · obtain ⟨first, hhead, _⟩ := hspan hread
    rw [hnil] at hhead
    cases hhead
  · by_cases hread : raw_point_size call.data.data_type = 0
    · rw [decoded_points_of_unread extrinsic hread] at hfirst
      cases hfirst
    · obtain ⟨other, hhead, htime⟩ := hspan hread
      rw [← Option.some.inj (hhead.symm.trans hfirst)]
      exact htime
  · have hle := (decoded_points_between extrinsic hfinish hpoint).2
    rw [call.finish_packet] at hle
    exact hle.trans call.last_time_le_end_time

/-- In a stream of spaced packets the accumulator is sorted at every moment. -/
theorem timesOrdered_of_spaced (publish_interval : PublishInterval)
    (lidar_extrinsics : Std.TreeMap UInt32 (LidarExtParameter F)) {id : UInt32}
    {events : List StreamEvent} (hstream : SpacedStream id events) :
    StatesSatisfy PubRun.receive
      (fun s => ∀ handler ∈ s.handler.lidar_process_handlers[id]?, handler.TimesOrdered)
      (PubRun.start publish_interval lidar_extrinsics) events := by
  rw [statesSatisfy_iff_reached]
  intro earlier t hfront hrun handler hhandler
  obtain ⟨pub_events, hpub, htimes⟩ := exec_receive hrun id
  obtain ⟨hfits, hspaced⟩ := (hstream.earlier hfront).packets htimes
  have hlatest := exec_invariant (fun s event t h hstep => step_holdsLatest h hstep)
    (start_holdsLatest publish_interval lidar_extrinsics) hpub
  have hreceived := exec_received (start_ready publish_interval lidar_extrinsics) hpub
  -- the processed packets of the lidar are the first of those that have arrived
  have hprocessed : t.processed.filter (fun packet => packet.lidar_id = id) <+:
      (arrivals pub_events).filter fun packet => packet.lidar_id = id := by
    apply List.IsPrefix.filter
    exact ⟨t.handler.raw_packet_queue, hreceived⟩
  apply InTimeOrder.timesOrdered
  rw [← PubHandler.points_held_of_some hhandler]
  apply List.Pairwise.sublist (hlatest.latest id).sublist
  apply inTimeOrder_flatMap
  · exact fun packet hpacket => hfits packet (hprocessed.subset hpacket)
  · exact hspaced.sublist hprocessed.sublist

/-- The points of every packet whose last point fits into a time begin with its time stamp, do not
run backwards and stay within the time of its header; and in every run over a stream of such packets
that do not overlap the accumulator of the lidar is sorted between its base time and its recent time
stamp. -/
theorem point_times_ordered (publish_interval : PublishInterval)
    (lidar_extrinsics : Std.TreeMap UInt32 (LidarExtParameter F)) :
    (∀ (extrinsic : ExtParameterDetailed F) (call : CallbackCall) (raw_data : List UInt8),
      call.data.dot_num ≠ 0 → call.last_time < 2 ^ 64 →
        call.PointTimes (LidarPubHandler.decoded_points extrinsic (call.packet raw_data))) ∧
      ∀ (id : UInt32) (events : List StreamEvent), SpacedStream id events →
        StatesSatisfy PubRun.receive
          (fun s => ∀ handler ∈ s.handler.lidar_process_handlers[id]?, handler.TimesOrdered)
          (PubRun.start publish_interval lidar_extrinsics) events :=
  ⟨fun extrinsic _ raw_data hdot hfits => pointTimes_of_fits extrinsic hdot hfits raw_data,
    fun _ _ hstream => timesOrdered_of_spaced publish_interval lidar_extrinsics hstream⟩

end Times

/-- A packet of two points at this time of the lidar's clock. -/
def call_at (timestamp : UInt64) : CallbackCall where
  handle := 7
  dev_type := kLivoxLidarTypeMid360
  now := 0
  past_end := fun _ => 0
  data :=
    { length := 64, time_interval := 1, dot_num := 2
      data_type := kLivoxLidarCartesianCoordinateHighData, time_type := kTimestampTypeGptpOrPtp
      timestamp, data := { block := fun _ => 0, offset := 36 } }

theorem point_times_ordered_two_packets :
    let events : List StreamEvent :=
      [.callback (call_at 1000), .process, .callback (call_at 1100), .timer 0, .process]
    (call_at 1000).PointTimes (LidarPubHandler.decoded_points
        (ExtParameterDetailed.initial (F := ℝ)) ((call_at 1000).packet [])) ∧
      StatesSatisfy PubRun.receive
        (fun s => ∀ handler ∈ s.handler.lidar_process_handlers[(7 : UInt32)]?, handler.TimesOrdered)
        (@PubRun.start ℝ ⟨10000000, by decide⟩ ∅) events := by
  intro events
  have hordered := @point_times_ordered ℝ _ ⟨10000000, by decide⟩ ∅
  refine ⟨hordered.1 _ _ _ (by decide) (by decide), hordered.2 _ _ ⟨?_, ?_⟩⟩
  · change List.IsChain _ [call_at 1000, call_at 1100]
    simp [call_at, CallbackCall.end_time, CallbackCall.time_stamp, get_eth_packet_timestamp]
  · change ∀ call ∈ [call_at 1000, call_at 1100], _
    simp [call_at, CallbackCall.last_time, CallbackCall.interval, CallbackCall.time_stamp,
      get_eth_packet_timestamp]

/-- The second point of a packet from the last nanosecond is back at the beginning of time. -/
theorem last_nanosecond_not_ordered :
    ¬ ∀ (extrinsic : ExtParameterDetailed ℝ) (call : CallbackCall) (raw_data : List UInt8),
      call.data.dot_num ≠ 0 →
        call.PointTimes (LidarPubHandler.decoded_points extrinsic (call.packet raw_data)) := by
  intro h
  have hsorted := (h ExtParameterDetailed.initial (call_at 0xFFFFFFFFFFFFFFFF) [] (by decide)).sorted
  rw [LidarPubHandler.decoded_points_eq _ rfl] at hsorted
  change InTimeOrder ([_] ++ ([_] ++ [])) at hsorted
  have hle := (List.pairwise_cons.1 hsorted).1 _ (List.mem_singleton_self _)
  revert hle
  decide

end livox_ros
