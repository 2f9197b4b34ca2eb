import Livox.Library.Cadence
import Livox.Comm.PubHandler.Datagram

open checked execution cadence

namespace livox_ros

namespace RawPacket

/-- The time of the first point of a packet. -/
def first_time (packet : RawPacket) : UInt64 := point_offset_time packet 0

/-- The time of the last point of a packet. -/
def last_time (packet : RawPacket) : UInt64 := point_offset_time packet (packet.point_num - 1)

/-- What the packets that the callback queues have in common: they have points, which follow each
other within the time that their header can express. -/
structure FromCallback (packet : RawPacket) : Prop where
  livox : packet.lidar_type = .kLivoxLidarType
  point_num_ne : packet.point_num ≠ 0
  span_le : packet.point_num.toNat * packet.point_interval.toNat ≤ 6553500

end RawPacket

/-- The callback divides the time of the header between the points. -/
theorem fromCallback_raw_packet_of {data : LivoxLidarEthernetPacket} (hdot : data.dot_num ≠ 0)
    (handle : UInt32) (dev_type : UInt8) (now : UInt64) (past_end : Nat → UInt8)
    (raw_data : List UInt8) :
    (raw_packet_of handle dev_type now past_end data
      (UInt64.ofNat (data.time_interval.toNat * 100 / data.dot_num.toNat)) raw_data).FromCallback := by
  have htime := data.time_interval.toNat_lt
  have hprod : data.dot_num.toNat * (data.time_interval.toNat * 100 / data.dot_num.toNat) ≤
      data.time_interval.toNat * 100 := Nat.mul_div_le _ _
  have hdiv : data.time_interval.toNat * 100 / data.dot_num.toNat ≤
      data.time_interval.toNat * 100 := Nat.div_le_self _ _
  refine ⟨rfl, ?_, ?_⟩
  · intro hzero
    apply hdot
    apply UInt16.toNat_inj.1
    simpa [raw_packet_of] using congrArg UInt32.toNat hzero
  · simp only [raw_packet_of, UInt16.toNat_toUInt32, UInt64.toNat_ofNat']
    rw [Nat.mod_eq_of_lt (by omega)]
    omega

theorem fromCallback_of_queued {handle : UInt32} {dev_type : UInt8} {now : UInt64}
    {past_end : Nat → UInt8} {datagram : Datagram} {received : Received} {packet : RawPacket}
    (hhandle : data_handler_handle handle dev_type now past_end datagram = .ok received)
    (hpacket : packet ∈ received.raw_packet) : packet.FromCallback := by
  unfold data_handler_handle at hhandle
  by_cases hpoints : (LivoxLidarEthernetPacket.of_buf datagram.buf).data_type =
      LivoxLidarEthernetPacket.kLivoxLidarImuData
  · obtain rfl := Except.ok.inj ((callback_imu hpoints).symm.trans hhandle)
    cases hpacket
  · obtain ⟨point_interval, raw_data, hinterval, _, rfl⟩ := (callback_eq_ok_iff hpoints).1 hhandle
    obtain ⟨hdot, rfl⟩ := LivoxLidarEthernetPacket.point_interval_eq_ok_iff.1 hinterval
    obtain rfl : packet = raw_packet_of handle dev_type now past_end _ _ _ :=
      (Option.some.inj hpacket).symm
    exact fromCallback_raw_packet_of hdot _ _ _ _ _

section Times

variable {packet : RawPacket}

theorem first_time_eq : packet.first_time = packet.time_stamp := by
  simp [RawPacket.first_time, point_offset_time]

/-- The points of a packet do not run backwards, once the time of the last is above what a packet
spans. -/
theorem first_time_le_last_time (h : packet.FromCallback) (hlate : 6553500 < packet.last_time.toNat) :
    packet.first_time.toNat ≤ packet.last_time.toNat := by
  have hpos : 1 ≤ packet.point_num.toNat := by
    have hne := h.point_num_ne
    rw [ne_eq, ← UInt32.toNat_inj] at hne
    exact Nat.one_le_iff_ne_zero.2 hne
  have hlast : (packet.point_num - 1).toNat = packet.point_num.toNat - 1 := by
    rw [UInt32.toNat_sub_of_le _ _ (by rw [UInt32.le_iff_toNat_le]; exact hpos)]
    rfl
  have hspan : (packet.point_num.toNat - 1) * packet.point_interval.toNat ≤ 6553500 :=
    (Nat.mul_le_mul_right _ (Nat.sub_le _ _)).trans h.span_le
  have htime : packet.last_time.toNat = (packet.time_stamp.toNat +
      (packet.point_num.toNat - 1) * packet.point_interval.toNat) % 2 ^ 64 := by
    simp only [RawPacket.last_time, point_offset_time, UInt64.toNat_add, UInt64.toNat_mul,
      UInt32.toNat_toUInt64, hlast, Nat.add_mod_mod]
  have hstamp := packet.time_stamp.toNat_lt
  rw [first_time_eq]
  rw [htime] at hlate ⊢
  omega

end Times

/-- The times of the first and the last of some points. -/
def points_span {F : Type} (points : List (PointXyzlt F)) : Option (UInt64 × UInt64) :=
  match points.head?, points.getLast? with
  | some first, some last => some (first.offset_time, last.offset_time)
  | _, _ => none

/-- The times of the first and the last point of a packet. -/
def RawPacket.span (packet : RawPacket) : UInt64 × UInt64 := (packet.first_time, packet.last_time)

section Span

variable {F : Type}

theorem points_span_nil : points_span ([] : List (PointXyzlt F)) = none := rfl

theorem points_span_of_ends {points : List (PointXyzlt F)} {first last : PointXyzlt F}
    (hfirst : points.head? = some first) (hlast : points.getLast? = some last) :
    points_span points = some (first.offset_time, last.offset_time) := by
  simp [points_span, hfirst, hlast]

/-- Points that have a span have a first and a last one. -/
theorem exists_ends_of_span {points : List (PointXyzlt F)} {span : UInt64 × UInt64}
    (h : points_span points = some span) :
    ∃ first last, points.head? = some first ∧ points.getLast? = some last ∧
      span = (first.offset_time, last.offset_time) := by
  unfold points_span at h
  split at h
  · rename_i first last hfirst hlast
    exact ⟨first, last, hfirst, hlast, (Option.some.inj h).symm⟩
  · cases h

/-- Points behind others extend the span by theirs. -/
theorem points_span_append {points added : List (PointXyzlt F)} {span : UInt64 × UInt64}
    (hadded : points_span added = some span) :
    points_span (points ++ added) = some (extend (points_span points) span) := by
  obtain ⟨first, last, hfirst, hlast, rfl⟩ := exists_ends_of_span hadded
  have hend : (points ++ added).getLast? = some last := by rw [List.getLast?_append, hlast]; rfl
  cases points with
  | nil =>
    rw [points_span_of_ends (by simpa using hfirst) hend]
    rfl
  | cons point rest =>
    obtain ⟨final, hfinal⟩ : ∃ final, (point :: rest).getLast? = some final :=
      ⟨_, List.getLast?_eq_some_getLast (List.cons_ne_nil point rest)⟩
    rw [points_span_of_ends rfl hend, points_span_of_ends rfl hfinal]
    rfl

variable [Coordinate F]

/-- The points of one iteration have the time of the packet's point. -/
theorem decode_point_times (extrinsic : ExtParameterDetailed F) {packet : RawPacket}
    (hpoints : raw_point_size packet.data_type ≠ 0) (i : UInt32) :
    LidarPubHandler.decode_point extrinsic packet i ≠ [] ∧
      ∀ point ∈ LidarPubHandler.decode_point extrinsic packet i,
        point.offset_time = point_offset_time packet i := by
  unfold raw_point_size at hpoints
  unfold LidarPubHandler.decode_point
  split_ifs at hpoints ⊢ <;> simp_all [cartesian_point, spherical_point]

/-- The points that a packet decodes to begin and end with its own. -/
theorem points_span_decoded (extrinsic : ExtParameterDetailed F) {packet : RawPacket}
    (hcallback : packet.FromCallback) (hpoints : raw_point_size packet.data_type ≠ 0) :
    points_span (LidarPubHandler.decoded_points extrinsic packet) = some packet.span := by
  obtain ⟨count, hcount⟩ : ∃ count, packet.point_num.toNat = count + 1 := by
    apply Nat.exists_eq_succ_of_ne_zero
    exact fun hzero => hcallback.point_num_ne (UInt32.toNat_inj.1 hzero)
  have hlast : UInt32.ofNat count = packet.point_num - 1 := by
    have hnum := packet.point_num.toNat_lt
    have hle : (1 : UInt32) ≤ packet.point_num := by
      rw [UInt32.le_iff_toNat_le, hcount]
      exact Nat.succ_le_succ (Nat.zero_le count)
    apply UInt32.toNat_inj.1
    rw [UInt32.toNat_sub_of_le _ _ hle, hcount, UInt32.toNat_ofNat', Nat.mod_eq_of_lt (by omega)]
    rfl
  rw [LidarPubHandler.decoded_points_eq _ hcallback.livox, hcount]
  obtain ⟨hfirst, hfirst_time⟩ := decode_point_times extrinsic hpoints 0
  obtain ⟨hfinal, hfinal_time⟩ := decode_point_times extrinsic hpoints (packet.point_num - 1)
  obtain ⟨first, back, hhead⟩ := List.exists_cons_of_ne_nil hfirst
  have htail := List.getLast?_eq_some_getLast hfinal
  have hend := hfinal_time _ (List.getLast_mem hfinal)
  have hbegin := hfirst_time first (by simp [hhead])
  rw [RawPacket.span, RawPacket.first_time, RawPacket.last_time, ← hbegin, ← hend]
  apply points_span_of_ends
  · rw [List.range_succ_eq_map, List.flatMap_cons]
    change (LidarPubHandler.decode_point extrinsic packet 0 ++ _).head? = _
    rw [hhead]
    rfl
  · rw [List.range_succ, List.flatMap_append, List.flatMap_singleton, hlast, List.getLast?_append,
      htail]
    rfl

end Span

/-- The condition of the timer of a synchronised lidar, as one on the span of its points. -/
def PublishInterval.SpanDue (publish_interval : PublishInterval) (span : UInt64 × UInt64) : Prop :=
  span.2 / kRatioOfMsToNs % publish_interval.ms = 0 ∧ span.2 / kRatioOfMsToNs ≠ 0 ∧
    publish_interval.tolerance ≤ span.2 - span.1

instance (publish_interval : PublishInterval) : DecidablePred publish_interval.SpanDue :=
  fun _ => inferInstanceAs (Decidable (_ ∧ _))

theorem syncDue_iff {F : Type} {handler : LidarPubHandler F} {publish_interval : PublishInterval} :
    handler.SyncDue publish_interval ↔
      ∃ span ∈ points_span handler.points_clouds, publish_interval.SpanDue span := by
  cases hpoints : handler.points_clouds with
  | nil => simp [LidarPubHandler.SyncDue, LidarPubHandler.get_recent_time_stamp, hpoints,
      points_span_nil]
  | cons point rest =>
    have hlast := List.getLast?_eq_some_getLast (List.cons_ne_nil point rest)
    rw [points_span_of_ends rfl hlast]
    simp [LidarPubHandler.SyncDue, LidarPubHandler.get_recent_time_stamp,
      LidarPubHandler.get_lidar_base_time, hpoints, hlast, PublishInterval.SpanDue]

/-- The first millisecond of an interval, in nanoseconds. -/
def kWindowNs : ℕ := kNsTolerantFrameTimeDeviation.toNat

section Due

variable {publish_interval : PublishInterval}

theorem PublishInterval.lower_toNat (publish_interval : PublishInterval) :
    10000000 ≤ publish_interval.ns.toNat := by
  have hlower := publish_interval.lower
  rwa [UInt64.le_iff_toNat_le] at hlower

/-- The millisecond of a time is a multiple of the interval's number of milliseconds exactly in the
first millisecond of an interval. -/
theorem ms_mod_eq_zero_iff (hwhole : publish_interval.ns % kRatioOfMsToNs = 0) (time : UInt64) :
    time / kRatioOfMsToNs % publish_interval.ms = 0 ↔
      time.toNat % publish_interval.ns.toNat < kWindowNs := by
  have hms : publish_interval.ns.toNat = 1000000 * (publish_interval.ns.toNat / 1000000) := by
    have hmod : publish_interval.ns.toNat % 1000000 = 0 := by
      simpa [← UInt64.toNat_inj, kRatioOfMsToNs] using hwhole
    omega
  have hparts := @Nat.mod_mul 1000000 (publish_interval.ns.toNat / 1000000) time.toNat
  rw [← hms] at hparts
  have hleft : time / kRatioOfMsToNs % publish_interval.ms = 0 ↔
      time.toNat / 1000000 % (publish_interval.ns.toNat / 1000000) = 0 := by
    simp [← UInt64.toNat_inj, kRatioOfMsToNs, PublishInterval.ms]
  rw [hleft, hparts]
  have hlow := Nat.mod_lt time.toNat (show 0 < 1000000 by decide)
  change _ ↔ _ < 1000000
  omega

theorem spanDue_iff (hwhole : publish_interval.ns % kRatioOfMsToNs = 0) (span : UInt64 × UInt64) :
    publish_interval.SpanDue span ↔ span.2.toNat % publish_interval.ns.toNat < kWindowNs ∧
      kWindowNs ≤ span.2.toNat ∧ publish_interval.tolerance ≤ span.2 - span.1 := by
  have hlate : span.2 / kRatioOfMsToNs ≠ 0 ↔ kWindowNs ≤ span.2.toNat := by
    rw [ne_eq, ← UInt64.toNat_inj]
    simp only [UInt64.toNat_div, UInt64.toNat_zero, Nat.div_eq_zero_iff]
    change ¬ (1000000 = 0 ∨ span.2.toNat < 1000000) ↔ 1000000 ≤ span.2.toNat
    omega
  rw [PublishInterval.SpanDue, ms_mod_eq_zero_iff hwhole, hlate]

theorem dueInWindow (hwhole : publish_interval.ns % kRatioOfMsToNs = 0) :
    DueInWindow publish_interval.SpanDue UInt64.toNat publish_interval.ns.toNat kWindowNs where
  pos := by decide
  lt := by
    have hlower := publish_interval.lower_toNat
    change 4 * 1000000 ≤ _
    omega
  inside := by
    intro span hdue
    obtain ⟨hmod, hlate, _⟩ := (spanDue_iff hwhole span).1 hdue
    exact ⟨hmod, hlate⟩
  iff := by
    intro span hordered
    have hlower := publish_interval.lower_toNat
    have hdeviation : kNsTolerantFrameTimeDeviation ≤ publish_interval.ns := by
      rw [UInt64.le_iff_toNat_le]
      change 1000000 ≤ _
      omega
    have hspan : publish_interval.tolerance ≤ span.2 - span.1 ↔
        publish_interval.ns.toNat ≤ span.2.toNat - span.1.toNat + kWindowNs := by
      rw [UInt64.le_iff_toNat_le, UInt64.toNat_sub_of_le _ _ (UInt64.le_iff_toNat_le.2 hordered),
        PublishInterval.tolerance, UInt64.toNat_sub_of_le _ _ hdeviation, kWindowNs]
      omega
    rw [spanDue_iff hwhole, hspan]

end Due

/-- A packet of points of one lidar. -/
structure RawPacket.OfLidar (packet : RawPacket) (id : UInt32) : Prop where
  callback : packet.FromCallback
  handle : packet.handle = id
  points : raw_point_size packet.data_type ≠ 0

theorem RawPacket.OfLidar.lidar_id {packet : RawPacket} {id : UInt32} (h : packet.OfLidar id) :
    packet.lidar_id = id := by
  unfold RawPacket.lidar_id PubHandler.get_lidar_id
  rw [if_pos h.callback.livox, h.handle]

/-- The times of the first and the last point of a frame of one lidar. -/
def frame_span {F : Type} : List (PublishedPacket F) → Option (UInt64 × UInt64)
  | [packet] => points_span packet.packet.points
  | _ => none

/-- The publisher with one synchronised lidar, of whose packets these have been checked, follows
the run of their spans: the published frames are those cut off, and what is accumulated is what is
held, extended by the packet whose check is to come. -/
structure PubRun.FollowsSpans {F : Type} [Coordinate F] (s : PubRun F)
    (publish_interval : PublishInterval) (id : UInt32) (checked : List RawPacket) : Prop where
  ready : s.Ready
  sync : s.handler.is_timestamp_sync = true
  interval : s.handler.publish_interval = publish_interval
  received : ∀ packet ∈ s.received, packet.OfLidar id
  published : s.published.map frame_span =
    (run publish_interval.SpanDue (checked.map RawPacket.span)).2.map some
  phase : (s.pending = none ∧ s.processed = checked ∧
      points_span (s.handler.points_held id) =
        (run publish_interval.SpanDue (checked.map RawPacket.span)).1) ∨
    ∃ packet, s.pending = some id ∧ s.processed = checked ++ [packet] ∧
      points_span (s.handler.points_held id) = some (extend
        (run publish_interval.SpanDue (checked.map RawPacket.span)).1 packet.span)

section Follow

variable {F : Type} [Coordinate F] {s : PubRun F} {publish_interval : PublishInterval}
  {id : UInt32} {checked : List RawPacket}

theorem decoded_stream_single (lidar_extrinsics : Std.TreeMap UInt32 (LidarExtParameter F))
    {packet : RawPacket} (h : packet.OfLidar id) :
    decoded_stream lidar_extrinsics [packet] id =
      LidarPubHandler.decoded_points (extrinsic_of lidar_extrinsics id) packet := by
  simp [decoded_stream, h.lidar_id]

theorem step_process_follows (h : s.FollowsSpans publish_interval id checked) :
    ∃ t, s.step .process = .ok t ∧ t.FollowsSpans publish_interval id checked := by
  rcases h.phase with ⟨hpending, hprocessed, hheld⟩ | ⟨packet, hpending, hprocessed, hheld⟩
  · obtain ⟨t, hstep⟩ := PubRun.step_process_completes s
    refine ⟨t, hstep, ?_⟩
    have hready := step_ok_ready h.ready hstep
    have hreceived := step_received h.ready hstep
    obtain rfl | ⟨raw_data, rest, handler, hqueue, hpacketProcessed, rfl⟩ :=
      PubRun.step_process_spec h.ready.configured hstep
    · exact h
    · have hpacket : raw_data.OfLidar id := h.received raw_data
        (List.mem_append_right _ (by simp [hqueue]))
      refine ⟨hready, hpacketProcessed.same.is_timestamp_sync.trans h.sync,
        hpacketProcessed.same.publish_interval.trans h.interval, ?_, h.published,
        .inr ⟨raw_data, ?_⟩⟩
      · rw [hreceived, PubEvent.arrival, Option.toList_none, List.append_nil]
        · exact h.received
        · simp
      · refine ⟨by rw [hpacket.lidar_id], by rw [hprocessed], ?_⟩
        have hadded := points_span_decoded (extrinsic_of s.handler.lidar_extrinsics id)
          hpacket.callback hpacket.points
        rw [hpacketProcessed.points id, decoded_stream_single _ hpacket, points_span_append hadded]
        exact congrArg (fun held => some (extend held raw_data.span)) hheld
  · exact ⟨s, by simp [PubRun.step, hpending], h⟩

omit [Coordinate F] in
/-- The frame of one lidar with points has one packet with those points. -/
theorem frame_span_cut_packets {handler : PubHandler F} {span : UInt64 × UInt64}
    (hspan : points_span (handler.points_held id) = some span) :
    frame_span (handler.cut_packets [id]) = some span := by
  cases hheld : handler.points_held id with
  | nil =>
    rw [hheld] at hspan
    cases hspan
  | cons point rest =>
    rw [← hspan, hheld, PubHandler.cut_packets_cons, hheld]
    rfl

omit [Coordinate F] in
/-- A check of the timer is due exactly when the span of what is held is. -/
theorem cut_ids_of_span (hsync : s.handler.is_timestamp_sync = true)
    (hinterval : s.handler.publish_interval = publish_interval) {span : UInt64 × UInt64}
    (hspan : points_span (s.handler.points_held id) = some span) (now_time : Int) :
    s.handler.cut_ids id now_time = if publish_interval.SpanDue span then some [id] else none := by
  have hdue : (∃ handler ∈ s.handler.lidar_process_handlers[id]?,
      handler.SyncDue s.handler.publish_interval) ↔ publish_interval.SpanDue span := by
    cases hhandler : s.handler.lidar_process_handlers[id]? with
    | none =>
      have hheld : s.handler.points_held id = [] := by simp [PubHandler.points_held, hhandler]
      rw [hheld] at hspan
      cases hspan
    | some handler =>
      rw [PubHandler.points_held_of_some hhandler] at hspan
      simp only [Option.mem_def, Option.some.injEq, exists_eq_left', syncDue_iff, hspan, hinterval]
  rw [PubHandler.cut_ids, if_pos hsync]
  by_cases hcut : publish_interval.SpanDue span
  · rw [if_pos (hdue.2 hcut), if_pos hcut]
  · rw [if_neg (fun hex => hcut (hdue.1 hex)), if_neg hcut]

theorem step_timer_follows (h : s.FollowsSpans publish_interval id checked) (now_time : Int) :
    ∃ t checked', s.step (.timer now_time) = .ok t ∧ t.FollowsSpans publish_interval id checked' := by
  rcases h.phase with ⟨hpending, hprocessed, hheld⟩ | ⟨packet, hpending, hprocessed, hheld⟩
  · exact ⟨s, checked, by simp [PubRun.step, hpending], h⟩
  · have hfits : s.handler.CutFits now_time := by
      intro hasync
      rw [h.sync] at hasync
      cases hasync
    obtain ⟨t, hcheck, hcut⟩ :=
      PubHandler.check_timer_cut h.ready.idle (h.ready.pending id hpending) hfits
    have hstep := PubRun.step_timer_of_checked hpending hcheck
    have hreceived := step_received h.ready hstep
    have hids := cut_ids_of_span h.sync h.interval hheld now_time
    have hrun := run_concat publish_interval.SpanDue (checked.map RawPacket.span) packet.span
    rw [← List.map_singleton, ← List.map_append] at hrun
    refine ⟨_, checked ++ [packet], hstep, step_ok_ready h.ready hstep, ?_, ?_, ?_, ?_,
      .inl ⟨rfl, hprocessed, ?_⟩⟩
    · exact hcut.same.is_timestamp_sync.trans h.sync
    · exact hcut.same.publish_interval.trans h.interval
    · rw [hreceived]
      simpa [PubEvent.arrival] using h.received
    · rw [hrun, advance, hids, List.map_append, h.published]
      by_cases hdue : publish_interval.SpanDue (extend
          (run publish_interval.SpanDue (checked.map RawPacket.span)).1 packet.span)
      · simp [hdue, frame_span_cut_packets hheld]
      · simp [hdue]
    · rw [hrun, advance, hcut.drains.points_held, hids]
      by_cases hdue : publish_interval.SpanDue (extend
          (run publish_interval.SpanDue (checked.map RawPacket.span)).1 packet.span)
      · simp [hdue, points_span_nil]
      · simp [hdue, hheld]

theorem step_follows (h : s.FollowsSpans publish_interval id checked) {event : PubEvent}
    (hsync : ∀ is_timestamp_sync, event = .timestamp_sync is_timestamp_sync →
      is_timestamp_sync = true)
    (hpacket : ∀ packet, event = .packet packet → packet.OfLidar id) :
    ∃ t checked', s.step event = .ok t ∧ t.FollowsSpans publish_interval id checked' := by
  cases event with
  | packet packet =>
    have hstep : s.step (.packet packet) = .ok _ := rfl
    refine ⟨_, checked, hstep, step_ok_ready h.ready hstep, h.sync, h.interval, ?_, h.published,
      h.phase⟩
    rw [step_received h.ready hstep]
    exact List.forall_mem_append.2 ⟨h.received, by simpa [PubEvent.arrival] using hpacket packet rfl⟩
  | timestamp_sync is_timestamp_sync =>
    obtain rfl := hsync is_timestamp_sync rfl
    have hstep : s.step (.timestamp_sync true) = .ok _ := rfl
    exact ⟨_, checked, hstep, step_ok_ready h.ready hstep, rfl, h.interval, h.received, h.published,
      h.phase⟩
  | process =>
    obtain ⟨t, hstep, hfollows⟩ := step_process_follows h
    exact ⟨t, checked, hstep, hfollows⟩
  | timer now_time => exact step_timer_follows h now_time

end Follow

/-- The packets of the schedule, in the order of their arrival. -/
def arrivals (events : List PubEvent) : List RawPacket := events.filterMap PubEvent.arrival

/-- The next packet begins no earlier than this one has ended, and ends later by less than half a
millisecond. -/
structure RawPacket.FollowedBy (previous next : RawPacket) : Prop where
  first_le : previous.last_time.toNat ≤ next.first_time.toNat
  lt : previous.last_time.toNat < next.last_time.toNat
  near : next.last_time.toNat < previous.last_time.toNat + 500000

/-- A schedule of one lidar that stays synchronised, whose packets follow each other closely. -/
structure SyncStream (id : UInt32) (events : List PubEvent) : Prop where
  sync : ∀ is_timestamp_sync, PubEvent.timestamp_sync is_timestamp_sync ∈ events →
    is_timestamp_sync = true
  packets : ∀ packet ∈ arrivals events, packet.OfLidar id
  chain : (arrivals events).IsChain RawPacket.FollowedBy

section Stream

variable {F : Type} {publish_interval : PublishInterval} {k : ℕ}

/-- The frame is published at a time in the first millisecond of the `k`-th interval. -/
def PublishedIn (publish_interval : PublishInterval) (k : ℕ) (frame : List (PublishedPacket F)) :
    Prop :=
  ∃ span ∈ frame_span frame, k * publish_interval.ns.toNat ≤ span.2.toNat ∧
    span.2.toNat < k * publish_interval.ns.toNat + 1000000

instance (frame : List (PublishedPacket F)) : Decidable (PublishedIn publish_interval k frame) :=
  inferInstanceAs (Decidable (∃ _ ∈ _, _))

theorem publishedIn_iff {frame : List (PublishedPacket F)} {span : UInt64 × UInt64}
    (hspan : frame_span frame = some span) :
    PublishedIn publish_interval k frame ↔
      InWindow publish_interval.ns.toNat kWindowNs k span.2.toNat := by
  simp only [PublishedIn, hspan, Option.mem_def, Option.some.injEq, exists_eq_left']
  rfl

theorem countP_publishedIn {frames : List (List (PublishedPacket F))}
    {spans : List (UInt64 × UInt64)} (hspans : frames.map frame_span = spans.map some) :
    frames.countP (fun frame => PublishedIn publish_interval k frame) =
      spans.countP fun span => InWindow publish_interval.ns.toNat kWindowNs k span.2.toNat := by
  induction spans generalizing frames with
  | nil =>
    obtain rfl := List.map_eq_nil_iff.1 hspans
    rfl
  | cons span spans ih =>
    obtain ⟨frame, rest, rfl, hframe, hrest⟩ := List.map_eq_cons_iff.1 hspans
    rw [List.countP_cons, List.countP_cons, ih hrest]
    simp only [publishedIn_iff hframe]

/-- After a first frame in the window `k0` every window that the processed packets have passed has
exactly one frame, there is no frame outside of such windows, and each spans an interval up to a
millisecond. -/
structure PubRun.KeepsCadence (s : PubRun F) (publish_interval : PublishInterval) (k0 : ℕ)
    (rest : List (List (PublishedPacket F))) : Prop where
  one : ∀ k, k0 < k → (∃ packet ∈ s.processed.getLast?,
      k * publish_interval.ns.toNat + 1000000 ≤ packet.last_time.toNat) →
    s.published.countP (fun frame => PublishedIn publish_interval k frame) = 1
  inside : ∀ frame ∈ rest, ∃ k, k0 < k ∧ PublishedIn publish_interval k frame
  spans : ∀ frame ∈ rest, ∃ span ∈ frame_span frame,
    publish_interval.ns.toNat - 1000000 ≤ span.2.toNat - span.1.toNat ∧
      span.2.toNat - span.1.toNat < publish_interval.ns.toNat + 1000000

variable [Coordinate F] {s : PubRun F} {id : UInt32} {checked : List RawPacket}

/-- The last processed packet is the last checked one, or follows it. -/
theorem PubRun.FollowsSpans.last_near (h : s.FollowsSpans publish_interval id checked)
    (hchain : s.received.IsChain RawPacket.FollowedBy)
    {final packet : RawPacket} (hfinal : checked.getLast? = some final)
    (hpacket : packet ∈ s.processed.getLast?) :
    packet.last_time.toNat < final.last_time.toNat + 500000 := by
  rcases h.phase with ⟨_, hprocessed, _⟩ | ⟨pending, _, hprocessed, _⟩
  · rw [hprocessed, hfinal] at hpacket
    obtain rfl := Option.some.inj hpacket
    omega
  · rw [hprocessed, List.getLast?_concat] at hpacket
    obtain rfl := Option.some.inj hpacket
    rw [PubRun.received, hprocessed] at hchain
    have hnext := (List.isChain_append.1 (List.isChain_append.1 hchain).1).2.2
    exact (hnext final hfinal pending rfl).near

/-- The spans of the checked packets follow each other as the library asks. -/
theorem isChain_spans {packets : List RawPacket}
    (hchain : packets.IsChain RawPacket.FollowedBy) :
    (packets.map RawPacket.span).IsChain fun previous =>
      FollowsAt UInt64.toNat kWindowNs previous.2.toNat := by
  rw [List.isChain_map]
  refine hchain.imp ?_
  rintro previous next ⟨hfirst, hlt, hnear⟩
  refine ⟨hfirst, hlt, ?_⟩
  change 2 * next.last_time.toNat < 2 * previous.last_time.toNat + 1000000
  omega

theorem PubRun.FollowsSpans.keepsCadence (h : s.FollowsSpans publish_interval id checked)
    (hwhole : publish_interval.ns % kRatioOfMsToNs = 0)
    (hchain : s.received.IsChain RawPacket.FollowedBy)
    {first : List (PublishedPacket F)} {rest : List (List (PublishedPacket F))} {k0 : ℕ}
    (hpublished : s.published = first :: rest) (hfirst : PublishedIn publish_interval k0 first) :
    s.KeepsCadence publish_interval k0 rest := by
  have hdue := dueInWindow hwhole
  have hwindow : kWindowNs ≤ publish_interval.ns.toNat := by
    have hlong := hdue.lt
    omega
  obtain ⟨unchecked, hchecks⟩ : checked <+: s.received := by
    rcases h.phase with ⟨_, hprocessed, _⟩ | ⟨packet, _, hprocessed, _⟩
    · exact ⟨_, by rw [PubRun.received, hprocessed]⟩
    · exact ⟨_, by rw [PubRun.received, hprocessed, List.append_assoc]⟩
  have hchecked := hchain
  rw [← hchecks] at hchecked
  have hordered : ∀ span ∈ checked.map RawPacket.span,
      publish_interval.ns.toNat ≤ span.2.toNat → span.1.toNat ≤ span.2.toNat := by
    intro span hspan hlate
    obtain ⟨packet, hpacket, rfl⟩ := List.mem_map.1 hspan
    have hlower := publish_interval.lower_toNat
    have hof := h.received packet (hchecks ▸ List.mem_append_left _ hpacket)
    exact first_time_le_last_time hof.callback (lt_of_lt_of_le (by omega) hlate)
  have hframes := h.published
  rcases run_regular hdue (isChain_spans (List.isChain_append.1 hchecked).1) hordered with
    hnone | ⟨first', rest', final, hrun, hfinal, hregular, hsettled⟩
  · rw [hnone, hpublished] at hframes
    cases hframes
  · rw [hrun, hpublished, List.map_cons, List.map_cons] at hframes
    obtain ⟨hfirst', hrest'⟩ := List.cons_eq_cons.1 hframes
    obtain ⟨rfl, _⟩ := (inWindow_iff hwindow).1 ((publishedIn_iff hfirst').1 hfirst)
    have hspanned : ∀ frame ∈ rest, ∃ span ∈ rest', some span = frame_span frame :=
      fun frame hframe => List.mem_map.1 (hrest' ▸ List.mem_map_of_mem hframe)
    refine ⟨?_, ?_, ?_⟩
    · rintro k hk ⟨packet, hpacket, hpassed⟩
      rw [List.getLast?_map] at hfinal
      obtain ⟨last, hlast, rfl⟩ := Option.map_eq_some_iff.1 hfinal
      have hnear := h.last_near hchain hlast hpacket
      have hhalf : 2 * (k * publish_interval.ns.toNat) + kWindowNs ≤ 2 * last.last_time.toNat := by
        change _ + 1000000 ≤ _
        omega
      have hle := hsettled.of_passed hhalf hdue.lt
      have hother : ¬ PublishedIn publish_interval k first := by
        intro hin
        obtain ⟨heq, _⟩ := (inWindow_iff hwindow).1 ((publishedIn_iff hfirst').1 hin)
        omega
      rw [hpublished, List.countP_cons_of_neg (by simpa using hother), countP_publishedIn hrest']
      exact hregular.countP_window hwindow hk hle
    · intro frame hframe
      obtain ⟨span, hspan, heq⟩ := hspanned frame hframe
      obtain ⟨k, hk, hin⟩ := hregular.exists_window hwindow hspan
      exact ⟨k, hk, (publishedIn_iff heq.symm).2 hin⟩
    · intro frame hframe
      obtain ⟨span, hspan, heq⟩ := hspanned frame hframe
      obtain ⟨hlow, hhigh⟩ := hregular.spans span hspan
      refine ⟨span, heq.symm, ?_, hhigh⟩
      exact Nat.sub_le_iff_le_add.2 hlow

theorem start_follows (publish_interval : PublishInterval)
    (lidar_extrinsics : Std.TreeMap UInt32 (LidarExtParameter F)) (id : UInt32) :
    ∃ t, (PubRun.start publish_interval lidar_extrinsics).step (.timestamp_sync true) = .ok t ∧
      t.received = [] ∧ t.FollowsSpans publish_interval id [] := by
  have hready := start_ready publish_interval lidar_extrinsics
  have hstep : (PubRun.start publish_interval lidar_extrinsics).step (.timestamp_sync true) =
    .ok _ := rfl
  refine ⟨_, hstep, rfl, step_ok_ready hready hstep, rfl, rfl, ?_, rfl, .inl ⟨rfl, rfl, ?_⟩⟩
  · simp [PubRun.received, PubRun.start, PubHandler.start]
  · simp [PubRun.start, PubHandler.start, PubHandler.points_held, points_span_nil, run]

/-- The frames of a synchronised lidar keep the cadence of the publish interval: in every schedule
of a stream whose packets follow each other closely, the publisher completes, and once a first
frame has been published the others follow one to a window. -/
theorem sync_frames_keep_cadence (publish_interval : PublishInterval)
    (hwhole : publish_interval.ns % kRatioOfMsToNs = 0)
    (lidar_extrinsics : Std.TreeMap UInt32 (LidarExtParameter F)) (id : UInt32)
    (events : List PubEvent) (hstream : SyncStream id events) :
    ∃ t, exec PubRun.step (PubRun.start publish_interval lidar_extrinsics)
        (.timestamp_sync true :: events) = .ok t ∧
      ∀ first rest k0, t.published = first :: rest → PublishedIn publish_interval k0 first →
        t.KeepsCadence publish_interval k0 rest := by
  obtain ⟨s, hsync, hempty, hstart⟩ := start_follows publish_interval lidar_extrinsics id
  have hallowed : StepsSatisfy PubRun.step (fun _ event =>
      (∀ is_timestamp_sync, event = .timestamp_sync is_timestamp_sync →
        is_timestamp_sync = true) ∧ ∀ packet, event = PubEvent.packet packet → packet.OfLidar id)
      s events := by
    apply stepsSatisfy_of_forall
    intro event hevent
    constructor
    · rintro is_timestamp_sync rfl
      exact hstream.sync _ hevent
    · rintro packet rfl
      exact hstream.packets packet (List.mem_filterMap.2 ⟨_, hevent, rfl⟩)
  have hstep : ∀ (s : PubRun F) (event : PubEvent),
      (∃ checked, s.FollowsSpans publish_interval id checked) →
      ((∀ is_timestamp_sync, event = .timestamp_sync is_timestamp_sync →
        is_timestamp_sync = true) ∧ ∀ packet, event = .packet packet → packet.OfLidar id) →
      ∃ t, s.step event = .ok t ∧ ∃ checked, t.FollowsSpans publish_interval id checked := by
    rintro s event ⟨checked, hfollows⟩ ⟨hsync, hpacket⟩
    obtain ⟨t, checked', hone, hnext⟩ := step_follows hfollows hsync hpacket
    exact ⟨t, hone, checked', hnext⟩
  obtain ⟨t, hrun, hstates⟩ := StepsSatisfy.completes hstep ⟨[], hstart⟩ hallowed
  refine ⟨t, exec_cons_eq_ok_iff.2 ⟨s, hsync, hrun⟩, ?_⟩
  intro first rest k0 hpublished hfirst
  obtain ⟨checked, hfollows⟩ := hstates.last hrun
  have hreceived := exec_received hstart.ready hrun
  rw [hempty, List.nil_append] at hreceived
  exact hfollows.keepsCadence hwhole (hreceived ▸ hstream.chain) hpublished hfirst

end Stream

/-- A packet of one point, the `i`-th of a stream with one every 0.4 ms from 10 ms on. -/
def steady_packet (i : ℕ) : RawPacket where
  lidar_type := .kLivoxLidarType
  handle := 7
  extrinsic_enable := false
  point_num := 1
  data_type := kLivoxLidarCartesianCoordinateHighData
  line_num := 4
  time_stamp := 10000000 + 400000 * UInt64.ofNat i
  point_interval := 5000
  raw_data := List.replicate 14 0
  past_end := fun _ => 0
  line_num_ne := four_lines_ne

def steady_events : List PubEvent :=
  (List.range 60).flatMap fun i => [.packet (steady_packet i), .process, .timer 0]

theorem arrivals_steady_events : arrivals steady_events = (List.range 60).map steady_packet := by
  rw [arrivals, steady_events, List.filterMap_flatMap, List.map_eq_flatMap]
  rfl

theorem steady_events_sync : SyncStream 7 steady_events where
  sync := by simp [steady_events]
  packets := by
    intro packet hpacket
    rw [arrivals_steady_events] at hpacket
    obtain ⟨i, _, rfl⟩ := List.mem_map.1 hpacket
    exact ⟨⟨rfl, show (1 : UInt32) ≠ 0 by decide, show 1 * 5000 ≤ 6553500 by decide⟩, rfl,
      show raw_point_size kLivoxLidarCartesianCoordinateHighData ≠ 0 by decide⟩
  chain := by
    rw [arrivals_steady_events, List.isChain_map, List.isChain_range]
    have htime : ∀ i < 60, (steady_packet i).last_time.toNat = 10000000 + 400000 * i := by
      decide +kernel
    have hone : ∀ i, (steady_packet i).first_time = (steady_packet i).last_time := fun i =>
      congrArg (point_offset_time (steady_packet i)) (show (0 : UInt32) = 1 - 1 by decide)
    intro i hi
    have hthis := htime i (by omega)
    have hnext := htime i.succ (by omega)
    refine ⟨?_, ?_, ?_⟩
    · rw [hone]
      omega
    · omega
    · omega

/-- The stream is published in two frames, of which the first is the one at 20 ms. -/
theorem steady_events_keep_cadence :
    ∃ t, exec PubRun.step (@PubRun.start ℝ ⟨10000000, by decide⟩ ∅)
        (.timestamp_sync true :: steady_events) = .ok t ∧
      ∃ first rest, t.published = [first, rest] ∧
        t.KeepsCadence ⟨10000000, by decide⟩ 2 [rest] := by
  obtain ⟨t, hrun, hcadence⟩ := @sync_frames_keep_cadence ℝ _ ⟨10000000, by decide⟩
    (by decide) ∅ 7 steady_events steady_events_sync
  have hspans : (exec PubRun.step (@PubRun.start ℝ ⟨10000000, by decide⟩ ∅)
      (.timestamp_sync true :: steady_events)).toOption.map (fun s => s.published.map frame_span) =
        some [some (10000000, 20000000), some (20400000, 30000000)] := by
    decide +kernel
  have hpublished : t.published.map frame_span =
      [some (10000000, 20000000), some (20400000, 30000000)] := by
    simpa [hrun, Except.toOption] using hspans
  obtain ⟨first, others, hframes, hfirst, hothers⟩ := List.map_eq_cons_iff.1 hpublished
  obtain ⟨rest, rfl, _⟩ := List.map_eq_singleton_iff.1 hothers
  exact ⟨t, hrun, first, rest, hframes, hcadence first [rest] 2 hframes
    ⟨_, hfirst, by decide, by decide⟩⟩

end livox_ros
