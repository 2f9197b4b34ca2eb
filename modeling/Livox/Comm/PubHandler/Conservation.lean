import Livox.Comm.PubHandler.Timer

open checked execution ordered_map

namespace livox_ros

/-- The points of the packets of one lidar, in the order of the packets. -/
def packet_points {F : Type} (packets : List (PublishedPacket F)) (id : UInt32) :
    List (PointXyzlt F) :=
  (packets.filter fun packet => packet.packet.handle = id).flatMap fun packet => packet.packet.points

theorem packet_points_append {F : Type} (front back : List (PublishedPacket F)) (id : UInt32) :
    packet_points (front ++ back) id = packet_points front id ++ packet_points back id := by
  simp [packet_points]

theorem packet_points_cut_packet {F : Type} (cut id : UInt32) (points : List (PointXyzlt F)) :
    packet_points (cut_packet cut points).toList id = if cut = id then points else [] := by
  cases points with
  | nil => simp [cut_packet, packet_points]
  | cons point rest => by_cases h : cut = id <;> simp [cut_packet, packet_points, h]

/-- A cut of distinct lidars publishes for each of them what it has held. -/
theorem packet_points_cut_packets {F : Type} (s : PubHandler F) {ids : List UInt32}
    (hnodup : ids.Nodup) (id : UInt32) :
    packet_points (s.cut_packets ids) id = if id ∈ ids then s.points_held id else [] := by
  induction ids with
  | nil => rfl
  | cons cut ids ih =>
    obtain ⟨hcut, hnodup⟩ := List.nodup_cons.mp hnodup
    rw [PubHandler.cut_packets_cons, packet_points_append, packet_points_cut_packet, ih hnodup]
    by_cases heq : cut = id
    · subst heq
      simp [hcut]
    · simp [heq, Ne.symm heq]

/-- A packet's counter and base time are those of its points. -/
def PublishedPacket.WellFormed {F : Type} (packet : PublishedPacket F) : Prop :=
  packet.packet.points_num = UInt32.ofNat packet.packet.points.length ∧
    packet.packet.points.head?.map PointXyzlt.offset_time = some packet.base_time

theorem wellFormed_of_mem_cut_packets {F : Type} {s : PubHandler F} {ids : List UInt32}
    {packet : PublishedPacket F} (h : packet ∈ s.cut_packets ids) : packet.WellFormed := by
  obtain ⟨id, _, hcut⟩ := List.mem_filterMap.mp h
  cases hpoints : s.points_held id with
  | nil => simp [hpoints, cut_packet] at hcut
  | cons point rest =>
    rw [hpoints] at hcut
    cases hcut
    exact ⟨rfl, rfl⟩

/-- The lidar that the publisher attributes a raw packet to. -/
def RawPacket.lidar_id (raw_packet : RawPacket) : UInt32 :=
  PubHandler.get_lidar_id raw_packet.lidar_type raw_packet.handle

/-- The points that the packets of one lidar decode to, in arrival order. -/
def decoded_stream {F : Type} [Coordinate F]
    (lidar_extrinsics : Std.TreeMap UInt32 (LidarExtParameter F)) (raw_packets : List RawPacket)
    (id : UInt32) : List (PointXyzlt F) :=
  (raw_packets.filter fun raw_packet => raw_packet.lidar_id = id).flatMap
    (LidarPubHandler.decoded_points (extrinsic_of lidar_extrinsics id))

theorem decoded_stream_append {F : Type} [Coordinate F]
    (lidar_extrinsics : Std.TreeMap UInt32 (LidarExtParameter F)) (front back : List RawPacket)
    (id : UInt32) :
    decoded_stream lidar_extrinsics (front ++ back) id =
      decoded_stream lidar_extrinsics front id ++ decoded_stream lidar_extrinsics back id := by
  simp [decoded_stream]

section Process

variable {F : Type} [Coordinate F]

/-- After `configure_handler` the accumulator has the extrinsic of its lidar,
whether it is new or has been configured before. -/
theorem configure_handler_extrinsic {s : PubHandler F} {id : UInt32} {handler : LidarPubHandler F}
    (h : handler = LidarPubHandler.new ∨ handler.extrinsic = extrinsic_of s.lidar_extrinsics id) :
    (s.configure_handler id handler).extrinsic = extrinsic_of s.lidar_extrinsics id := by
  unfold PubHandler.configure_handler extrinsic_of
  cases hparam : s.lidar_extrinsics[id]? with
  | none =>
    rcases h with rfl | hready
    · rfl
    · simpa [extrinsic_of, hparam] using hready
  | some lidar_param =>
    rcases h with rfl | hready
    · rfl
    · simp only [LidarPubHandler.set_lidars_ext_param]
      split
      · simpa [extrinsic_of, hparam] using hready
      · rfl

theorem configure_handler_points_clouds (s : PubHandler F) (id : UInt32)
    (handler : LidarPubHandler F) :
    (s.configure_handler id handler).points_clouds = handler.points_clouds := by
  unfold PubHandler.configure_handler
  split
  · exact LidarPubHandler.set_lidars_ext_param_points_clouds handler _
  · rfl

theorem find_process_handler_points_clouds (s : PubHandler F) (id : UInt32) :
    (s.find_process_handler id).points_clouds = s.points_held id := by
  unfold PubHandler.find_process_handler PubHandler.points_held
  cases s.lidar_process_handlers[id]? <;> rfl

/-- Every accumulator has the extrinsic of its lidar. -/
def PubHandler.Configured (s : PubHandler F) : Prop :=
  ∀ id handler, s.lidar_process_handlers[id]? = some handler →
    handler.extrinsic = extrinsic_of s.lidar_extrinsics id

/-- A timer check leaves every accumulator its extrinsic. -/
theorem PubHandler.TimerChecked.configured {s t : PubHandler F}
    {published : Option (List (PublishedPacket F))} (h : s.TimerChecked t published)
    (hconfigured : s.Configured) : t.Configured := by
  obtain ⟨ids, _, hdrains, _⟩ := h.cut
  intro id handler hhandler
  rw [hdrains id] at hhandler
  rw [h.same.lidar_extrinsics]
  split at hhandler
  · obtain ⟨before, hbefore, rfl⟩ := Option.map_eq_some_iff.mp hhandler
    exact hconfigured id before hbefore
  · exact hconfigured id handler hhandler

/-- The accumulator of a packet's lidar once the packet has been processed. -/
def PubHandler.processed_handler (s : PubHandler F) (raw_data : RawPacket) : LidarPubHandler F :=
  (s.configure_handler raw_data.lidar_id
    (s.find_process_handler raw_data.lidar_id)).point_cloud_process raw_data

theorem processed_handler_eq {s : PubHandler F} (hconfigured : s.Configured) (raw_data : RawPacket) :
    (s.processed_handler raw_data).extrinsic = extrinsic_of s.lidar_extrinsics raw_data.lidar_id ∧
      (s.processed_handler raw_data).points_clouds = s.points_held raw_data.lidar_id ++
        LidarPubHandler.decoded_points (extrinsic_of s.lidar_extrinsics raw_data.lidar_id)
          raw_data := by
  have hextrinsic : (s.configure_handler raw_data.lidar_id
      (s.find_process_handler raw_data.lidar_id)).extrinsic =
        extrinsic_of s.lidar_extrinsics raw_data.lidar_id := by
    apply configure_handler_extrinsic
    unfold PubHandler.find_process_handler
    cases hfound : s.lidar_process_handlers[raw_data.lidar_id]? with
    | none => exact Or.inl rfl
    | some found => exact Or.inr (hconfigured _ found hfound)
  rw [PubHandler.processed_handler, LidarPubHandler.point_cloud_process_eq, hextrinsic,
    configure_handler_points_clouds, find_process_handler_points_clouds]
  exact ⟨rfl, rfl⟩

/-- A raw packet has been processed: its points are appended to the accumulator of its lidar, and
no other is touched. -/
structure PubHandler.PacketProcessed (s : PubHandler F) (raw_data : RawPacket) (t : PubHandler F) :
    Prop where
  configured : t.Configured
  frame : t.frame = s.frame
  same : s.SameInputs t
  known : raw_data.lidar_id ∈ t.lidar_process_handlers
  others : ∀ id, id ∈ t.lidar_process_handlers →
    id = raw_data.lidar_id ∨ id ∈ s.lidar_process_handlers
  points : ∀ id, t.points_held id =
    s.points_held id ++ decoded_stream s.lidar_extrinsics [raw_data] id

theorem process_raw_packet_spec {s : PubHandler F} (hconfigured : s.Configured)
    (raw_data : RawPacket) :
    ∃ t, s.process_raw_packet raw_data = (t, raw_data.lidar_id) ∧ s.PacketProcessed raw_data t := by
  obtain ⟨hextrinsic, hpoints⟩ := processed_handler_eq hconfigured raw_data
  have hlookup : ∀ other, (s.lidar_process_handlers.insert raw_data.lidar_id
      (s.processed_handler raw_data))[other]? =
        if raw_data.lidar_id = other then some (s.processed_handler raw_data)
        else s.lidar_process_handlers[other]? :=
    fun other => lookup_insert _ _ other _
  refine ⟨
    { s with
      lidar_process_handlers :=
        s.lidar_process_handlers.insert raw_data.lidar_id (s.processed_handler raw_data) },
    rfl, ?_, rfl, ⟨rfl, rfl, rfl, rfl⟩, ?_, ?_, ?_⟩
  · intro other found hfound
    rw [hlookup] at hfound
    split at hfound
    · rename_i heq
      subst heq
      obtain rfl := Option.some.inj hfound
      exact hextrinsic
    · exact hconfigured other found hfound
  · exact mem_iff_lookup.mpr ⟨_, by rw [hlookup, if_pos rfl]⟩
  · intro other hother
    obtain ⟨found, hfound⟩ := mem_iff_lookup.mp hother
    rw [hlookup] at hfound
    split at hfound
    · rename_i heq
      exact Or.inl heq.symm
    · exact Or.inr (mem_iff_lookup.mpr ⟨found, hfound⟩)
  · intro other
    simp only [PubHandler.points_held, hlookup other, decoded_stream]
    by_cases heq : raw_data.lidar_id = other
    · subst heq
      simp [hpoints, PubHandler.points_held]
    · simp [heq]

end Process

/-- At every moment the points of a lidar are those published for it and then
those it still holds, in the order in which its packets arrived; the packets
not yet processed wait in the queue. -/
structure PubRun.Conserved {F : Type} [Coordinate F]
    (lidar_extrinsics : Std.TreeMap UInt32 (LidarExtParameter F)) (s : PubRun F) : Prop where
  arrival : s.processed ++ s.handler.raw_packet_queue = s.arrived
  points : ∀ id, packet_points s.published.flatten id ++ s.handler.points_held id =
    decoded_stream lidar_extrinsics s.processed id
  packets : ∀ frame ∈ s.published, ∀ packet ∈ frame, packet.WellFormed

/-- What a step needs of the state besides conservation: between two cuts the
frame is empty, and only lidars out of `handles` are known. -/
structure PubRun.Conserving {F : Type} [Coordinate F]
    (lidar_extrinsics : Std.TreeMap UInt32 (LidarExtParameter F)) (handles : Finset UInt32)
    (s : PubRun F) : Prop where
  conserved : s.Conserved lidar_extrinsics
  idle : s.handler.frame.lidar_num = 0
  extrinsics : s.handler.lidar_extrinsics = lidar_extrinsics
  configured : s.handler.Configured
  pending : ∀ id, s.pending = some id → id ∈ s.handler.lidar_process_handlers
  known : ∀ id, id ∈ s.handler.lidar_process_handlers → id ∈ handles
  queued : ∀ raw_packet ∈ s.handler.raw_packet_queue, raw_packet.lidar_id ∈ handles

/-- At most as many lidars as the frame has positions always fit. -/
theorem cutFits_of_known {F : Type} {s : PubHandler F} {handles : Finset UInt32}
    (hhandles : handles.card ≤ kMaxSourceLidar)
    (hknown : ∀ id, id ∈ s.lidar_process_handlers → id ∈ handles) (now_time : Int) :
    s.CutFits now_time := by
  intro _ _ hne
  have hnodup : s.lidar_process_handlers.keys.Nodup := Std.TreeMap.nodup_keys
  have hlength : s.lidar_process_handlers.keys.length ≤ handles.card := by
    rw [← List.toFinset_card_of_nodup hnodup]
    refine Finset.card_le_card fun id hid => hknown id ?_
    exact Std.TreeMap.mem_keys.mp (List.mem_toFinset.mp hid)
  have hcount : s.lidar_process_handlers.keys.dropLast.countP s.holds_points ≤
      s.lidar_process_handlers.keys.dropLast.length := List.countP_le_length
  have hpos : 0 < s.lidar_process_handlers.keys.length := List.length_pos_of_ne_nil hne
  rw [List.length_dropLast] at hcount
  omega

/-- A timer check moves points from the accumulators to the published frames
and leaves their concatenation as it is. -/
theorem timerChecked_points {F : Type} {s t : PubHandler F}
    {published : Option (List (PublishedPacket F))} (h : s.TimerChecked t published) (id : UInt32) :
    packet_points (published.getD []) id ++ t.points_held id = s.points_held id := by
  obtain ⟨ids, hnodup, hdrains, hpublished⟩ := h.cut
  rw [hpublished, packet_points_cut_packets s hnodup, hdrains.points_held]
  split <;> simp

section Step

variable {F : Type} [Coordinate F]

theorem PubRun.step_timer_of_checked {s : PubRun F} {t : PubHandler F} {id : UInt32} {now_time : Int}
    {published : Option (List (PublishedPacket F))} (hpending : s.pending = some id)
    (hcheck : s.handler.check_timer id now_time = .ok (t, published)) :
    s.step (.timer now_time) =
      .ok { s with handler := t, pending := none, published := s.published ++ published.toList } := by
  simp [PubRun.step, hpending, hcheck]

theorem PubRun.step_process_of_queued {s : PubRun F} {t : PubHandler F} {raw_data : RawPacket}
    {rest : List RawPacket} (hpending : s.pending = none)
    (hqueue : s.handler.raw_packet_queue = raw_data :: rest)
    (hprocess : { s.handler with raw_packet_queue := rest }.process_raw_packet raw_data =
      (t, raw_data.lidar_id)) :
    s.step .process =
      .ok
        { s with
          handler := t, pending := some raw_data.lidar_id, processed := s.processed ++ [raw_data] } := by
  simp only [PubRun.step, hpending, hqueue]
  rw [hprocess]

/-- A step of the processing thread does nothing, or processes the first packet. -/
theorem PubRun.step_process_cases {s t : PubRun F} (hstep : s.step .process = .ok t) :
    t = s ∨ ∃ raw_data rest, s.handler.raw_packet_queue = raw_data :: rest ∧
      t = { s with
        handler := ({ s.handler with raw_packet_queue := rest }.process_raw_packet raw_data).1
        pending := some raw_data.lidar_id
        processed := s.processed ++ [raw_data] } := by
  cases hpending : s.pending with
  | some id =>
    left
    simpa [PubRun.step, hpending] using hstep.symm
  | none =>
    cases hqueue : s.handler.raw_packet_queue with
    | nil =>
      left
      simpa [PubRun.step, hpending, hqueue] using hstep.symm
    | cons raw_data rest =>
      right
      have hprocess := PubRun.step_process_of_queued hpending hqueue rfl
      exact ⟨raw_data, rest, rfl, Except.ok.inj (hstep.symm.trans hprocess)⟩

theorem PubRun.step_process_completes (s : PubRun F) : ∃ t, s.step .process = .ok t := by
  rw [PubRun.step]
  split <;> exact ⟨_, rfl⟩

/-- The same with what the processing does. -/
theorem PubRun.step_process_spec {s t : PubRun F} (hconfigured : s.handler.Configured)
    (hstep : s.step .process = .ok t) :
    t = s ∨ ∃ raw_data rest handler, s.handler.raw_packet_queue = raw_data :: rest ∧
      { s.handler with raw_packet_queue := rest }.PacketProcessed raw_data handler ∧
      t = { s with
        handler, pending := some raw_data.lidar_id, processed := s.processed ++ [raw_data] } := by
  obtain rfl | ⟨raw_data, rest, hqueue, rfl⟩ := PubRun.step_process_cases hstep
  · exact .inl rfl
  · obtain ⟨handler, hprocess, hprocessed⟩ := process_raw_packet_spec
      (s := { s.handler with raw_packet_queue := rest }) hconfigured raw_data
    refine .inr ⟨raw_data, rest, handler, hqueue, hprocessed, ?_⟩
    rw [hprocess]

variable {lidar_extrinsics : Std.TreeMap UInt32 (LidarExtParameter F)}
  {handles : Finset UInt32} {s : PubRun F}

theorem step_timer_conserving (h : s.Conserving lidar_extrinsics handles)
    (hhandles : handles.card ≤ kMaxSourceLidar) (now_time : Int) :
    ∃ t, s.step (.timer now_time) = .ok t ∧ t.Conserving lidar_extrinsics handles := by
  cases hpending : s.pending with
  | none => exact ⟨s, by simp [PubRun.step, hpending], h⟩
  | some id =>
    obtain ⟨t, published, hcheck, hchecked⟩ := PubHandler.check_timer_spec h.idle (h.pending id hpending)
      (cutFits_of_known hhandles h.known now_time)
    refine ⟨_, PubRun.step_timer_of_checked hpending hcheck, ?_⟩
    obtain ⟨ids, hnodup, hdrains, hpublished⟩ := hchecked.cut
    refine ⟨⟨?_, ?_, ?_⟩, hchecked.idle, ?_, ?_, by simp, ?_, ?_⟩
    · rw [hchecked.same.raw_packet_queue]
      exact h.conserved.arrival
    · intro other
      have hflatten : (s.published ++ published.toList).flatten =
          s.published.flatten ++ published.getD [] := by
        cases published <;> simp
      rw [hflatten, packet_points_append, List.append_assoc, timerChecked_points hchecked]
      exact h.conserved.points other
    · intro frame hframe packet hpacket
      rcases List.mem_append.mp hframe with hold | hnew
      · exact h.conserved.packets frame hold packet hpacket
      · obtain rfl : published = some frame := by simpa using hnew
        rw [Option.getD_some] at hpublished
        rw [hpublished] at hpacket
        exact wellFormed_of_mem_cut_packets hpacket
    · exact hchecked.same.lidar_extrinsics.trans h.extrinsics
    · exact hchecked.configured h.configured
    · exact fun other hother => h.known other ((hdrains.mem_iff other).mp hother)
    · rw [hchecked.same.raw_packet_queue]
      exact h.queued

theorem step_process_conserving (h : s.Conserving lidar_extrinsics handles) :
    ∃ t, s.step .process = .ok t ∧ t.Conserving lidar_extrinsics handles := by
  obtain ⟨t, hstep⟩ := PubRun.step_process_completes s
  refine ⟨t, hstep, ?_⟩
  obtain rfl | ⟨raw_data, rest, handler, hqueue, hprocessed, rfl⟩ :=
    PubRun.step_process_spec h.configured hstep
  · exact h
  · have hqueued : raw_data.lidar_id ∈ handles := h.queued raw_data (by simp [hqueue])
    refine ⟨⟨?_, ?_, h.conserved.packets⟩, hprocessed.frame ▸ h.idle,
      hprocessed.same.lidar_extrinsics.trans h.extrinsics, hprocessed.configured, ?_, ?_, ?_⟩
    · rw [hprocessed.same.raw_packet_queue, List.append_assoc, ← h.conserved.arrival, hqueue]
      rfl
    · intro other
      have hpopped : { s.handler with raw_packet_queue := rest }.points_held other =
        s.handler.points_held other := rfl
      rw [hprocessed.points other, hpopped, ← List.append_assoc, h.conserved.points other,
        decoded_stream_append, ← h.extrinsics]
    · intro other hother
      obtain rfl : raw_data.lidar_id = other := Option.some.inj hother
      exact hprocessed.known
    · intro other hother
      rcases hprocessed.others other hother with rfl | hold
      · exact hqueued
      · exact h.known other hold
    · intro raw_packet hmem
      rw [hprocessed.same.raw_packet_queue] at hmem
      exact h.queued raw_packet (by rw [hqueue]; exact List.mem_cons_of_mem _ hmem)

/-- Every step that lets in only packets of `handles` completes and conserves. -/
theorem step_conserving (hhandles : handles.card ≤ kMaxSourceLidar) {event : PubEvent}
    (hevent : ∀ raw_packet, event = .packet raw_packet → raw_packet.lidar_id ∈ handles)
    (h : s.Conserving lidar_extrinsics handles) :
    ∃ t, s.step event = .ok t ∧ t.Conserving lidar_extrinsics handles := by
  cases event with
  | packet raw_packet =>
    refine ⟨_, rfl, ⟨?_, h.conserved.points, h.conserved.packets⟩, h.idle, h.extrinsics, h.configured,
      h.pending, h.known, ?_⟩
    · simp only [← h.conserved.arrival, List.append_assoc]
    · intro other hother
      rcases List.mem_append.mp hother with hold | hnew
      · exact h.queued other hold
      · obtain rfl := List.mem_singleton.mp hnew
        exact hevent other rfl
  | timestamp_sync is_timestamp_sync =>
    exact ⟨_, rfl, ⟨h.conserved.arrival, h.conserved.points, h.conserved.packets⟩, h.idle,
      h.extrinsics, h.configured, h.pending, h.known, h.queued⟩
  | process => exact step_process_conserving h
  | timer now_time => exact step_timer_conserving h hhandles now_time

end Step

theorem start_conserving {F : Type} [Coordinate F] (publish_interval : PublishInterval)
    (lidar_extrinsics : Std.TreeMap UInt32 (LidarExtParameter F)) (handles : Finset UInt32) :
    (PubRun.start publish_interval lidar_extrinsics).Conserving lidar_extrinsics handles where
  conserved := ⟨rfl, fun id => by
    simp [PubRun.start, PubHandler.start, packet_points, PubHandler.points_held, decoded_stream], by
    simp [PubRun.start]⟩
  idle := rfl
  extrinsics := rfl
  configured := by simp [PubHandler.Configured, PubRun.start, PubHandler.start]
  pending := by simp [PubRun.start]
  known := by simp [PubRun.start, PubHandler.start]
  queued := by simp [PubRun.start, PubHandler.start]

/-- Point conservation: whatever packets arrive from at most 32 lidars, however
the receiver and the publisher are interleaved, whatever the clock reads and
however the synchronisation is toggled, the run completes and in each of its
states nothing is lost, repeated, reordered or attributed to another lidar. -/
theorem published_points_conserved {F : Type} [Coordinate F] (publish_interval : PublishInterval)
    (lidar_extrinsics : Std.TreeMap UInt32 (LidarExtParameter F)) (handles : Finset UInt32)
    (hhandles : handles.card ≤ kMaxSourceLidar) (events : List PubEvent)
    (hevents : ∀ event ∈ events, ∀ raw_packet,
      event = .packet raw_packet → raw_packet.lidar_id ∈ handles) :
    ∃ t, exec PubRun.step (PubRun.start publish_interval lidar_extrinsics) events = .ok t ∧
      StatesSatisfy PubRun.step (PubRun.Conserved lidar_extrinsics)
        (PubRun.start publish_interval lidar_extrinsics) events := by
  have hstep : ∀ (s : PubRun F) (event : PubEvent), s.Conserving lidar_extrinsics handles →
      (∀ raw_packet, event = .packet raw_packet → raw_packet.lidar_id ∈ handles) →
      ∃ t, s.step event = .ok t ∧ t.Conserving lidar_extrinsics handles :=
    fun s event hs hevent => step_conserving hhandles hevent hs
  obtain ⟨t, hrun, hstates⟩ := StepsSatisfy.completes hstep
    (start_conserving publish_interval lidar_extrinsics handles) (stepsSatisfy_of_forall hevents)
  exact ⟨t, hrun, hstates.mono fun s hs => hs.conserved⟩

theorem published_points_conserved_two_lidars :
    let raw_packet (handle : UInt32) : RawPacket :=
      { lidar_type := .kLivoxLidarType, handle, extrinsic_enable := false, point_num := 96
        data_type := kLivoxLidarCartesianCoordinateHighData, line_num := 4, time_stamp := 1000000
        point_interval := 5000, raw_data := List.replicate (96 * 14) 0, past_end := fun _ => 0
        line_num_ne := by decide }
    let events : List PubEvent :=
      [.packet (raw_packet 1), .packet (raw_packet 2), .process, .timer 0, .timestamp_sync true,
        .process, .timestamp_sync false, .timer 100000000]
    ∃ t, exec PubRun.step (@PubRun.start ℝ ⟨10000000, by decide⟩ ∅) events = .ok t ∧
      t.Conserved ∅ := by
  intro raw_packet events
  obtain ⟨t, hrun, hstates⟩ := @published_points_conserved ℝ _ ⟨10000000, by decide⟩ ∅
    {1, 2} (by decide) events (by
      intro event hevent packet heq
      subst heq
      simp only [events, List.mem_cons, reduceCtorEq, PubEvent.packet.injEq, List.not_mem_nil,
        or_false] at hevent
      rcases hevent with rfl | rfl <;> decide)
  exact ⟨t, hrun, hstates.last hrun⟩

end livox_ros
