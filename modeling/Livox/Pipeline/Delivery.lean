import Livox.LdsLidar.Registry
import Livox.Lddc.Draining
import Livox.Pipeline

open checked execution fifo

namespace livox_ros

/-- How many packets the queue of a lidar holds. -/
def queue_capacity (publish_freq : ℚ) : Nat :=
  (real_queue_size (calculate_packet_queue_size publish_freq)).toNat

section Queue

variable {F : Type} {publish_freq : ℚ} {queue : LidarDataQueue F} {log : Log (StoragePacket F)}

/-- A queue that has done what the bounded FIFO has done. -/
structure LidarDataQueue.Follows (publish_freq : ℚ) (queue : LidarDataQueue F)
    (log : Log (StoragePacket F)) : Prop where
  capacity : log.queue.capacity = queue_capacity publish_freq
  contains : queue.Contains log.queue.contents
  size : queue.storage_packet = .null ∨ queue.size.toNat = queue_capacity publish_freq
  whole : ∀ packet ∈ log.queue.contents, packet.Whole

theorem LidarDataQueue.Follows.empty (publish_freq : ℚ) :
    (LidarDataQueue.zero F).Follows publish_freq (Log.empty _ (queue_capacity publish_freq)) where
  capacity := rfl
  contains := LidarDataQueue.Contains.zero F
  size := .inl rfl
  whole := by simp [Log.empty]

/-- The ring that a push works on, which it has allocated if there was none. -/
theorem LidarDataQueue.Follows.ensure_storage (h : queue.Follows publish_freq log) :
    ∃ ring m cells, livox_ros.ensure_storage publish_freq queue = .ok ring ∧
      ring.HoldsPackets m cells log.queue.contents ∧ 2 ^ m = queue_capacity publish_freq := by
  obtain ⟨ring, m, cells, hensured, hholds, hnew⟩ := ensure_storage_contains publish_freq h.contains
  refine ⟨ring, m, cells, hensured, hholds, ?_⟩
  rw [← hholds.size]
  by_cases hnull : queue.storage_packet = .null
  · rw [hnew hnull, queue_capacity]
  · have hsame : ring = queue := by
      cases hstorage : queue.storage_packet with
      | null => exact absurd hstorage hnull
      | live cells => simpa [livox_ros.ensure_storage, hstorage] using hensured.symm
      | freed => exact absurd hstorage h.contains.storage_ne_freed
    rw [hsame, h.size.resolve_left hnull]

theorem LidarDataQueue.HoldsPackets.follows {m : Nat} {cells : List (StoragePacket F)}
    (hcapacity : log.queue.capacity = queue_capacity publish_freq)
    (hholds : queue.HoldsPackets m cells log.queue.contents)
    (hpower : 2 ^ m = queue_capacity publish_freq)
    (hwhole : ∀ packet ∈ log.queue.contents, packet.Whole) : queue.Follows publish_freq log where
  capacity := hcapacity
  contains := .ring hholds
  size := .inr (hholds.size.trans hpower)
  whole := hwhole

/-- A push does to the queue what it does to the FIFO. -/
theorem LidarDataQueue.Follows.push (h : queue.Follows publish_freq log) (pcd_semaphore : Semaphore)
    (lidar_data : ReadablePacket F) (base_time : UInt64) :
    ∃ result, push_lidar_data publish_freq queue pcd_semaphore lidar_data base_time =
        .ok (result, signal_if_needed pcd_semaphore) ∧
      result.Follows publish_freq
        (log.push (StoragePacket.of_point_packet lidar_data base_time)) := by
  obtain ⟨ring, m, cells, hensured, hholds, hpower⟩ := h.ensure_storage
  rw [push_lidar_data_ensured hensured hholds.live]
  by_cases hroom : log.queue.contents.length < 2 ^ m
  · obtain ⟨result, newCells, hpush, -, hnew⟩ :=
      push_lidar_data_of_room hholds hroom publish_freq pcd_semaphore lidar_data base_time
    obtain ⟨hcontents, -, -⟩ := @Log.push_of_lt _ log
      (StoragePacket.of_point_packet lidar_data base_time) (by rwa [h.capacity, ← hpower])
    rw [← hcontents] at hnew
    refine ⟨result, hpush, hnew.follows ?_ hpower ?_⟩
    · exact (log.step_capacity (.push _)).trans h.capacity
    · intro packet hpacket
      rw [hcontents] at hpacket
      rcases List.mem_append.mp hpacket with hold | hlast
      · exact h.whole packet hold
      · obtain rfl := List.mem_singleton.mp hlast
        exact StoragePacket.whole_of_point_packet lidar_data base_time
  · have hfull : log.queue.contents.length = 2 ^ m := le_antisymm hholds.ring.fits (not_lt.mp hroom)
    refine ⟨ring, push_lidar_data_of_full hholds hfull publish_freq pcd_semaphore lidar_data
      base_time, ?_⟩
    rw [Log.push_of_full (by rw [hfull, hpower, h.capacity])]
    exact hholds.follows h.capacity hpower h.whole

/-- A pop gives the packet that the FIFO gives. -/
theorem LidarDataQueue.Follows.pop (h : queue.Follows publish_freq log) :
    ∃ result, queue_pop queue = .ok (log.queue.contents.head?, result) ∧
      result.Follows publish_freq log.pop := by
  have hcontains := h.contains
  cases hcontents : log.queue.contents with
  | nil =>
    rw [hcontents] at hcontains
    refine ⟨queue, queue_pop_contains_nil hcontains, h.capacity, ?_, h.size, ?_⟩
    · simpa [Log.pop, hcontents] using hcontains
    · simp [Log.pop, hcontents]
  | cons packet rest =>
    rw [hcontents] at hcontains
    obtain ⟨hpop, hrest⟩ := queue_pop_contains_cons hcontains
    refine ⟨queue_pop_update queue, hpop, h.capacity, ?_, h.size, ?_⟩
    · simpa [Log.pop, hcontents] using hrest
    · intro other hother
      refine h.whole other ?_
      simp only [Log.pop, hcontents, List.tail_cons] at hother
      rw [hcontents]
      exact List.mem_cons_of_mem packet hother

end Queue

section Table

variable {F : Type} {lds t : LdsLidar F}

/-- The device table after a call that leaves the queues alone and no lidar without its index. -/
structure LdsLidar.KeepsQueues (lds t : LdsLidar F) : Prop where
  accounted : t.cache_index.IsAccounted
  index_of : ∀ handle index, lds.cache_index.index_of handle = some index →
    t.cache_index.index_of handle = some index
  data : ∀ i, (t.lidars.get i).data = (lds.lidars.get i).data

theorem LdsLidar.modify_lidar_eq (lds : LdsLidar F) {index : UInt8}
    (hlt : index.toNat < kMaxSourceLidar) (change : LidarDevice F → LidarDevice F) :
    lds.modify_lidar index change =
      .ok (lds.with_lidar index hlt (change (lds.lidars.get ⟨index.toNat, hlt⟩))) := by
  simp [modify_lidar, lidar, readAt_of_lt _ hlt, writeAt_of_lt _ _ hlt, with_lidar,
    Vector.get_eq_getElem]

theorem LdsLidar.with_lidar_get (lds : LdsLidar F) {index : UInt8}
    (hlt : index.toNat < kMaxSourceLidar) (device : LidarDevice F) (i : Fin kMaxSourceLidar) :
    (lds.with_lidar index hlt device).lidars.get i =
      if i = ⟨index.toNat, hlt⟩ then device else lds.lidars.get i := by
  simp only [with_lidar, Vector.get_eq_getElem, Vector.getElem_set, Fin.ext_iff, eq_comm]

theorem LdsLidar.modify_lidar_keeps (haccounted : lds.cache_index.IsAccounted) {index : UInt8}
    (hlt : index.toNat < kMaxSourceLidar) {change : LidarDevice F → LidarDevice F}
    (hchange : ∀ device, (change device).data = device.data) :
    ∃ t, lds.modify_lidar index change = .ok t ∧ lds.KeepsQueues t := by
  refine ⟨_, lds.modify_lidar_eq hlt change, haccounted, fun _ _ hindex => hindex, fun i => ?_⟩
  rw [with_lidar_get]
  split
  · next heq => rw [hchange, heq]
  · rfl

/-- Looking for an index, and taking one if there is none, leaves the other lidars theirs. -/
theorem CacheIndex.IsAccounted.get_free_index_keeps {cache : CacheIndex} (h : cache.IsAccounted)
    (handle : UInt32) :
    ∃ index result,
      cache.get_free_index LidarProtoType.kLivoxLidarType.val handle = (index, result) ∧
        result.IsAccounted ∧ (∀ i ∈ index, i.toNat < kMaxSourceLidar) ∧
        ∀ other i, cache.index_of other = some i → result.index_of other = some i := by
  cases hindex : cache.index_of handle with
  | some index =>
    refine ⟨_, _, CacheIndex.get_free_index_of_mapped hindex, h, ?_, fun _ _ hother => hother⟩
    simpa using h.index_of_lt hindex
  | none =>
    cases hslot : cache.free_slot with
    | none => exact ⟨_, _, CacheIndex.get_free_index_of_full hindex hslot, h, by simp,
        fun _ _ hother => hother⟩
    | some i =>
      obtain ⟨index, t, hget, htoNat, haccounted, -, hroutes⟩ := h.get_free_index_of_new hindex hslot
      refine ⟨_, _, hget, haccounted, ?_, ?_⟩
      · intro j hj
        obtain rfl : index = j := by simpa using hj
        rw [htoNat]
        exact i.isLt
      · intro other j hother
        rw [hroutes, if_neg]
        · exact hother
        · rintro rfl
          simp [hindex] at hother

theorem LdsLidar.register_lidar_keeps (haccounted : lds.cache_index.IsAccounted)
    (config : UserLivoxLidarConfig F) :
    ∃ t lidar_param, lds.register_lidar config = .ok (t, lidar_param) ∧ lds.KeepsQueues t := by
  obtain ⟨index, result, hget, hresult, hlt, hroutes⟩ :=
    haccounted.get_free_index_keeps config.handle
  rw [register_lidar, hget]
  cases index with
  | none => exact ⟨_, _, rfl, hresult, hroutes, fun _ => rfl⟩
  | some index =>
    obtain ⟨t, hmodify, hkeeps⟩ := @modify_lidar_keeps F { lds with cache_index := result } hresult
      index (hlt index rfl) (fill_in config) fun _ => rfl
    simp only [hmodify, ok_bind]
    refine ⟨t, _, rfl, hkeeps.accounted, ?_, hkeeps.data⟩
    exact fun handle i hindex => hkeeps.index_of handle i (hroutes handle i hindex)

theorem send_params_data (params : List ConfigParam) (device : LidarDevice F) :
    (send_params params device).1.data = device.data := by
  induction params generalizing device with
  | nil => rfl
  | cons param params ih =>
    simp only [send_params, ih, send_param]
    split <;> rfl

theorem LidarDevice.check_sampling_data (device : LidarDevice F) :
    device.check_sampling.data = device.data := by
  rw [check_sampling]
  split <;> rfl

theorem send_config_data (device : LidarDevice F) : (send_config device).1.data = device.data := by
  simp only [send_config]
  rw [LidarDevice.check_sampling_data, send_params_data]

theorem LdsLidar.lidar_info_change_keeps (haccounted : lds.cache_index.IsAccounted)
    (handle : UInt32) :
    ∃ t commands, lidar_info_change_callback lds handle = .ok (t, commands) ∧
      lds.KeepsQueues t := by
  rw [lidar_info_change_callback, get_lidar_device]
  cases hindex : lds.cache_index.index_of handle with
  | none =>
    rw [CacheIndex.index_of] at hindex
    rw [hindex]
    obtain ⟨index, result, hget, hresult, hlt, hroutes⟩ := haccounted.get_free_index_keeps handle
    simp only [hget]
    cases index with
    | none => exact ⟨_, _, rfl, hresult, hroutes, fun _ => rfl⟩
    | some index =>
      obtain ⟨t, hmodify, hkeeps⟩ := @modify_lidar_keeps F { lds with cache_index := result } hresult
        index (hlt index rfl)
        (fun device => { device with lidar_type := LidarProtoType.kLivoxLidarType.val })
        fun _ => rfl
      simp only [hmodify, ok_bind]
      refine ⟨t, _, rfl, hkeeps.accounted, ?_, hkeeps.data⟩
      exact fun other i hother => hkeeps.index_of other i (hroutes other i hother)
  | some index =>
    have hlt := haccounted.index_of_lt hindex
    rw [CacheIndex.index_of] at hindex
    rw [hindex]
    have hread : lds.lidar index = .ok (lds.lidars.get ⟨index.toNat, hlt⟩) := by
      simp [lidar, readAt_of_lt _ hlt, Vector.get_eq_getElem]
    simp only [hread, ok_bind, lds.modify_lidar_eq hlt]
    refine ⟨_, _, rfl, haccounted, fun _ _ hother => hother, fun i => ?_⟩
    rw [with_lidar_get]
    split
    · next heq => rw [send_config_data, heq]
    · rfl

end Table

section Frames

variable {F : Type} [Coordinate F] {lidar_extrinsics : Std.TreeMap UInt32 (LidarExtParameter F)}
  {handles : Finset UInt32} {s t : PubRun F}

/-- The packets of the frames that a step publishes are of Livox lidars. -/
theorem PubRun.Conserving.step_frames (h : s.Conserving lidar_extrinsics handles)
    (hhandles : handles.card ≤ kMaxSourceLidar) {event : PubEvent} (hstep : s.step event = .ok t) :
    ∃ frames, t.published = s.published ++ frames ∧
      ∀ packet ∈ frames.flatten, packet.packet.lidar_type = LidarProtoType.kLivoxLidarType.val := by
  cases event with
  | packet raw_packet =>
    cases hstep
    exact ⟨[], by simp, by simp⟩
  | timestamp_sync is_timestamp_sync =>
    cases hstep
    exact ⟨[], by simp, by simp⟩
  | process =>
    refine ⟨[], ?_, by simp⟩
    obtain rfl | ⟨raw_data, rest, -, rfl⟩ := PubRun.step_process_cases hstep <;> simp
  | timer now_time =>
    cases hpending : s.pending with
    | none =>
      obtain rfl : s = t := by simpa [PubRun.step, hpending] using hstep
      exact ⟨[], by simp, by simp⟩
    | some id =>
      obtain ⟨handler, published, hcheck, hchecked⟩ := PubHandler.check_timer_spec h.idle
        (h.pending id hpending) (cutFits_of_known hhandles h.known now_time)
      obtain ⟨ids, -, -, hcut⟩ := hchecked.cut
      rw [PubRun.step_timer_of_checked hpending hcheck] at hstep
      cases hstep
      refine ⟨published.toList, rfl, ?_⟩
      have hflatten : published.toList.flatten = published.getD [] := by
        cases published <;> simp
      rw [hflatten, hcut]
      intro packet hpacket
      obtain ⟨cut, -, hfrom⟩ := List.mem_filterMap.mp hpacket
      cases hpoints : s.handler.points_held cut with
      | nil => simp [hpoints, cut_packet] at hfrom
      | cons point rest =>
        rw [hpoints] at hfrom
        cases hfrom
        rfl

end Frames

section Run

variable {F : Type}

/-- The FIFO that has done what was done to a queue. -/
def Pipeline.fifo (publish_freq : ℚ) (s : Pipeline F) (i : Fin kMaxSourceLidar) :
    Log (StoragePacket F) :=
  (s.calls i).foldl Log.step (Log.empty _ (queue_capacity publish_freq))

/-- The publisher of a device, once there is one. -/
def Publications.publisher (lddc : Lddc) (publications : Publications F)
    (i : Fin kMaxSourceLidar) : Option Publisher :=
  if lddc.use_multi_topic != 0 then publications.private_pub.get i else publications.global_pub

/-- What has been taken out of a queue is published by the publisher of its device, as the message of
the transfer format. -/
def Publications.Publishes (lddc : Lddc) (to_uint8 : F → UInt8) (publications : Publications F)
    (taken : Fin kMaxSourceLidar × StoragePacket F) (published : Publisher × Message F) : Prop :=
  publications.publisher lddc taken.1 = some published.1 ∧
    ∃ device, lddc.message to_uint8 device taken.2 = .ok published.2

/-- Each lidar has a bounded FIFO between the packets of the frames and those that are published, and
the polling thread publishes what it takes out, in that order. -/
structure Pipeline.Queued (publish_freq : ℚ) (lddc : Lddc) (to_uint8 : F → UInt8) (s : Pipeline F) :
    Prop where
  frames : s.pub.published.flatten = s.stored.map Prod.fst ++ s.storing
  queues : ∀ i, (s.lds.lidars.get i).data.Follows publish_freq (s.fifo publish_freq i)
  offered : ∀ i, fifo.offered (s.calls i) =
    (s.stored.filter fun p => p.2 = some (UInt8.ofNat i)).map fun p => p.1.storage_packet
  taken : ∀ i, (s.taken.filter fun p => p.1 = i).map Prod.snd = (s.fifo publish_freq i).popped
  published : lddc.output_type = kOutputToRos →
    List.Forall₂ (s.publications.Publishes lddc to_uint8)
      (s.taken.filter fun p => !p.2.points.isEmpty) s.publications.published

/-- From the sensor to the topic: no point is lost before the queues, and what is published of a lidar
are some of the points that its datagrams decode to, in their order. -/
structure Pipeline.Delivers [Coordinate F] (publish_freq : ℚ) (lddc : Lddc) (to_uint8 : F → UInt8)
    (lidar_extrinsics : Std.TreeMap UInt32 (LidarExtParameter F)) (s : Pipeline F) : Prop
    extends s.Queued publish_freq lddc to_uint8 where
  conserved : s.pub.Conserved lidar_extrinsics
  in_order : ∀ handle (i : Fin kMaxSourceLidar),
    s.lds.cache_index.index_of handle = some (UInt8.ofNat i) →
    ((s.taken.filter fun p => p.1 = i).flatMap fun p => p.2.points).Sublist
      (decoded_stream lidar_extrinsics s.pub.processed handle)

/-- What a step needs besides. -/
structure Pipeline.Delivering [Coordinate F] (publish_freq : ℚ) (lddc : Lddc)
    (to_uint8 : F → UInt8) (lidar_extrinsics : Std.TreeMap UInt32 (LidarExtParameter F))
    (handles : Finset UInt32) (s : Pipeline F) : Prop
    extends s.Queued publish_freq lddc to_uint8 where
  conserving : s.pub.Conserving lidar_extrinsics handles
  ready : s.pub.Ready
  inside : ∀ raw_packet ∈ s.pub.received, raw_packet.RawPointsInside
  accounted : s.lds.cache_index.IsAccounted
  livox : ∀ packet ∈ s.pub.published.flatten,
    packet.packet.lidar_type = LidarProtoType.kLivoxLidarType.val
  routed : ∀ p ∈ s.stored, ∀ index ∈ p.2,
    s.lds.cache_index.index_of p.1.packet.handle = some index

theorem Pipeline.fifo_conserves (publish_freq : ℚ) (s : Pipeline F) (i : Fin kMaxSourceLidar) :
    (s.fifo publish_freq i).Conserves :=
  Log.run_conserves (Log.empty_conserves _ _) _

variable [Coordinate F] {publish_freq : ℚ} {lddc : Lddc} {to_uint8 : F → UInt8}
  {lidar_extrinsics : Std.TreeMap UInt32 (LidarExtParameter F)} {handles : Finset UInt32}
  {s : Pipeline F}

/-- The packets that were offered to the queue of a lidar are packets of that lidar. -/
theorem Pipeline.Delivering.offered_points (h : s.Delivering publish_freq lddc to_uint8
      lidar_extrinsics handles) {handle : UInt32} {i : Fin kMaxSourceLidar}
    (hindex : s.lds.cache_index.index_of handle = some (UInt8.ofNat i)) :
    ((fifo.offered (s.calls i)).flatMap fun packet => packet.points).Sublist
      (packet_points (s.stored.map Prod.fst) handle) := by
  have howner : s.stored.filter (fun p => p.2 = some (UInt8.ofNat i)) =
      (s.stored.filter fun p => p.1.packet.handle = handle).filter
        fun p => p.2 = some (UInt8.ofNat i) := by
    rw [List.filter_filter]
    apply List.filter_congr
    intro p hp
    by_cases hp2 : p.2 = some (UInt8.ofNat i)
    · have hroute := h.routed p hp _ hp2
      simp [hp2, h.accounted.index_of_injective hroute hindex]
    · simp [hp2]
  rw [h.offered, howner, List.flatMap_map, packet_points, List.filter_map, List.flatMap_map]
  refine (List.Sublist.flatMap_right _ ?_).trans (List.filter_sublist.flatMap _)
  intro p _
  exact List.take_sublist _ _

theorem Pipeline.Delivering.in_order (h : s.Delivering publish_freq lddc to_uint8 lidar_extrinsics
      handles) {handle : UInt32} {i : Fin kMaxSourceLidar}
    (hindex : s.lds.cache_index.index_of handle = some (UInt8.ofNat i)) :
    ((s.taken.filter fun p => p.1 = i).flatMap fun p => p.2.points).Sublist
      (decoded_stream lidar_extrinsics s.pub.processed handle) := by
  have hpopped : (s.fifo publish_freq i).popped.Sublist (fifo.offered (s.calls i)) := by
    have haccepted := Log.run_accepted_sublist (Log.empty (StoragePacket F)
      (queue_capacity publish_freq)) (s.calls i)
    have hconserves : (s.fifo publish_freq i).accepted = _ := s.fifo_conserves publish_freq i
    rw [← fifo, hconserves] at haccepted
    exact (List.sublist_append_left _ _).trans haccepted
  have htaken : ((s.taken.filter fun p => p.1 = i).flatMap fun p => p.2.points) =
      (s.fifo publish_freq i).popped.flatMap fun packet => packet.points := by
    rw [← h.taken i, List.flatMap_map]
  have hdecoded := h.conserving.conserved.points handle
  rw [h.frames, packet_points_append] at hdecoded
  rw [htaken, ← hdecoded, List.append_assoc]
  exact ((hpopped.flatMap _).trans (h.offered_points hindex)).trans (List.sublist_append_left _ _)

theorem Pipeline.Delivering.delivers (h : s.Delivering publish_freq lddc to_uint8 lidar_extrinsics
      handles) : s.Delivers publish_freq lddc to_uint8 lidar_extrinsics :=
  { h with conserved := h.conserving.conserved, in_order := fun _ _ hindex => h.in_order hindex }

/-- A call that leaves the queues alone. -/
theorem Pipeline.Delivering.keeps (h : s.Delivering publish_freq lddc to_uint8 lidar_extrinsics
      handles) {lds : LdsLidar F} (hkeeps : s.lds.KeepsQueues lds) :
    ({ s with lds } : Pipeline F).Delivering publish_freq lddc to_uint8 lidar_extrinsics handles where
  frames := h.frames
  queues := fun i => by
    rw [hkeeps.data i]
    exact h.queues i
  offered := h.offered
  taken := h.taken
  published := h.published
  conserving := h.conserving
  ready := h.ready
  inside := h.inside
  accounted := hkeeps.accounted
  livox := h.livox
  routed := fun p hp index hindex => hkeeps.index_of _ _ (h.routed p hp index hindex)

/-- The decoder stays within the packet that it is given. -/
theorem Pipeline.Delivering.read_raw_points (h : s.Delivering publish_freq lddc to_uint8
      lidar_extrinsics handles) (event : PubEvent) : s.read_raw_points event = .ok () := by
  cases event with
  | process =>
    rw [Pipeline.read_raw_points]
    split
    · rename_i raw_data rest _ hqueue
      have hmem : raw_data ∈ s.pub.received := by
        rw [PubRun.received, hqueue]
        simp
      exact if_pos (RawPacket.rawPointsInside_iff.mp (h.inside raw_data hmem))
    · rfl
  | packet _ | timestamp_sync _ | timer _ => rfl

/-- A step of the receiver or of the publisher thread. -/
theorem Pipeline.Delivering.pub_step (h : s.Delivering publish_freq lddc to_uint8 lidar_extrinsics
      handles) (hhandles : handles.card ≤ kMaxSourceLidar) {event : PubEvent}
    (hevent : ∀ raw_packet, event = .packet raw_packet →
      raw_packet.lidar_id ∈ handles ∧ raw_packet.RawPointsInside) :
    ∃ t, s.pub_step event = .ok t ∧
      t.Delivering publish_freq lddc to_uint8 lidar_extrinsics handles := by
  rw [Pipeline.pub_step]
  by_cases hbusy : s.busy event = true
  · rw [if_pos hbusy]
    exact ⟨s, rfl, h⟩
  · rw [if_neg hbusy]
    obtain ⟨pub, hstep, hconserving⟩ :=
      step_conserving hhandles (fun raw_packet heq => (hevent raw_packet heq).1) h.conserving
    obtain ⟨frames, hframes, hlivox⟩ := h.conserving.step_frames hhandles hstep
    have hreceived := step_received h.ready hstep
    rw [h.read_raw_points, ok_bind, hstep, ok_bind, hframes, List.drop_left]
    refine ⟨_, rfl, ?_⟩
    exact
      { h with
        conserving := hconserving
        ready := step_ok_ready h.ready hstep
        inside := by
          intro raw_packet hmem
          dsimp only at hmem
          rw [hreceived, List.mem_append] at hmem
          rcases hmem with hold | hnew
          · exact h.inside raw_packet hold
          · cases event with
            | packet arrived =>
              obtain rfl := Option.mem_some.mp (Option.mem_toList.mp hnew)
              exact (hevent _ rfl).2
            | timestamp_sync _ | process | timer _ => cases hnew
        frames := by
          simp only [hframes, List.flatten_append, h.frames, List.append_assoc]
        livox := by
          intro packet hpacket
          simp only [hframes, List.flatten_append, List.mem_append] at hpacket
          exact hpacket.elim (h.livox packet) (hlivox packet) }

omit [Coordinate F] in
/-- What a call on one queue does to the FIFOs. -/
theorem Pipeline.fifo_call {t : Pipeline F} {i : Fin kMaxSourceLidar}
    {op : Operation (StoragePacket F)}
    (hcalls : t.calls = Function.update s.calls i (s.calls i ++ [op])) (j : Fin kMaxSourceLidar) :
    t.fifo publish_freq j =
      if j = i then (s.fifo publish_freq i).step op else s.fifo publish_freq j := by
  rw [fifo, hcalls]
  by_cases hj : j = i
  · subst hj
    rw [if_pos rfl, Function.update_self, List.foldl_append]
    rfl
  · rw [if_neg hj, Function.update_of_ne hj]
    rfl

/-- The next packet of the frame is stored, or left out. -/
theorem Pipeline.Delivering.storage_point_data (h : s.Delivering publish_freq lddc to_uint8
      lidar_extrinsics handles) :
    ∃ t, s.storage_point_data publish_freq = .ok t ∧
      t.Delivering publish_freq lddc to_uint8 lidar_extrinsics handles := by
  rw [Pipeline.storage_point_data]
  cases hstoring : s.storing with
  | nil => exact ⟨s, rfl, h⟩
  | cons packet storing =>
    have hframes := h.frames
    rw [hstoring] at hframes
    have hpacket : packet ∈ s.pub.published.flatten := by simp [hframes]
    have hroute : s.lds.cache_index.get_index packet.packet.lidar_type packet.packet.handle =
        s.lds.cache_index.index_of packet.packet.handle := by
      rw [h.livox packet hpacket, CacheIndex.index_of]
    dsimp only
    rw [hroute]
    cases hindex : s.lds.cache_index.index_of packet.packet.handle with
    | none =>
      refine ⟨_, rfl, ?_⟩
      exact
        { h with
          frames := by simp [hframes]
          offered := fun i => by simp [h.offered i]
          routed := by
            intro p hp index hmem
            rcases List.mem_append.mp hp with hold | hnew
            · exact h.routed p hold index hmem
            · obtain rfl := List.mem_singleton.mp hnew
              cases hmem }
    | some index =>
      have hlt := h.accounted.index_of_lt hindex
      have hreadable : packet.packet.points_num.toNat ≤ packet.packet.points.length := by
        obtain ⟨frame, hframe, hmem⟩ := List.mem_flatten.mp hpacket
        rw [(h.conserving.conserved.packets frame hframe packet hmem).1, UInt32.toNat_ofNat']
        exact Nat.mod_le _ _
      obtain ⟨data, hpush, hfollows⟩ := (h.queues ⟨index.toNat, hlt⟩).push s.pcd_semaphore
        ⟨packet.packet, hreadable⟩ packet.base_time
      simp only [Pipeline.push, dif_pos hlt, dif_pos hreadable, hpush, ok_bind,
        LdsLidar.modify_lidar_eq _ hlt]
      refine ⟨_, rfl, ?_⟩
      have hsame : ∀ i : Fin kMaxSourceLidar, index = UInt8.ofNat i ↔ i = ⟨index.toNat, hlt⟩ := by
        intro i
        rw [← UInt8.toNat_inj, CacheIndex.free_slot_toNat, Fin.ext_iff, eq_comm]
      exact
        { h with
          frames := by simp [hframes]
          queues := by
            intro i
            rw [LdsLidar.with_lidar_get, fifo_call rfl]
            split
            · exact hfollows
            · exact h.queues i
          offered := by
            intro i
            by_cases hi : i = ⟨index.toNat, hlt⟩
            · subst hi
              simp [offered_append, h.offered, List.filter_append]
            · simp [h.offered, List.filter_append, hsame, hi]
          taken := by
            intro i
            rw [fifo_call rfl]
            split
            · next hi =>
              rw [Log.step, Log.push_popped, ← hi]
              exact h.taken i
            · exact h.taken i
          routed := by
            intro p hp other hmem
            rcases List.mem_append.mp hp with hold | hnew
            · exact h.routed p hold other hmem
            · obtain rfl := List.mem_singleton.mp hnew
              obtain rfl : index = other := by simpa using hmem
              exact hindex }

omit [Coordinate F] in
/-- A publisher that has been made stays. -/
theorem Lddc.get_current_publisher_spec (lddc : Lddc) (device : LidarDevice F)
    (i : Fin kMaxSourceLidar) (publications : Publications F) :
    ∃ publisher result, lddc.get_current_publisher device i publications = (publisher, result) ∧
      result.published = publications.published ∧ result.publisher lddc i = some publisher ∧
      ∀ j held, publications.publisher lddc j = some held → result.publisher lddc j = some held := by
  rw [get_current_publisher]
  by_cases hmulti : (lddc.use_multi_topic != 0) = true
  · simp only [if_pos hmulti, Publications.publisher]
    refine ⟨_, _, rfl, rfl, by simp [Vector.get_eq_getElem], ?_⟩
    intro j held hheld
    by_cases hj : (i : Nat) = j
    · obtain rfl : i = j := Fin.ext hj
      simp [Vector.get_eq_getElem] at hheld ⊢
      simp [hheld]
    · simpa [Vector.get_eq_getElem, Vector.getElem_set_ne _ _ hj] using hheld
  · simp only [if_neg hmulti, Publications.publisher]
    refine ⟨_, _, rfl, rfl, rfl, ?_⟩
    intro j held hheld
    simp [hheld]

omit [Coordinate F] in
theorem Publications.Publishes.grow {before after : Publications F}
    (hgrow : ∀ j held, before.publisher lddc j = some held → after.publisher lddc j = some held)
    {taken : Fin kMaxSourceLidar × StoragePacket F} {published : Publisher × Message F}
    (h : before.Publishes lddc to_uint8 taken published) :
    after.Publishes lddc to_uint8 taken published :=
  ⟨hgrow _ _ h.1, h.2⟩

omit [Coordinate F] in
theorem Publications.publishes_append {publications : Publications F} {device : LidarDevice F}
    {i : Fin kMaxSourceLidar} {packet : StoragePacket F} {message : Message F}
    {taken : List (Fin kMaxSourceLidar × StoragePacket F)}
    (houtput : lddc.output_type = kOutputToRos)
    (hmessage : lddc.message to_uint8 device packet = .ok message)
    (hall : List.Forall₂ (publications.Publishes lddc to_uint8) taken publications.published) :
    List.Forall₂ ((lddc.publish_data device i message publications).Publishes lddc to_uint8)
      (taken ++ [(i, packet)]) (lddc.publish_data device i message publications).published := by
  obtain ⟨publisher, result, hcurrent, hsame, hmade, hgrow⟩ :=
    lddc.get_current_publisher_spec device i publications
  have hdata : lddc.publish_data device i message publications =
      { result with published := result.published ++ [(publisher, message)] } := by
    rw [Lddc.publish_data, hcurrent]
    simp only [if_pos houtput]
  rw [hdata, hsame]
  refine List.rel_append (hall.imp fun _ _ hold => hold.grow hgrow) (.cons ?_ .nil)
  exact ⟨hmade, device, hmessage⟩

omit [Coordinate F] in
/-- What is published of a packet that has been taken out. -/
theorem Lddc.publish_turn_spec (device : LidarDevice F) (i : Fin kMaxSourceLidar)
    {polling : Lddc.Polling F} {packet : StoragePacket F} {queue : LidarDataQueue F}
    (hpop : queue_pop polling.queue = .ok (some packet, queue)) (hwhole : packet.Whole) :
    ∃ t, lddc.publish_turn to_uint8 device i polling = .ok t ∧ t.queue = queue ∧
      (packet.points.isEmpty = true → t.publications = polling.publications) ∧
      (packet.points.isEmpty = false → ∃ message, lddc.message to_uint8 device packet = .ok message ∧
        t.publications = lddc.publish_data device i message polling.publications) := by
  cases hpoints : packet.points.isEmpty with
  | true =>
    refine ⟨{ polling with queue }, ?_, rfl, fun _ => rfl, by simp⟩
    simp only [publish_turn, hpop, ok_bind, hpoints, if_true]
  | false =>
    obtain ⟨message, hmessage⟩ := @message_completes F lddc to_uint8 device packet hwhole
    refine ⟨{ polling with
        queue, publications := lddc.publish_data device i message polling.publications }, ?_, rfl,
      by simp, fun _ => ⟨message, hmessage, rfl⟩⟩
    simp only [publish_turn, hpop, ok_bind, hpoints, Bool.false_eq_true, if_false, hmessage]

/-- The polling thread takes a packet out of a queue and publishes it. -/
theorem Pipeline.Delivering.publish (h : s.Delivering publish_freq lddc to_uint8 lidar_extrinsics
      handles) (i : Fin kMaxSourceLidar) :
    ∃ t, s.publish lddc to_uint8 i = .ok t ∧
      t.Delivering publish_freq lddc to_uint8 lidar_extrinsics handles := by
  rw [Pipeline.publish]
  dsimp only
  split
  case isFalse => exact ⟨s, rfl, h⟩
  case isTrue hcondition =>
    have hempty : queue_is_empty (s.lds.lidars.get i).data = false := by
      simpa using (Bool.and_eq_true_iff.mp hcondition).2
    obtain ⟨queue, hpop, hfollows⟩ := (h.queues i).pop
    cases hcontents : (s.fifo publish_freq i).queue.contents with
    | nil =>
      have hnil := (h.queues i).contains.is_empty_iff.mpr hcontents
      simp [hempty] at hnil
    | cons packet held =>
      rw [hcontents] at hpop
      have hwhole := (h.queues i).whole packet (by simp [hcontents])
      obtain ⟨t, hturn, hqueue, hdropped, hpublished⟩ :=
        @Lddc.publish_turn_spec F lddc to_uint8 (s.lds.lidars.get i) i
          { place := .publish_loop, request_exit := false, queue := (s.lds.lidars.get i).data
            publications := s.publications } packet queue hpop hwhole
      simp only [hpop, hturn, ok_bind, List.head?_cons]
      refine ⟨_, rfl, ?_⟩
      exact
        { h with
          queues := by
            intro j
            rw [fifo_call rfl]
            by_cases hj : j = i
            · subst hj
              simpa [Vector.get_eq_getElem, hqueue, Log.step] using hfollows
            · have hne : (i : Nat) ≠ j := fun heq => hj (Fin.ext heq.symm)
              rw [if_neg hj]
              simpa [Vector.get_eq_getElem, Vector.getElem_set_ne _ _ hne] using h.queues j
          offered := by
            intro j
            by_cases hj : j = i
            · subst hj
              simp [offered_append, h.offered]
            · simp [Function.update_of_ne hj, h.offered]
          taken := by
            intro j
            rw [fifo_call rfl, List.filter_append, List.map_append, h.taken j]
            by_cases hj : j = i
            · subst hj
              simp [Log.step, Log.pop, hcontents]
            · simp [hj, Ne.symm hj]
          published := by
            intro houtput
            have hall := h.published houtput
            dsimp only
            cases hpoints : packet.points.isEmpty with
            | true =>
              rw [hdropped hpoints]
              simpa [List.filter_append, hpoints] using hall
            | false =>
              obtain ⟨message, hmessage, hmade⟩ := hpublished hpoints
              rw [hmade]
              simpa [List.filter_append, hpoints] using
                Publications.publishes_append houtput hmessage hall }

/-- Every step that lets in only packets of `handles` with all their points completes and delivers. -/
theorem Pipeline.Delivering.step (h : s.Delivering publish_freq lddc to_uint8 lidar_extrinsics
      handles) (hhandles : handles.card ≤ kMaxSourceLidar) {event : PipelineEvent F}
    (hevent : ∀ raw_packet, event = .pub (.packet raw_packet) →
      raw_packet.lidar_id ∈ handles ∧ raw_packet.RawPointsInside) :
    ∃ t, s.step publish_freq lddc to_uint8 event = .ok t ∧
      t.Delivering publish_freq lddc to_uint8 lidar_extrinsics handles := by
  cases event with
  | register_lidar config =>
    obtain ⟨lds, lidar_param, hregister, hkeeps⟩ := s.lds.register_lidar_keeps h.accounted config
    exact ⟨_, by simp only [Pipeline.step, hregister, ok_bind], h.keeps hkeeps⟩
  | lidar_info_change handle =>
    obtain ⟨lds, commands, hchange, hkeeps⟩ := s.lds.lidar_info_change_keeps h.accounted handle
    exact ⟨_, by simp only [Pipeline.step, hchange, ok_bind], h.keeps hkeeps⟩
  | pub event =>
    exact h.pub_step hhandles fun raw_packet heq => hevent raw_packet (by rw [heq])
  | storage_point_data => exact h.storage_point_data
  | publish i => exact h.publish i

theorem Pipeline.start_delivering (publish_freq : ℚ) (lddc : Lddc) (to_uint8 : F → UInt8)
    (publish_interval : PublishInterval)
    (lidar_extrinsics : Std.TreeMap UInt32 (LidarExtParameter F)) (handles : Finset UInt32) :
    (start publish_interval lidar_extrinsics).Delivering publish_freq lddc to_uint8
      lidar_extrinsics handles where
  frames := by simp [start, PubRun.start]
  queues := fun i => by
    have hzero : ((start publish_interval lidar_extrinsics).lds.lidars.get i).data =
        LidarDataQueue.zero F := by
      simp [start, LdsLidar.new, Vector.get_eq_getElem, LidarDevice.zero]
    rw [hzero]
    exact LidarDataQueue.Follows.empty publish_freq
  offered := by simp [start, fifo.offered]
  taken := by simp [start, fifo, Log.empty]
  published := by simp [start]
  conserving := start_conserving publish_interval lidar_extrinsics handles
  ready := start_ready publish_interval lidar_extrinsics
  inside := by simp [start, PubRun.received, PubRun.start, PubHandler.start]
  accounted := CacheIndex.new_isAccounted
  livox := by simp [start, PubRun.start]
  routed := by simp [start]

end Run

/-- From the datagrams of at most 32 lidars to their topics, whatever the threads do and in whatever
order lidars are registered and reported: every run in which each packet has as many points as it
counts completes, and in each of its states no point has been lost on the way to the queues, each
queue is a bounded FIFO of what it was offered, and what has been published of a lidar are some of
the points that its datagrams decode to, in their order. -/
theorem points_delivered_in_order {F : Type} [Coordinate F] (publish_freq : ℚ) (lddc : Lddc)
    (to_uint8 : F → UInt8) (publish_interval : PublishInterval)
    (lidar_extrinsics : Std.TreeMap UInt32 (LidarExtParameter F)) (handles : Finset UInt32)
    (hhandles : handles.card ≤ kMaxSourceLidar) (events : List (PipelineEvent F))
    (hevents : ∀ event ∈ events, ∀ raw_packet, event = .pub (.packet raw_packet) →
      raw_packet.lidar_id ∈ handles ∧ raw_packet.RawPointsInside) :
    ∃ t, exec (Pipeline.step publish_freq lddc to_uint8)
        (Pipeline.start publish_interval lidar_extrinsics) events = .ok t ∧
      StatesSatisfy (Pipeline.step publish_freq lddc to_uint8)
        (Pipeline.Delivers publish_freq lddc to_uint8 lidar_extrinsics)
        (Pipeline.start publish_interval lidar_extrinsics) events := by
  have hstep : ∀ (s : Pipeline F) (event : PipelineEvent F),
      s.Delivering publish_freq lddc to_uint8 lidar_extrinsics handles →
      (∀ raw_packet, event = .pub (.packet raw_packet) →
        raw_packet.lidar_id ∈ handles ∧ raw_packet.RawPointsInside) →
      ∃ t, s.step publish_freq lddc to_uint8 event = .ok t ∧
        t.Delivering publish_freq lddc to_uint8 lidar_extrinsics handles :=
    fun s event hs hevent => hs.step hhandles hevent
  obtain ⟨t, hrun, hstates⟩ := StepsSatisfy.completes hstep
    (Pipeline.start_delivering publish_freq lddc to_uint8 publish_interval lidar_extrinsics handles)
    (stepsSatisfy_of_forall hevents)
  exact ⟨t, hrun, hstates.mono fun s hs => hs.delivers⟩

/-- A packet of 96 points. -/
def full_packet : RawPacket where
  lidar_type := .kLivoxLidarType
  handle := 1
  extrinsic_enable := false
  point_num := 96
  data_type := kLivoxLidarCartesianCoordinateHighData
  line_num := 4
  time_stamp := 1000000
  point_interval := 5000
  raw_data := List.replicate (96 * 14) 1
  past_end := fun _ => 0
  line_num_ne := four_lines_ne

theorem full_packet_inside : full_packet.RawPointsInside := by
  rw [RawPacket.rawPointsInside_iff]
  show _ ≤ (List.replicate (96 * 14) (1 : UInt8)).length
  rw [List.length_replicate]
  decide

/-- A lidar is reported, sends a packet that is cut into a frame, stored, and published. -/
theorem points_delivered_in_order_one_lidar :
    let lddc := Lddc.new true 0 1 0 "livox_frame"
    let events : List (PipelineEvent ℝ) :=
      [.lidar_info_change 1, .pub (.packet full_packet), .pub .process, .pub (.timer 0),
        .pub (.packet full_packet), .pub .process, .pub (.timer 100000000), .storage_point_data,
        .publish ⟨0, by decide⟩]
    ∃ t, exec (Pipeline.step 10 lddc fun _ => 0) (Pipeline.start ⟨10000000, by decide⟩ ∅) events =
        .ok t ∧ t.Delivers 10 lddc (fun _ => 0) ∅ := by
  intro lddc events
  obtain ⟨t, hrun, hstates⟩ := @points_delivered_in_order ℝ _ 10 lddc (fun _ => 0)
    ⟨10000000, by decide⟩ ∅ {1} (by decide) events (by
      intro event hevent packet heq
      subst heq
      simp only [events, List.mem_cons, reduceCtorEq, PipelineEvent.pub.injEq,
        PubEvent.packet.injEq, List.not_mem_nil, or_false, false_or] at hevent
      have hpacket : packet = full_packet := hevent.elim id id
      rw [hpacket]
      exact ⟨by decide, full_packet_inside⟩)
  exact ⟨t, hrun, hstates.last hrun⟩

end livox_ros
