import Livox.Comm.PubHandler
import Livox.Library.OrderedMap

open checked ordered_map

namespace livox_ros

/-- The packet that a lidar with these accumulated points adds to a frame. -/
def cut_packet {F : Type} (id : UInt32) (points : List (PointXyzlt F)) :
    Option (PublishedPacket F) :=
  match points with
  | [] => none
  | point :: _ =>
    some
      { base_time := point.offset_time
        packet :=
          { handle := id, lidar_type := LidarProtoType.kLivoxLidarType.val
            points_num := UInt32.ofNat points.length, points := points } }

namespace LidarPubHandler

/-- The accumulator after its points have been swapped out. -/
def drained {F : Type} (handler : LidarPubHandler F) : LidarPubHandler F :=
  { handler with points_clouds := [] }

end LidarPubHandler

namespace PubHandler

variable {F : Type}

/-- The points accumulated for a lidar and not yet cut into a frame. -/
def points_held (s : PubHandler F) (id : UInt32) : List (PointXyzlt F) :=
  match s.lidar_process_handlers[id]? with
  | some handler => handler.points_clouds
  | none => []

theorem points_held_of_some {s : PubHandler F} {id : UInt32} {handler : LidarPubHandler F}
    (h : s.lidar_process_handlers[id]? = some handler) : s.points_held id = handler.points_clouds := by
  simp [points_held, h]

/-- The frame shows these packets: each is at its position, and its address is
that of a vector of `points_` with the points in it. -/
structure Shows (s : PubHandler F) (packets : List (PublishedPacket F)) : Prop where
  lidar_num : s.frame.lidar_num.toNat = packets.length
  fits : packets.length ≤ kMaxSourceLidar
  position : ∀ i (hi : i < packets.length),
    s.frame.base_time[i] = packets[i].base_time ∧
      s.frame.lidar_point[i] =
        { packets[i].packet with points := some packets[i].packet.handle } ∧
      s.points[packets[i].packet.handle]? = some packets[i].packet.points

/-- What the frame buffer, the accumulators and the vectors have nothing to do
with is the same in both states. -/
structure SameInputs (s t : PubHandler F) : Prop where
  raw_packet_queue : t.raw_packet_queue = s.raw_packet_queue
  publish_interval : t.publish_interval = s.publish_interval
  lidar_extrinsics : t.lidar_extrinsics = s.lidar_extrinsics
  is_timestamp_sync : t.is_timestamp_sync = s.is_timestamp_sync

theorem SameInputs.refl (s : PubHandler F) : s.SameInputs s := ⟨rfl, rfl, rfl, rfl⟩

theorem SameInputs.trans {s t u : PubHandler F} (hst : s.SameInputs t) (htu : t.SameInputs u) :
    s.SameInputs u :=
  ⟨htu.1.trans hst.1, htu.2.trans hst.2, htu.3.trans hst.3, htu.4.trans hst.4⟩

/-- Between `s` and `t` the accumulators of exactly these lidars were drained. -/
def Drains (s t : PubHandler F) (ids : List UInt32) : Prop :=
  ∀ id, t.lidar_process_handlers[id]? =
    if id ∈ ids then s.lidar_process_handlers[id]?.map LidarPubHandler.drained
    else s.lidar_process_handlers[id]?

theorem Drains.refl (s : PubHandler F) : s.Drains s [] := fun id => by simp

theorem Drains.mem_iff {s t : PubHandler F} {ids : List UInt32} (h : s.Drains t ids) (id : UInt32) :
    id ∈ t.lidar_process_handlers ↔ id ∈ s.lidar_process_handlers := by
  rw [mem_iff_lookup, mem_iff_lookup, h id]
  split <;> simp

theorem Drains.points_held {s t : PubHandler F} {ids : List UInt32} (h : s.Drains t ids)
    (id : UInt32) : t.points_held id = if id ∈ ids then [] else s.points_held id := by
  simp only [PubHandler.points_held, h id]
  by_cases hid : id ∈ ids
  · simp only [if_pos hid]
    cases s.lidar_process_handlers[id]? <;> rfl
  · simp only [if_neg hid]

theorem publish_point_cloud_of_shows {s : PubHandler F} {packets : List (PublishedPacket F)}
    (h : s.Shows packets) : s.publish_point_cloud = .ok packets := by
  unfold publish_point_cloud
  rw [h.lidar_num]
  apply mapM_range_eq_ok
  intro i hi
  obtain ⟨hbase, hpoint, hpoints⟩ := h.position i hi
  have hbound : i < kMaxSourceLidar := hi.trans_le h.fits
  simp [read_packet, hbound, hpoint, deref_points, hpoints, hbase]

/-- The state after the points of a lidar have been swapped into its vector, with
its base time at the next position of the frame. -/
def swapped (s : PubHandler F) (id : UInt32) (handler : LidarPubHandler F)
    (hindex : s.frame.lidar_num.toNat < kMaxSourceLidar) : PubHandler F :=
  { s with
    frame := { s.frame with
      base_time := s.frame.base_time.set s.frame.lidar_num.toNat handler.get_lidar_base_time hindex }
    lidar_process_handlers := s.lidar_process_handlers.insert id handler.drained
    points := s.points.insert id handler.points_clouds }

/-- The state after a packet of that vector has been added at the position. -/
def shown (s : PubHandler F) (id : UInt32) (handler : LidarPubHandler F)
    (hindex : s.frame.lidar_num.toNat < kMaxSourceLidar) : PubHandler F :=
  { s.swapped id handler hindex with
    frame := { (s.swapped id handler hindex).frame with
      lidar_point := s.frame.lidar_point.set s.frame.lidar_num.toNat
        { handle := id, lidar_type := LidarProtoType.kLivoxLidarType.val
          points_num := UInt32.ofNat handler.points_clouds.length, points := some id } hindex
      lidar_num := s.frame.lidar_num + 1 } }

theorem drains_of_insert {s t : PubHandler F} {id : UInt32} {handler : LidarPubHandler F}
    (hhandler : s.lidar_process_handlers[id]? = some handler)
    (ht : t.lidar_process_handlers = s.lidar_process_handlers.insert id handler.drained) :
    s.Drains t [id] := by
  intro other
  rw [ht, lookup_insert]
  by_cases heq : id = other
  · subst heq
    simp [hhandler]
  · simp [heq, Ne.symm heq]

section Collect

variable {s : PubHandler F} {packets : List (PublishedPacket F)} {id : UInt32}
  {handler : LidarPubHandler F} (hshows : s.Shows packets)
  (hindex : s.frame.lidar_num.toNat < kMaxSourceLidar)
  (hnew : ∀ packet ∈ packets, packet.packet.handle ≠ id)
include hshows hnew

/-- The positions already shown are not the one that is written. -/
theorem swapped_shows : (s.swapped id handler hindex).Shows packets where
  lidar_num := hshows.lidar_num
  fits := hshows.fits
  position := by
    intro i hi
    obtain ⟨hbase, hpoint, hpoints⟩ := hshows.position i hi
    have hne : s.frame.lidar_num.toNat ≠ i := by
      rw [hshows.lidar_num]
      omega
    refine ⟨?_, hpoint, ?_⟩
    · simp only [swapped]
      rw [Vector.getElem_set_ne _ _ hne]
      exact hbase
    · simp only [swapped]
      rw [lookup_insert, if_neg fun heq => hnew _ (List.getElem_mem hi) heq.symm]
      exact hpoints

theorem shown_shows {point : PointXyzlt F} {rest : List (PointXyzlt F)}
    (hpoints : handler.points_clouds = point :: rest) :
    (s.shown id handler hindex).Shows (packets ++ (cut_packet id handler.points_clouds).toList) := by
  have hroom : packets.length < kMaxSourceLidar := by rwa [← hshows.lidar_num]
  have hswapped := @swapped_shows F s packets id handler hshows hindex hnew
  simp only [hpoints, cut_packet, Option.toList_some]
  refine ⟨?_, by simpa using hroom, fun i hi => ?_⟩
  · have hsmall : packets.length + 1 < 2 ^ 8 := by
      have hlimit : kMaxSourceLidar = 32 := rfl
      omega
    simp only [shown]
    rw [UInt8.toNat_add, hshows.lidar_num]
    simpa using Nat.mod_eq_of_lt hsmall
  · have hlast : i < packets.length ∨ i = packets.length := by
      simp only [List.length_append, List.length_singleton] at hi
      omega
    rcases hlast with hbefore | rfl
    · obtain ⟨hbase, hpoint, hheld⟩ := hswapped.position i hbefore
      have hne : s.frame.lidar_num.toNat ≠ i := by
        rw [hshows.lidar_num]
        omega
      rw [List.getElem_append_left hbefore]
      refine ⟨hbase, ?_, hheld⟩
      simp only [shown]
      rw [Vector.getElem_set_ne _ _ hne]
      exact hpoint
    · rw [List.getElem_concat_length rfl]
      simp [shown, swapped, ← hshows.lidar_num, LidarPubHandler.get_lidar_base_time, hpoints]

end Collect

/-- Collecting for one lidar with room in the frame: the packet, if there are
points for one, goes behind the others, and the accumulator is drained. -/
theorem collect_points_spec {s : PubHandler F} {packets : List (PublishedPacket F)} {id : UInt32}
    {handler : LidarPubHandler F} (hhandler : s.lidar_process_handlers[id]? = some handler)
    (hshows : s.Shows packets) (hroom : packets.length < kMaxSourceLidar)
    (hnew : ∀ packet ∈ packets, packet.packet.handle ≠ id) :
    ∃ t, s.collect_points id = .ok (t, !(s.points_held id).isEmpty) ∧
      t.Shows (packets ++ (cut_packet id (s.points_held id)).toList) ∧
      s.Drains t [id] ∧ s.SameInputs t := by
  have hindex : s.frame.lidar_num.toNat < kMaxSourceLidar := by rwa [hshows.lidar_num]
  rw [points_held_of_some hhandler]
  cases hpoints : handler.points_clouds with
  | nil =>
    refine ⟨s.swapped id handler hindex, ?_, ?_, drains_of_insert hhandler rfl, ⟨rfl, rfl, rfl, rfl⟩⟩
    · simp [collect_points, process_handler, hhandler, writeAt_of_lt _ _ hindex,
        LidarPubHandler.get_lidar_point_clouds, hpoints, LidarPubHandler.drained, swapped]
    · simp only [cut_packet, Option.toList_none, List.append_nil]
      exact swapped_shows hshows hindex hnew
  | cons point rest =>
    refine ⟨s.shown id handler hindex, ?_, ?_, drains_of_insert hhandler rfl, ⟨rfl, rfl, rfl, rfl⟩⟩
    · simp [collect_points, process_handler, hhandler, writeAt_of_lt _ _ hindex,
        LidarPubHandler.get_lidar_point_clouds, hpoints, LidarPubHandler.drained, swapped, shown]
    · rw [← hpoints]
      exact shown_shows hshows hindex hnew hpoints

/-- Without room in the frame the write of the base time is out of bounds. -/
theorem collect_points_of_full {s : PubHandler F} {packets : List (PublishedPacket F)} {id : UInt32}
    (hknown : id ∈ s.lidar_process_handlers) (hshows : s.Shows packets)
    (hfull : ¬ packets.length < kMaxSourceLidar) :
    s.collect_points id = .error (.outOfBounds packets.length kMaxSourceLidar) := by
  obtain ⟨handler, hhandler⟩ := mem_iff_lookup.mp hknown
  simp [collect_points, process_handler, hhandler, writeAt, hshows.lidar_num, hfull]

/-- A lidar that a frame cut now would have a packet of. -/
def holds_points (s : PubHandler F) (id : UInt32) : Bool := !(s.points_held id).isEmpty

/-- The frame that already shows `count` packets has a position for every
write of the loop: even the last lidar has its base time written, so only the
packets of the lidars before it matter. -/
def HasRoom (s : PubHandler F) (count : Nat) (ids : List UInt32) : Prop :=
  ids ≠ [] → count + ids.dropLast.countP s.holds_points < kMaxSourceLidar

instance (s : PubHandler F) (count : Nat) (ids : List UInt32) : Decidable (s.HasRoom count ids) :=
  inferInstanceAs (Decidable (_ → _))

theorem hasRoom_cons {s : PubHandler F} {count : Nat} {id : UInt32} {ids : List UInt32} :
    s.HasRoom count (id :: ids) ↔ count < kMaxSourceLidar ∧
      s.HasRoom (count + (cut_packet id (s.points_held id)).toList.length) ids := by
  have hone : (cut_packet id (s.points_held id)).toList.length =
      if s.holds_points id = true then 1 else 0 := by
    unfold holds_points
    cases s.points_held id <;> rfl
  cases ids with
  | nil => simp [HasRoom]
  | cons next rest =>
    simp only [HasRoom, ne_eq, reduceCtorEq, not_false_eq_true, forall_true_left,
      List.dropLast_cons_cons, List.countP_cons, hone]
    omega

theorem hasRoom_congr {s t : PubHandler F} {count : Nat} {ids : List UInt32}
    (h : ∀ id ∈ ids, t.points_held id = s.points_held id) :
    t.HasRoom count ids ↔ s.HasRoom count ids := by
  have hcount : ids.dropLast.countP t.holds_points = ids.dropLast.countP s.holds_points := by
    apply List.countP_congr
    intro id hid
    rw [holds_points, holds_points, h id (List.mem_of_mem_dropLast hid)]
  rw [HasRoom, HasRoom, hcount]

theorem Drains.cons {s t u : PubHandler F} {id : UInt32} {ids : List UInt32}
    (hst : s.Drains t [id]) (htu : t.Drains u ids) (hid : id ∉ ids) : s.Drains u (id :: ids) := by
  intro other
  rw [htu other, hst other]
  by_cases heq : other = id
  · subst heq
    simp [hid]
  · simp [heq]

/-- The packets that a frame of these lidars has. -/
def cut_packets (s : PubHandler F) (ids : List UInt32) : List (PublishedPacket F) :=
  ids.filterMap fun id => cut_packet id (s.points_held id)

theorem cut_packets_cons (s : PubHandler F) (id : UInt32) (ids : List UInt32) :
    s.cut_packets (id :: ids) = (cut_packet id (s.points_held id)).toList ++ s.cut_packets ids := by
  unfold cut_packets
  rw [List.filterMap_cons]
  cases cut_packet id (s.points_held id) <;> rfl

theorem cut_packets_congr {s t : PubHandler F} {ids : List UInt32}
    (h : ∀ id ∈ ids, t.points_held id = s.points_held id) : t.cut_packets ids = s.cut_packets ids :=
  List.filterMap_congr fun id hid => by rw [h id hid]

theorem handle_of_mem_cut_packet {id : UInt32} {points : List (PointXyzlt F)}
    {packet : PublishedPacket F} (h : packet ∈ (cut_packet id points).toList) :
    packet.packet.handle = id := by
  cases points with
  | nil => simp [cut_packet] at h
  | cons point rest =>
    obtain rfl : packet = _ := by simpa [cut_packet] using h
    rfl

/-- The state of the loop over the lidars that are still to come: they are
known and distinct, and none of them has a packet in the frame yet. -/
structure LoopReady (s : PubHandler F) (packets : List (PublishedPacket F)) (ids : List UInt32) :
    Prop where
  known : ∀ id ∈ ids, id ∈ s.lidar_process_handlers
  nodup : ids.Nodup
  shows : s.Shows packets
  new : ∀ packet ∈ packets, packet.packet.handle ∉ ids

/-- One iteration of the loop with room for its writes. -/
theorem LoopReady.step {s : PubHandler F} {packets : List (PublishedPacket F)} {id : UInt32}
    {ids : List UInt32} (h : s.LoopReady packets (id :: ids))
    (hfirst : packets.length < kMaxSourceLidar) :
    ∃ t added, s.collect_points id = .ok (t, added) ∧
      t.LoopReady (packets ++ (cut_packet id (s.points_held id)).toList) ids ∧
      (∀ other ∈ ids, t.points_held other = s.points_held other) ∧
      (∀ u, t.Drains u ids → s.Drains u (id :: ids)) ∧ s.SameInputs t := by
  obtain ⟨handler, hhandler⟩ := mem_iff_lookup.mp (h.known id (by simp))
  obtain ⟨hid, hnodup⟩ := List.nodup_cons.mp h.nodup
  obtain ⟨t, hcollect, hshows, hdrains, hsame⟩ := collect_points_spec hhandler h.shows hfirst
    fun packet hpacket heq => h.new packet hpacket (by simp [heq])
  refine ⟨t, _, hcollect, ⟨?_, hnodup, hshows, ?_⟩, ?_, fun u hu => hdrains.cons hu hid, hsame⟩
  · exact fun other hother =>
      (hdrains.mem_iff other).mpr (h.known other (List.mem_cons_of_mem _ hother))
  · intro packet hpacket hmem
    rcases List.mem_append.mp hpacket with hold | hadded
    · exact h.new packet hold (List.mem_cons_of_mem _ hmem)
    · rw [handle_of_mem_cut_packet hadded] at hmem
      exact hid hmem
  · intro other hother
    rw [hdrains.points_held, if_neg]
    rintro hmem
    obtain rfl := List.mem_singleton.mp hmem
    exact hid hother

/-- With room the loop shows the packets of the lidars in order and drains all
of them. -/
theorem collect_all_of_room {s : PubHandler F} {packets : List (PublishedPacket F)}
    {ids : List UInt32} (h : s.LoopReady packets ids) (hroom : s.HasRoom packets.length ids) :
    ∃ t, s.collect_all ids = .ok t ∧ t.Shows (packets ++ s.cut_packets ids) ∧ s.Drains t ids ∧
      s.SameInputs t := by
  induction ids generalizing s packets with
  | nil => exact ⟨s, rfl, by simpa [cut_packets] using h.shows, Drains.refl s, SameInputs.refl s⟩
  | cons id ids ih =>
    obtain ⟨hfirst, hrest⟩ := hasRoom_cons.mp hroom
    obtain ⟨t, added, hcollect, hready, hheld, hdrains, hsame⟩ := h.step hfirst
    rw [← List.length_append, ← hasRoom_congr hheld] at hrest
    obtain ⟨u, hall, hshows, hudrains, husame⟩ := ih hready hrest
    refine ⟨u, ?_, ?_, hdrains u hudrains, hsame.trans husame⟩
    · simp [collect_all, hcollect, hall]
    · rwa [cut_packets_congr hheld, List.append_assoc, ← cut_packets_cons] at hshows

/-- Without room the loop writes out of bounds. -/
theorem collect_all_of_not_room {s : PubHandler F} {packets : List (PublishedPacket F)}
    {ids : List UInt32} (h : s.LoopReady packets ids) (hroom : ¬ s.HasRoom packets.length ids) :
    ∃ fault, s.collect_all ids = .error fault := by
  induction ids generalizing s packets with
  | nil => exact absurd (fun h => absurd rfl h) hroom
  | cons id ids ih =>
    by_cases hfirst : packets.length < kMaxSourceLidar
    · obtain ⟨t, added, hcollect, hready, hheld, _, _⟩ := h.step hfirst
      have hrest : ¬ t.HasRoom (packets ++ (cut_packet id (s.points_held id)).toList).length ids := by
        rw [List.length_append, hasRoom_congr hheld]
        exact fun hrest => hroom (hasRoom_cons.mpr ⟨hfirst, hrest⟩)
      obtain ⟨fault, hfault⟩ := ih hready hrest
      exact ⟨fault, by simp [collect_all, hcollect, hfault]⟩
    · refine ⟨.outOfBounds packets.length kMaxSourceLidar, ?_⟩
      rw [collect_all, collect_points_of_full (h.known id (by simp)) h.shows hfirst]
      rfl

end PubHandler

end livox_ros
