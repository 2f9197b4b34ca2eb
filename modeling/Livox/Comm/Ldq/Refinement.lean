import Livox.Comm.Ldq.Capacity
import Livox.Library.Fifo
import Livox.Lds

open checked execution fifo ring_buffer

namespace livox_ros

/-- The queue holds the packets `held`, oldest first: its storage is live, its
counters and mask are those of a ring of `2 ^ m` cells, and every held packet
has as many points as it says, so that a pop copies all of it. -/
structure LidarDataQueue.HoldsPackets {F : Type} (queue : LidarDataQueue F) (m : Nat)
    (cells held : List (StoragePacket F)) : Prop where
  live : queue.storage_packet = .live cells
  size : queue.size.toNat = 2 ^ m
  ring : Holds m cells queue.mask.toBitVec queue.rd_idx.toBitVec queue.wr_idx.toBitVec held
  whole : ∀ packet ∈ held, packet.points.take packet.points_num.toNat = packet.points

theorem StoragePacket.of_point_packet_whole {F : Type} (data : ReadablePacket F)
    (base_time : UInt64) :
    (StoragePacket.of_point_packet data base_time).points.take
        (StoragePacket.of_point_packet data base_time).points_num.toNat =
      (StoragePacket.of_point_packet data base_time).points := by
  simp [StoragePacket.of_point_packet, List.take_take]

/-- An initialised queue is empty and has the rounded size. -/
theorem init_queue_spec {F : Type} {queue : LidarDataQueue F} (queue_size : UInt32)
    (hstorage : queue.storage_packet ≠ .freed) :
    ∃ result m cells, init_queue queue queue_size = .ok result ∧
      result.size = real_queue_size queue_size ∧ result.HoldsPackets m cells [] := by
  obtain ⟨m, hm, hsize⟩ := real_queue_size_power queue_size
  have hdelete : queue.storage_packet.delete = .ok () := by
    cases hcase : queue.storage_packet with
    | null => rfl
    | live cells => rfl
    | freed => exact absurd hcase hstorage
  have hone : (1 : UInt32) ≤ real_queue_size queue_size := by
    rw [UInt32.le_iff_toNat_le, hsize]
    exact Nat.one_le_two_pow
  have hmask : (real_queue_size queue_size - 1).toNat = 2 ^ m - 1 := by
    rw [UInt32.toNat_sub_of_le _ _ hone, hsize]
    rfl
  have hinit : init_queue queue queue_size = .ok
      { storage_packet :=
          .live (List.replicate (real_queue_size queue_size).toNat (StoragePacket.default F))
        rd_idx := 0
        wr_idx := 0
        size := real_queue_size queue_size
        mask := real_queue_size queue_size - 1 } := by
    simp only [init_queue, hdelete, ok_bind]
  refine ⟨_, m, _, hinit, rfl, rfl, hsize, ?_, by simp⟩
  exact Holds.empty hm (by simpa using hsize) hmask _

section Held

variable {F : Type} {queue : LidarDataQueue F} {m : Nat} {cells held : List (StoragePacket F)}

theorem LidarDataQueue.HoldsPackets.used_size (h : queue.HoldsPackets m cells held) :
    (queue_used_size queue).toNat = held.length := by
  simpa [queue_used_size, ← UInt32.toNat_toBitVec] using h.ring.used

theorem LidarDataQueue.HoldsPackets.is_full_iff (h : queue.HoldsPackets m cells held) :
    queue_is_full queue = true ↔ held.length = 2 ^ m := by
  have hfull := h.ring.mask_lt_iff_full
  rw [← hfull]
  simp [queue_is_full, UInt32.lt_iff_toBitVec_lt]

theorem LidarDataQueue.HoldsPackets.is_empty_iff (h : queue.HoldsPackets m cells held) :
    queue_is_empty queue = true ↔ held = [] := by
  rw [← h.ring.eq_iff_nil]
  simp [queue_is_empty, UInt32.toBitVec_inj]

theorem queue_push_any_spec (h : queue.HoldsPackets m cells held) (hroom : held.length < 2 ^ m)
    (data : ReadablePacket F) (base_time : UInt64) :
    ∃ result newCells, queue_push_any queue data base_time = .ok result ∧
      result.wr_idx = queue.wr_idx + 1 ∧ result.size = queue.size ∧
      result.HoldsPackets m newCells (held ++ [StoragePacket.of_point_packet data base_time]) := by
  have hindex : (queue.wr_idx &&& queue.mask).toNat < cells.length := by
    have hmasked := masked_index h.ring.mask_val queue.wr_idx.toBitVec
    rw [h.ring.size, ← UInt32.toNat_toBitVec, UInt32.toBitVec_and, hmasked]
    exact Nat.mod_lt _ (Nat.two_pow_pos m)
  have hpush : queue_push_any queue data base_time = .ok
      { queue with
        storage_packet := .live (cells.set (queue.wr_idx &&& queue.mask).toNat
          (StoragePacket.of_point_packet data base_time))
        wr_idx := queue.wr_idx + 1 } := by
    simp only [queue_push_any, h.live, StoragePointer.cells, ok_bind, writeList_of_lt _ hindex]
  refine ⟨_, _, hpush, rfl, rfl, rfl, h.size, h.ring.push hroom _, ?_⟩
  intro packet hpacket
  rcases List.mem_append.mp hpacket with hold | hnew
  · exact h.whole packet hold
  · obtain rfl := List.mem_singleton.mp hnew
    exact StoragePacket.of_point_packet_whole data base_time

theorem queue_pop_nil (h : queue.HoldsPackets m cells []) : queue_pop queue = .ok (none, queue) := by
  have hempty := h.is_empty_iff.mpr rfl
  simp [queue_pop, queue_pre_pop, hempty]

theorem queue_pop_cons {packet : StoragePacket F} (h : queue.HoldsPackets m cells (packet :: held)) :
    queue_pop queue = .ok (some packet, queue_pop_update queue) ∧
      (queue_pop_update queue).HoldsPackets m cells held := by
  have hempty : queue_is_empty queue = false := by
    rw [← Bool.not_eq_true, h.is_empty_iff]
    simp
  obtain ⟨hslot, hring⟩ := h.ring.pop
  have hread : readList cells (queue.rd_idx &&& queue.mask).toNat = .ok packet := by
    rw [readList_eq_ok_iff, ← UInt32.toNat_toBitVec, UInt32.toBitVec_and]
    exact hslot
  have hwhole : { packet with points := packet.points.take packet.points_num.toNat } = packet := by
    rw [h.whole packet (by simp)]
  constructor
  · simp only [queue_pop, queue_pre_pop, hempty, Bool.false_eq_true, if_false, h.live,
      StoragePointer.cells, ok_bind, hread, hwhole]
  · exact ⟨h.live, h.size, hring,
      fun p hp => h.whole p (List.mem_cons_of_mem _ hp)⟩

end Held

/-- One lidar's queue with the semaphore that its producer signals, and what
the calls so far have put in and taken out. -/
structure QueueRun (F : Type) where
  queue : LidarDataQueue F
  pcd_semaphore : Semaphore
  accepted : List (StoragePacket F)
  popped : List (StoragePacket F)

inductive QueueCall (F : Type) where
  | push_lidar_data (lidar_data : ReadablePacket F) (base_time : UInt64)
  | queue_pop

/-- A push counts as accepted when it has advanced the write counter. -/
def QueueRun.step {F : Type} (publish_freq : ℚ) (s : QueueRun F) :
    QueueCall F → Checked (QueueRun F)
  | .push_lidar_data lidar_data base_time => do
    let (queue, pcd_semaphore) ←
      livox_ros.push_lidar_data publish_freq s.queue s.pcd_semaphore lidar_data base_time
    let accepted :=
      if queue.wr_idx ≠ s.queue.wr_idx then
        s.accepted ++ [StoragePacket.of_point_packet lidar_data base_time]
      else s.accepted
    .ok { queue, pcd_semaphore, accepted, popped := s.popped }
  | .queue_pop => do
    let (packet, queue) ← livox_ros.queue_pop s.queue
    .ok { s with queue, popped := s.popped ++ packet.toList }

def QueueRun.start {F : Type} (queue : LidarDataQueue F) : QueueRun F :=
  { queue, pcd_semaphore := { count := 0 }, accepted := [], popped := [] }

/-- The call as an operation on an abstract queue of storage packets. -/
def QueueCall.operation {F : Type} : QueueCall F → Operation (StoragePacket F)
  | .push_lidar_data lidar_data base_time => .push (StoragePacket.of_point_packet lidar_data base_time)
  | .queue_pop => .pop

/-- The concrete run and the abstract log agree: same history, and the ring
holds the abstract contents. -/
structure QueueRun.Simulates {F : Type} (s : QueueRun F) (m : Nat)
    (log : Log (StoragePacket F)) : Prop where
  capacity : log.queue.capacity = 2 ^ m
  holds : ∃ cells, s.queue.HoldsPackets m cells log.queue.contents
  accepted : s.accepted = log.accepted
  popped : s.popped = log.popped

theorem push_lidar_data_of_full {F : Type} {queue : LidarDataQueue F} {m : Nat}
    {cells held : List (StoragePacket F)} (h : queue.HoldsPackets m cells held)
    (hfull : held.length = 2 ^ m) (publish_freq : ℚ) (pcd_semaphore : Semaphore)
    (lidar_data : ReadablePacket F) (base_time : UInt64) :
    push_lidar_data publish_freq queue pcd_semaphore lidar_data base_time =
      .ok (queue, signal_if_needed pcd_semaphore) := by
  have hisFull := h.is_full_iff.mpr hfull
  simp [push_lidar_data, ensure_storage, h.live, hisFull]

theorem push_lidar_data_of_room {F : Type} {queue : LidarDataQueue F} {m : Nat}
    {cells held : List (StoragePacket F)} (h : queue.HoldsPackets m cells held)
    (hroom : held.length < 2 ^ m) (publish_freq : ℚ) (pcd_semaphore : Semaphore)
    (lidar_data : ReadablePacket F) (base_time : UInt64) :
    ∃ result newCells,
      push_lidar_data publish_freq queue pcd_semaphore lidar_data base_time =
        .ok (result, signal_if_needed pcd_semaphore) ∧
      result.wr_idx = queue.wr_idx + 1 ∧
      result.HoldsPackets m newCells (held ++ [StoragePacket.of_point_packet lidar_data base_time]) := by
  have hnotFull : queue_is_full queue = false := by
    rw [← Bool.not_eq_true, h.is_full_iff]
    omega
  obtain ⟨result, newCells, hpush, hwr, _, hholds⟩ := queue_push_any_spec h hroom lidar_data base_time
  have hnotEmpty : queue_is_empty result = false := by
    rw [← Bool.not_eq_true, hholds.is_empty_iff]
    simp
  refine ⟨result, newCells, ?_, hwr, hholds⟩
  simp [push_lidar_data, ensure_storage, h.live, hnotFull, hpush, hnotEmpty]

/-- Every call on a queue that simulates the abstract one completes, and keeps
simulating it. -/
theorem QueueRun.step_simulates {F : Type} (publish_freq : ℚ) {s : QueueRun F} {m : Nat}
    {log : Log (StoragePacket F)} (h : s.Simulates m log) (call : QueueCall F) :
    ∃ t, s.step publish_freq call = .ok t ∧ t.Simulates m (log.step call.operation) := by
  obtain ⟨hcapacity, ⟨cells, hholds⟩, haccepted, hpopped⟩ := h
  cases call with
  | push_lidar_data lidar_data base_time =>
    by_cases hroom : log.queue.contents.length < 2 ^ m
    · obtain ⟨result, newCells, hpush, hwr, hnew⟩ :=
        push_lidar_data_of_room hholds hroom publish_freq s.pcd_semaphore lidar_data base_time
      have hadvanced : result.wr_idx ≠ s.queue.wr_idx := by simp [hwr]
      obtain ⟨hcontents, hlogAccepted, hlogPopped⟩ := @Log.push_of_lt _ log
        (StoragePacket.of_point_packet lidar_data base_time) (by rwa [hcapacity])
      refine ⟨{ queue := result, pcd_semaphore := signal_if_needed s.pcd_semaphore
                accepted := s.accepted ++ [StoragePacket.of_point_packet lidar_data base_time]
                popped := s.popped }, ?_, ?_⟩
      · simp [QueueRun.step, hpush, hadvanced]
      · refine ⟨by rw [Log.step_capacity, hcapacity], ⟨newCells, ?_⟩, ?_, ?_⟩
        · rwa [QueueCall.operation, Log.step, hcontents]
        · rw [QueueCall.operation, Log.step, hlogAccepted, haccepted]
        · rw [QueueCall.operation, Log.step, hlogPopped, hpopped]
    · have hfits := log.queue.fits
      have hfull : log.queue.contents.length = 2 ^ m := by omega
      have hpush :=
        push_lidar_data_of_full hholds hfull publish_freq s.pcd_semaphore lidar_data base_time
      refine ⟨{ s with pcd_semaphore := signal_if_needed s.pcd_semaphore }, ?_, ?_⟩
      · simp [QueueRun.step, hpush]
      · rw [QueueCall.operation, Log.step, Log.push_of_full (hfull.trans hcapacity.symm)]
        exact ⟨hcapacity, ⟨cells, hholds⟩, haccepted, hpopped⟩
  | queue_pop =>
    cases hcontents : log.queue.contents with
    | nil =>
      rw [hcontents] at hholds
      refine ⟨s, ?_, ?_⟩
      · simp [QueueRun.step, queue_pop_nil hholds]
      · refine ⟨hcapacity, ⟨cells, ?_⟩, haccepted, ?_⟩
        · simpa [QueueCall.operation, Log.step, Log.pop, hcontents] using hholds
        · simpa [QueueCall.operation, Log.step, Log.pop, hcontents] using hpopped
    | cons packet rest =>
      rw [hcontents] at hholds
      obtain ⟨hpop, hrest⟩ := queue_pop_cons hholds
      refine ⟨{ s with queue := queue_pop_update s.queue, popped := s.popped ++ [packet] }, ?_, ?_⟩
      · simp [QueueRun.step, hpop]
      · refine ⟨hcapacity, ⟨cells, ?_⟩, haccepted, ?_⟩
        · simpa [QueueCall.operation, Log.step, Log.pop, hcontents] using hrest
        · simp [QueueCall.operation, Log.step, Log.pop, hcontents, hpopped]

theorem QueueRun.run_simulates {F : Type} (publish_freq : ℚ) {s : QueueRun F} {m : Nat}
    {log : Log (StoragePacket F)} (h : s.Simulates m log) (calls : List (QueueCall F)) :
    ∃ t, exec (QueueRun.step publish_freq) s calls = .ok t ∧
      t.Simulates m ((calls.map QueueCall.operation).foldl Log.step log) := by
  induction calls generalizing s log with
  | nil => exact ⟨s, rfl, h⟩
  | cons call calls ih =>
    obtain ⟨u, hone, hu⟩ := QueueRun.step_simulates publish_freq h call
    obtain ⟨t, hrest, ht⟩ := ih hu
    exact ⟨t, exec_cons_eq_ok_iff.mpr ⟨u, hone, hrest⟩, ht⟩

/-- What a bounded FIFO promises of a state: the accepted packets are the
popped ones followed by the held ones, the used size counts the held ones and
stays within the capacity, and the next push is refused only by a full queue. -/
def QueueRun.IsBoundedFifo {F : Type} (publish_freq : ℚ) (capacity : Nat) (s : QueueRun F) : Prop :=
  ∃ m cells held, s.queue.HoldsPackets m cells held ∧ 2 ^ m = capacity ∧
    s.accepted = s.popped ++ held ∧
    (queue_used_size s.queue).toNat = held.length ∧ held.length ≤ capacity ∧
    ∀ lidar_data base_time t, s.step publish_freq (.push_lidar_data lidar_data base_time) = .ok t →
      (t.accepted = s.accepted ↔ held.length = capacity)

theorem QueueRun.Simulates.isBoundedFifo {F : Type} (publish_freq : ℚ) {s : QueueRun F} {m : Nat}
    {log : Log (StoragePacket F)} (h : s.Simulates m log) (hlog : log.Conserves) :
    s.IsBoundedFifo publish_freq (2 ^ m) := by
  obtain ⟨hcapacity, ⟨cells, hholds⟩, haccepted, hpopped⟩ := h
  refine ⟨m, cells, log.queue.contents, hholds, rfl, ?_, hholds.used_size, hholds.ring.fits, ?_⟩
  · rw [haccepted, hpopped]
    exact hlog
  · intro lidar_data base_time t hstep
    have h : s.Simulates m log := ⟨hcapacity, ⟨cells, hholds⟩, haccepted, hpopped⟩
    obtain ⟨u, hu, hsim⟩ :=
      QueueRun.step_simulates publish_freq h (.push_lidar_data lidar_data base_time)
    obtain rfl : u = t := by simpa [hu] using hstep
    rw [hsim.accepted, haccepted, QueueCall.operation, Log.step, ← hcapacity]
    constructor
    · intro hsame
      by_contra hnot
      have hfits := log.queue.fits
      have happend := (@Log.push_of_lt _ log
        (StoragePacket.of_point_packet lidar_data base_time) (by omega)).2.1
      simp [hsame] at happend
    · intro hfull
      rw [Log.push_of_full hfull]

/-- For every requested size up to `2 ^ 31` the initialised queue has the
smallest sufficient power of two as its capacity, every sequence of pushes and
pops completes, each state of it is that of a bounded FIFO, and the values
accepted and popped are those of the abstract queue. Nothing bounds the number
of calls, so the counters wrap as often as the sequence makes them. -/
theorem lidar_data_queue_refines_bounded_fifo {F : Type} (publish_freq : ℚ) (queue_size : UInt32)
    (hpos : 1 ≤ queue_size.toNat) (hmax : queue_size.toNat ≤ 2 ^ 31) (calls : List (QueueCall F)) :
    ∃ queue s, init_queue (LidarDataQueue.zero F) queue_size = .ok queue ∧
      IsLeast { capacity | ∃ m, capacity = 2 ^ m ∧ queue_size.toNat ≤ capacity } queue.size.toNat ∧
      exec (QueueRun.step publish_freq) (QueueRun.start queue) calls = .ok s ∧
      StatesSatisfy (QueueRun.step publish_freq)
        (QueueRun.IsBoundedFifo publish_freq queue.size.toNat) (QueueRun.start queue) calls ∧
      s.accepted = ((calls.map QueueCall.operation).foldl Log.step
        (Log.empty _ queue.size.toNat)).accepted ∧
      s.popped = ((calls.map QueueCall.operation).foldl Log.step
        (Log.empty _ queue.size.toNat)).popped := by
  obtain ⟨queue, m, cells, hinit, hsize, hholds⟩ :=
    @init_queue_spec F (LidarDataQueue.zero F) queue_size (by simp [LidarDataQueue.zero])
  have hstart : (QueueRun.start queue).Simulates m (Log.empty _ queue.size.toNat) :=
    ⟨hholds.size, ⟨cells, hholds⟩, rfl, rfl⟩
  obtain ⟨s, hrun, hsim⟩ := QueueRun.run_simulates publish_freq hstart calls
  refine ⟨queue, s, hinit, ?_, hrun, ?_, hsim.accepted, hsim.popped⟩
  · rw [hsize]
    exact real_queue_size_isLeast hpos hmax
  · rw [statesSatisfy_iff_reached]
    intro earlier t _ ht
    obtain ⟨u, hu, husim⟩ := QueueRun.run_simulates publish_freq hstart earlier
    obtain rfl : u = t := by simpa [hu] using ht
    rw [hholds.size]
    exact husim.isBoundedFifo publish_freq (Log.run_conserves (Log.empty_conserves _ _) _)

theorem lidar_data_queue_refines_bounded_fifo_ten :
    let packet : PointPacket (List (PointXyzlt ℚ)) :=
      { handle := 7, lidar_type := 8, points_num := 1
        points := [{ x := 1, y := 2, z := 3, intensity := 4, tag := 0, line := 0, offset_time := 5 }] }
    let calls : List (QueueCall ℚ) :=
      [.queue_pop, .push_lidar_data ⟨packet, by decide⟩ 5, .push_lidar_data ⟨packet, by decide⟩ 6,
        .queue_pop]
    ∃ queue s, init_queue (LidarDataQueue.zero ℚ) 10 = .ok queue ∧
      exec (QueueRun.step 10) (QueueRun.start queue) calls = .ok s ∧
      s.IsBoundedFifo 10 queue.size.toNat := by
  intro packet calls
  obtain ⟨queue, s, hinit, _, hrun, hstates, _⟩ :=
    lidar_data_queue_refines_bounded_fifo 10 10 (by decide) (by decide) calls
  exact ⟨queue, s, hinit, hrun, hstates.last hrun⟩

end livox_ros
