import Livox.Comm.Ldq.Refinement

open checked execution

namespace livox_ros

/-- The queue contains the packets `held`, oldest first: before its first packet
it has no storage and equal counters, afterwards it is a ring. -/
inductive LidarDataQueue.Contains {F : Type} (queue : LidarDataQueue F) :
    List (StoragePacket F) → Prop
  | unallocated (storage : queue.storage_packet = .null) (counters : queue.rd_idx = queue.wr_idx) :
      queue.Contains []
  | ring {m : Nat} {cells held : List (StoragePacket F)} (h : queue.HoldsPackets m cells held) :
      queue.Contains held

section Queue

variable {F : Type} {queue : LidarDataQueue F} {held : List (StoragePacket F)}

theorem LidarDataQueue.Contains.storage_ne_freed (h : queue.Contains held) :
    queue.storage_packet ≠ .freed := by
  cases h with
  | unallocated storage counters => simp [storage]
  | ring h => simp [h.live]

theorem LidarDataQueue.Contains.zero (F : Type) : (LidarDataQueue.zero F).Contains [] :=
  .unallocated rfl rfl

theorem init_queue_contains (h : queue.Contains held) (queue_size : UInt32) :
    ∃ result m cells, init_queue queue queue_size = .ok result ∧
      result.size = real_queue_size queue_size ∧ result.HoldsPackets m cells [] :=
  init_queue_spec queue_size h.storage_ne_freed

theorem queue_pop_contains_nil (h : queue.Contains []) : queue_pop queue = .ok (none, queue) := by
  cases h with
  | unallocated storage counters => simp [queue_pop, queue_pre_pop, queue_is_empty, counters]
  | ring h => exact queue_pop_nil h

theorem queue_pop_contains_cons {packet : StoragePacket F} (h : queue.Contains (packet :: held)) :
    queue_pop queue = .ok (some packet, queue_pop_update queue) ∧
      (queue_pop_update queue).Contains held := by
  cases h with
  | ring h =>
    obtain ⟨hpop, hrest⟩ := queue_pop_cons h
    exact ⟨hpop, .ring hrest⟩

theorem LidarDataQueue.Contains.is_empty_iff (h : queue.Contains held) :
    queue_is_empty queue = true ↔ held = [] := by
  cases h with
  | unallocated storage counters => simp [queue_is_empty, counters]
  | ring h => exact h.is_empty_iff

theorem ensure_storage_contains (publish_freq : ℚ) (h : queue.Contains held) :
    ∃ result m cells, ensure_storage publish_freq queue = .ok result ∧
      result.HoldsPackets m cells held ∧
      (queue.storage_packet = .null →
        result.size = real_queue_size (calculate_packet_queue_size publish_freq)) := by
  cases h with
  | unallocated storage counters =>
    obtain ⟨result, m, cells, hinit, hsize, hholds⟩ :=
      @init_queue_spec F queue (calculate_packet_queue_size publish_freq) (by simp [storage])
    exact ⟨result, m, cells, by simpa [ensure_storage, storage] using hinit, hholds, fun _ => hsize⟩
  | ring h =>
    exact ⟨queue, _, _, by simp [ensure_storage, h.live], h, fun hnull => by simp [h.live] at hnull⟩

theorem push_lidar_data_ensured {publish_freq : ℚ} {result : LidarDataQueue F}
    {cells : List (StoragePacket F)} (hensured : ensure_storage publish_freq queue = .ok result)
    (hlive : result.storage_packet = .live cells) (pcd_semaphore : Semaphore)
    (lidar_data : ReadablePacket F) (base_time : UInt64) :
    push_lidar_data publish_freq queue pcd_semaphore lidar_data base_time =
      push_lidar_data publish_freq result pcd_semaphore lidar_data base_time := by
  have hsame : ensure_storage publish_freq result = .ok result := by
    simp [ensure_storage, hlive]
  simp only [push_lidar_data, hensured, hsame]

theorem push_lidar_data_contains (h : queue.Contains held) (publish_freq : ℚ)
    (pcd_semaphore : Semaphore) (lidar_data : ReadablePacket F) (base_time : UInt64) :
    ∃ result newHeld,
      push_lidar_data publish_freq queue pcd_semaphore lidar_data base_time =
        .ok (result, signal_if_needed pcd_semaphore) ∧ result.Contains newHeld := by
  obtain ⟨ring, m, cells, hensured, hholds, -⟩ := ensure_storage_contains publish_freq h
  rw [push_lidar_data_ensured hensured hholds.live]
  by_cases hroom : held.length < 2 ^ m
  · obtain ⟨result, newCells, hpush, -, hnew⟩ :=
      push_lidar_data_of_room hholds hroom publish_freq pcd_semaphore lidar_data base_time
    exact ⟨result, _, hpush, .ring hnew⟩
  · have hfull : held.length = 2 ^ m := le_antisymm hholds.ring.fits (not_lt.mp hroom)
    exact ⟨ring, held, push_lidar_data_of_full hholds hfull publish_freq pcd_semaphore lidar_data
      base_time, .ring hholds⟩

/-- A push into an empty queue stores its packet in the first cell of the ring, which it has
allocated when there was none. -/
theorem push_lidar_data_contains_nil (h : queue.Contains []) (publish_freq : ℚ)
    (pcd_semaphore : Semaphore) (lidar_data : ReadablePacket F) (base_time : UInt64) :
    ∃ result m cells,
      push_lidar_data publish_freq queue pcd_semaphore lidar_data base_time =
        .ok (result, signal_if_needed pcd_semaphore) ∧
      result.HoldsPackets m cells [StoragePacket.of_point_packet lidar_data base_time] ∧
      (queue.storage_packet = .null →
        result.size = real_queue_size (calculate_packet_queue_size publish_freq)) := by
  obtain ⟨ring, m, cells, hensured, hholds, hsize⟩ := ensure_storage_contains publish_freq h
  rw [push_lidar_data_ensured hensured hholds.live]
  obtain ⟨result, newCells, hpush, -, hnew⟩ := push_lidar_data_of_room hholds
    (Nat.two_pow_pos m) publish_freq pcd_semaphore lidar_data base_time
  refine ⟨result, m, newCells, hpush, hnew, fun hnull => ?_⟩
  have hpower : result.size.toNat = ring.size.toNat := hnew.size.trans hholds.size.symm
  rw [← hsize hnull]
  exact UInt32.toNat_inj.mp hpower

end Queue

section ResetLidar

variable {F : Type} {lidar : LidarDevice F}

/-- A reset of a lidar without storage leaves an empty queue without storage. -/
theorem reset_lidar_of_null (h : lidar.data.storage_packet = .null) :
    reset_lidar lidar =
      .ok { lidar with data := LidarDataQueue.zero F, connect_state := .kConnectStateOff } := by
  simp [reset_lidar, deinit_queue, StoragePointer.delete, LidarDataQueue.zero, h]

theorem reset_lidar_of_live {cells : List (StoragePacket F)}
    (h : lidar.data.storage_packet = .live cells) :
    ∃ result, reset_lidar lidar = .ok result ∧ result.data.storage_packet = .freed := by
  simp [reset_lidar, deinit_queue, StoragePointer.delete, h]

theorem reset_lidar_at_eq_ok {lidars : Vector (LidarDevice F) kMaxSourceLidar}
    {i : Fin kMaxSourceLidar} (h : (lidars.get i).data.storage_packet ≠ .freed) :
    ∃ result, reset_lidar_at lidars i = .ok result ∧
      reset_lidar (lidars.get i) = .ok (result.get i) ∧
      ∀ j, j ≠ i → result.get j = lidars.get j := by
  obtain ⟨device, hdevice⟩ : ∃ device, reset_lidar (lidars.get i) = .ok device := by
    cases hcase : (lidars.get i).data.storage_packet with
    | null => exact ⟨_, reset_lidar_of_null hcase⟩
    | live cells =>
      obtain ⟨device, hdevice, -⟩ := reset_lidar_of_live hcase
      exact ⟨device, hdevice⟩
    | freed => exact absurd hcase h
  refine ⟨lidars.set i device i.isLt, by simp [reset_lidar_at, hdevice], ?_, ?_⟩
  · have hself : (lidars.set i device i.isLt).get i = device := by simp [Vector.get_eq_getElem]
    rw [hself, hdevice]
  · intro j hj
    have hne : (i : Nat) ≠ j := fun hij => hj (Fin.ext hij.symm)
    simp [Vector.get_eq_getElem, hne]

/-- The loop of `ResetLds` resets each device that it comes to, and no other. -/
theorem exec_reset_lidar_at {is : List (Fin kMaxSourceLidar)} (hnodup : is.Nodup)
    {lidars : Vector (LidarDevice F) kMaxSourceLidar}
    (h : ∀ i ∈ is, (lidars.get i).data.storage_packet ≠ .freed) :
    ∃ result, exec reset_lidar_at lidars is = .ok result ∧
      (∀ i ∈ is, reset_lidar (lidars.get i) = .ok (result.get i)) ∧
      ∀ i, i ∉ is → result.get i = lidars.get i := by
  induction is generalizing lidars with
  | nil => exact ⟨lidars, rfl, by simp, fun _ _ => rfl⟩
  | cons i is ih =>
    obtain ⟨hnot, hrest⟩ := List.nodup_cons.mp hnodup
    obtain ⟨next, hone, hself, hother⟩ := reset_lidar_at_eq_ok (h i List.mem_cons_self)
    have hne : ∀ j ∈ is, j ≠ i := fun j hj hji => hnot (hji ▸ hj)
    obtain ⟨result, hrun, hreset, hsame⟩ := @ih hrest next
      (fun j hj => by
        rw [hother j (hne j hj)]
        exact h j (List.mem_cons_of_mem i hj))
    refine ⟨result, exec_cons_eq_ok_iff.mpr ⟨next, hone, hrun⟩, ?_, ?_⟩
    · intro j hj
      rcases List.mem_cons.mp hj with rfl | hj
      · rw [hsame j hnot, hself]
      · rw [← hother j (hne j hj)]
        exact hreset j hj
    · intro j hj
      rw [List.mem_cons, not_or] at hj
      rw [hsame j hj.2, hother j hj.1]

theorem reset_lds_eq_ok {lidars : Vector (LidarDevice F) kMaxSourceLidar}
    (h : ∀ i, (lidars.get i).data.storage_packet ≠ .freed) :
    ∃ result, reset_lds lidars = .ok result ∧
      ∀ i, reset_lidar (lidars.get i) = .ok (result.get i) := by
  obtain ⟨result, hrun, hreset, -⟩ :=
    exec_reset_lidar_at (List.nodup_finRange kMaxSourceLidar) (fun i _ => h i)
  exact ⟨result, hrun, fun i => hreset i (List.mem_finRange i)⟩

end ResetLidar

/-- The device table with the semaphore that its producer signals; `reset` marks
the lidars whose queue has had no packet pushed since the last reset. -/
structure LdsRun (F : Type) where
  lidars : Vector (LidarDevice F) kMaxSourceLidar
  pcd_semaphore : Semaphore
  reset : Fin kMaxSourceLidar → Bool

inductive LdsCall (F : Type) where
  | init_queue (i : Fin kMaxSourceLidar) (queue_size : UInt32)
  | reset_lidar (i : Fin kMaxSourceLidar)
  | reset_lds
  | push_lidar_data (i : Fin kMaxSourceLidar) (lidar_data : ReadablePacket F) (base_time : UInt64)
  | queue_pop (i : Fin kMaxSourceLidar)

namespace LdsRun

section Step

variable {F : Type}

/-- The table in zeroed memory, before the constructor resets it. -/
def start (F : Type) [Zero F] : LdsRun F where
  lidars := Vector.replicate kMaxSourceLidar (LidarDevice.zero F)
  pcd_semaphore := { count := 0 }
  reset := fun _ => false

def queue (s : LdsRun F) (i : Fin kMaxSourceLidar) : LidarDataQueue F := (s.lidars.get i).data

def with_queue (s : LdsRun F) (i : Fin kMaxSourceLidar) (data : LidarDataQueue F) : LdsRun F :=
  { s with lidars := s.lidars.set i { s.lidars.get i with data } i.isLt }

def step (publish_freq : ℚ) (s : LdsRun F) : LdsCall F → Checked (LdsRun F)
  | .init_queue i queue_size => do
    let data ← livox_ros.init_queue (s.queue i) queue_size
    .ok (s.with_queue i data)
  | .reset_lidar i => do
    let lidars ← reset_lidar_at s.lidars i
    .ok { s with lidars, reset := Function.update s.reset i true }
  | .reset_lds => do
    let lidars ← livox_ros.reset_lds s.lidars
    .ok { s with lidars, reset := fun _ => true }
  | .push_lidar_data i lidar_data base_time => do
    let (data, pcd_semaphore) ←
      livox_ros.push_lidar_data publish_freq (s.queue i) s.pcd_semaphore lidar_data base_time
    .ok { s.with_queue i data with pcd_semaphore, reset := Function.update s.reset i false }
  | .queue_pop i => do
    let (_, data) ← livox_ros.queue_pop (s.queue i)
    .ok (s.with_queue i data)

@[simp] theorem queue_with_queue (s : LdsRun F) (i : Fin kMaxSourceLidar)
    (data : LidarDataQueue F) : (s.with_queue i data).queue i = data := by
  simp [with_queue, queue, Vector.get_eq_getElem]

theorem queue_with_queue_ne (s : LdsRun F) {i j : Fin kMaxSourceLidar} (hne : j ≠ i)
    (data : LidarDataQueue F) : (s.with_queue i data).queue j = s.queue j := by
  have hval : (i : Nat) ≠ j := fun hij => hne (Fin.ext hij.symm)
  simp [with_queue, queue, Vector.get_eq_getElem, hval]

end Step

section Invariant

variable {F : Type} {publish_freq : ℚ} {s : LdsRun F}

/-- Every queue has its storage, or none yet, and is empty from a reset on until a packet comes. -/
structure Usable (s : LdsRun F) : Prop where
  contains : ∀ i, ∃ held, (s.queue i).Contains held
  emptied : ∀ i, s.reset i = true → (s.queue i).Contains []

theorem start_usable (F : Type) [Zero F] : (start F).Usable where
  contains := fun i => ⟨[], by simpa [queue, start, Vector.get_eq_getElem, LidarDevice.zero] using
    LidarDataQueue.Contains.zero F⟩
  emptied := fun i h => by simp [start] at h

theorem Usable.with_queue (h : s.Usable) {i : Fin kMaxSourceLidar} {data : LidarDataQueue F}
    {held : List (StoragePacket F)} (hdata : data.Contains held)
    (hemptied : s.reset i = true → data.Contains []) : (s.with_queue i data).Usable where
  contains := by
    intro j
    by_cases hji : j = i
    · subst hji
      exact ⟨held, by rwa [queue_with_queue]⟩
    · rw [queue_with_queue_ne s hji]
      exact h.contains j
  emptied := by
    intro j hreset
    by_cases hji : j = i
    · subst hji
      rw [queue_with_queue]
      exact hemptied hreset
    · rw [queue_with_queue_ne s hji]
      exact h.emptied j hreset

theorem Usable.init_queue (h : s.Usable) (i : Fin kMaxSourceLidar) (queue_size : UInt32) :
    ∃ t, s.step publish_freq (.init_queue i queue_size) = .ok t ∧ t.Usable := by
  obtain ⟨held, hheld⟩ := h.contains i
  obtain ⟨data, m, cells, hinit, -, hholds⟩ := init_queue_contains hheld queue_size
  exact ⟨s.with_queue i data, by simp [step, hinit], h.with_queue (.ring hholds) fun _ => .ring hholds⟩

theorem Usable.queue_pop (h : s.Usable) (i : Fin kMaxSourceLidar) :
    ∃ t, s.step publish_freq (.queue_pop i) = .ok t ∧ t.Usable := by
  obtain ⟨held, hheld⟩ := h.contains i
  cases held with
  | nil =>
    have hpop := queue_pop_contains_nil hheld
    exact ⟨s.with_queue i (s.queue i), by simp [step, hpop], h.with_queue hheld fun _ => hheld⟩
  | cons packet held =>
    obtain ⟨hpop, hrest⟩ := queue_pop_contains_cons hheld
    refine ⟨s.with_queue i (queue_pop_update (s.queue i)), by simp [step, hpop],
      h.with_queue hrest fun hreset => ?_⟩
    have hempty := hheld.is_empty_iff.mp ((h.emptied i hreset).is_empty_iff.mpr rfl)
    simp at hempty

theorem Usable.push_lidar_data (h : s.Usable) (i : Fin kMaxSourceLidar)
    (lidar_data : ReadablePacket F) (base_time : UInt64) :
    ∃ t, s.step publish_freq (.push_lidar_data i lidar_data base_time) = .ok t ∧ t.Usable := by
  obtain ⟨held, hheld⟩ := h.contains i
  obtain ⟨data, newHeld, hpush, hnew⟩ :=
    push_lidar_data_contains hheld publish_freq s.pcd_semaphore lidar_data base_time
  have hstep : s.step publish_freq (.push_lidar_data i lidar_data base_time) = .ok
      { s.with_queue i data with
        pcd_semaphore := signal_if_needed s.pcd_semaphore
        reset := Function.update s.reset i false } := by
    simp [step, hpush]
  refine ⟨_, hstep, ?_, ?_⟩
  · intro j
    by_cases hji : j = i
    · subst hji
      exact ⟨newHeld, (queue_with_queue s j data).symm ▸ hnew⟩
    · exact (queue_with_queue_ne s hji data).symm ▸ h.contains j
  · intro j hreset
    change Function.update s.reset i false j = true at hreset
    by_cases hji : j = i
    · simp [hji] at hreset
    · rw [Function.update_of_ne hji] at hreset
      exact (queue_with_queue_ne s hji data).symm ▸ h.emptied j hreset

/-- A reset of a lidar that has no storage leaves its queue empty. -/
theorem contains_nil_of_reset {lidar result : LidarDevice F}
    (hnull : lidar.data.storage_packet = .null) (hreset : reset_lidar lidar = .ok result) :
    result.data.Contains [] := by
  rw [reset_lidar_of_null hnull] at hreset
  cases hreset
  exact LidarDataQueue.Contains.zero F

theorem Usable.reset_lidar (h : s.Usable) {i : Fin kMaxSourceLidar}
    (hnull : (s.queue i).storage_packet = .null) :
    ∃ t, s.step publish_freq (.reset_lidar i) = .ok t ∧ t.Usable := by
  have hnot : (s.lidars.get i).data.storage_packet ≠ .freed := by
    rw [show (s.lidars.get i).data = s.queue i from rfl, hnull]
    simp
  obtain ⟨lidars, hrun, hreset, hother⟩ := reset_lidar_at_eq_ok hnot
  have hempty : (lidars.get i).data.Contains [] := contains_nil_of_reset hnull hreset
  have hqueue : ∀ j, j ≠ i → (lidars.get j).data = s.queue j := fun j hj =>
    congrArg LidarDevice.data (hother j hj)
  refine ⟨{ s with lidars, reset := Function.update s.reset i true }, by simp [step, hrun], ?_, ?_⟩
  · intro j
    by_cases hji : j = i
    · exact ⟨[], hji ▸ hempty⟩
    · obtain ⟨held, hheld⟩ := h.contains j
      refine ⟨held, ?_⟩
      rwa [← hqueue j hji] at hheld
  · intro j hmark
    change Function.update s.reset i true j = true at hmark
    by_cases hji : j = i
    · exact hji ▸ hempty
    · rw [Function.update_of_ne hji] at hmark
      have hheld := h.emptied j hmark
      rwa [← hqueue j hji] at hheld

theorem usable_of_reset_lds (hnull : ∀ i, (s.queue i).storage_packet = .null) :
    ∃ t, s.step publish_freq .reset_lds = .ok t ∧ t.Usable := by
  obtain ⟨lidars, hrun, hreset⟩ := @reset_lds_eq_ok F s.lidars (fun i => by
    rw [show (s.lidars.get i).data = s.queue i from rfl, hnull i]
    simp)
  have hempty : ∀ i, (lidars.get i).data.Contains [] := fun i =>
    contains_nil_of_reset (hnull i) (hreset i)
  exact ⟨{ s with lidars, reset := fun _ => true }, by simp [step, hrun],
    fun i => ⟨[], hempty i⟩, fun i _ => hempty i⟩

end Invariant

end LdsRun

/-- A reset comes before the lidars that it resets have any storage. -/
def LdsCall.BeforeStorage {F : Type} (s : LdsRun F) : LdsCall F → Prop
  | .reset_lidar i => (s.queue i).storage_packet = .null
  | .reset_lds => ∀ i, (s.queue i).storage_packet = .null
  | .init_queue .. | .push_lidar_data .. | .queue_pop _ => True

namespace LdsRun

variable {F : Type} {publish_freq : ℚ} {s : LdsRun F}

theorem Usable.step (h : s.Usable) {call : LdsCall F} (hcall : call.BeforeStorage s) :
    ∃ t, s.step publish_freq call = .ok t ∧ t.Usable := by
  cases call with
  | init_queue i queue_size => exact h.init_queue i queue_size
  | reset_lidar i => exact h.reset_lidar hcall
  | reset_lds => exact usable_of_reset_lds hcall
  | push_lidar_data i lidar_data base_time => exact h.push_lidar_data i lidar_data base_time
  | queue_pop i => exact h.queue_pop i

theorem Usable.storage_ne_freed (h : s.Usable) (i : Fin kMaxSourceLidar) :
    (s.queue i).storage_packet ≠ .freed := by
  obtain ⟨held, hheld⟩ := h.contains i
  exact hheld.storage_ne_freed

/-- A reset of a lidar that has storage gives it back, and keeps the pointer to it. -/
theorem freed_of_reset {lidar result : LidarDevice F} (hfreed : lidar.data.storage_packet ≠ .freed)
    (hnull : lidar.data.storage_packet ≠ .null) (hreset : reset_lidar lidar = .ok result) :
    result.data.storage_packet = .freed := by
  cases hcase : lidar.data.storage_packet with
  | null => exact absurd hcase hnull
  | live cells =>
    obtain ⟨device, hdevice, hgone⟩ := reset_lidar_of_live hcase
    rw [hdevice] at hreset
    cases hreset
    exact hgone
  | freed => exact absurd hcase hfreed

theorem Usable.step_frees (h : s.Usable) {call : LdsCall F} (hcall : ¬ call.BeforeStorage s) :
    ∃ t, s.step publish_freq call = .ok t ∧ ∃ i, (t.queue i).storage_packet = .freed := by
  cases call with
  | reset_lidar i =>
    obtain ⟨lidars, hrun, hreset, -⟩ := reset_lidar_at_eq_ok (h.storage_ne_freed i)
    exact ⟨{ s with lidars, reset := Function.update s.reset i true }, by simp [LdsRun.step, hrun],
      i, freed_of_reset (h.storage_ne_freed i) hcall hreset⟩
  | reset_lds =>
    obtain ⟨lidars, hrun, hreset⟩ := reset_lds_eq_ok h.storage_ne_freed
    obtain ⟨i, hi⟩ := not_forall.mp hcall
    exact ⟨{ s with lidars, reset := fun _ => true }, by simp [LdsRun.step, hrun],
      i, freed_of_reset (h.storage_ne_freed i) hi (hreset i)⟩
  | init_queue i queue_size => exact absurd trivial hcall
  | push_lidar_data i lidar_data base_time => exact absurd trivial hcall
  | queue_pop i => exact absurd trivial hcall

/-- Where a step begins: every storage pointer is null or live, no next step touches storage that
has been given back, and the first packet after a reset finds an empty queue, in storage of the
size of a new queue when the reset has left none. -/
structure Managed (publish_freq : ℚ) (s : LdsRun F) : Prop where
  storage : ∀ i, (s.queue i).storage_packet = .null ∨ ∃ cells, (s.queue i).storage_packet = .live cells
  unfreed : ∀ call, s.step publish_freq call ≠ .error .freedStorage
  reinitialises : ∀ i lidar_data base_time, s.reset i = true →
    ∃ t m cells, s.step publish_freq (.push_lidar_data i lidar_data base_time) = .ok t ∧
      (t.queue i).HoldsPackets m cells [StoragePacket.of_point_packet lidar_data base_time] ∧
      ((s.queue i).storage_packet = .null →
        (t.queue i).size = real_queue_size (calculate_packet_queue_size publish_freq))

theorem Usable.managed (h : s.Usable) : s.Managed publish_freq where
  storage := by
    intro i
    cases hcase : (s.queue i).storage_packet with
    | null => exact .inl rfl
    | live cells => exact .inr ⟨cells, rfl⟩
    | freed => exact absurd hcase (h.storage_ne_freed i)
  unfreed := by
    intro call
    by_cases hcall : call.BeforeStorage s
    · obtain ⟨t, hstep, -⟩ := @Usable.step _ publish_freq _ h _ hcall
      simp [hstep]
    · obtain ⟨t, hstep, -⟩ := @Usable.step_frees _ publish_freq _ h _ hcall
      simp [hstep]
  reinitialises := by
    intro i lidar_data base_time hreset
    obtain ⟨data, m, cells, hpush, hholds, hsize⟩ := push_lidar_data_contains_nil
      (h.emptied i hreset) publish_freq s.pcd_semaphore lidar_data base_time
    refine ⟨_, m, cells, by simp [LdsRun.step, hpush]; rfl, ?_, ?_⟩
    · exact (queue_with_queue s i data).symm ▸ hholds
    · exact (queue_with_queue s i data).symm ▸ hsize

/-- For every sequence of calls on the lidars of the table, in any order, the storage of every
queue is managed in every state exactly when each reset comes before the lidars that it resets
have any storage. -/
theorem storage_managed_iff (F : Type) [Zero F] (publish_freq : ℚ) (calls : List (LdsCall F)) :
    StatesSatisfy (LdsRun.step publish_freq) (Managed publish_freq) (start F) calls ↔
      StepsSatisfy (LdsRun.step publish_freq) (fun s call => call.BeforeStorage s) (start F) calls := by
  refine statesSatisfy_iff_stepsSatisfy (fun s h => h.managed) ?_ ?_ (start_usable F) calls
  · intro s call t h hcall hstep
    obtain ⟨u, hu, husable⟩ := h.step hcall
    rw [hu] at hstep
    cases hstep
    exact husable
  · intro s call h hcall
    obtain ⟨t, hstep, i, hfreed⟩ := h.step_frees hcall
    refine ⟨t, hstep, fun hmanaged => ?_⟩
    rcases hmanaged.storage i with hnull | ⟨cells, hlive⟩
    · simp [hfreed] at hnull
    · simp [hfreed] at hlive

/-- After a packet and a reset, the next packet is written to storage that has been given back, and
a second reset gives it back twice. -/
theorem storage_used_after_reset :
    let packet : PointPacket (List (PointXyzlt ℚ)) :=
      { handle := 7, lidar_type := 8, points_num := 0, points := [] }
    let lidar : Fin kMaxSourceLidar := ⟨0, by decide⟩
    let push : LdsCall ℚ := .push_lidar_data lidar ⟨packet, by decide⟩ 5
    exec (LdsRun.step 10) (start ℚ) [push, .reset_lidar lidar, push] = .error .freedStorage ∧
      exec (LdsRun.step 10) (start ℚ) [push, .reset_lidar lidar, .reset_lidar lidar] =
        .error .freedStorage ∧
      ¬ StatesSatisfy (LdsRun.step 10) (Managed 10) (start ℚ) [push, .reset_lidar lidar] := by
  refine ⟨rfl, rfl, fun hmanaged => ?_⟩
  have hstorage := (hmanaged.last rfl).storage ⟨0, by decide⟩
  rcases hstorage with hnull | ⟨cells, hlive⟩
  · cases hnull
  · cases hlive

end LdsRun

end livox_ros
