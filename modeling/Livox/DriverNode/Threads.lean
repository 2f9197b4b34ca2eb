import Livox.Comm.Ldq.Capacity
import Livox.DriverNode
import Livox.Lddc.Wakeup
import Livox.Lddc.ImuWakeup

open checked

namespace livox_ros

section Queue

variable {F : Type} {queue t : LidarDataQueue F}

/-- The mask keeps every counter inside the storage; without storage the queue is empty. -/
def LidarDataQueue.Masked (queue : LidarDataQueue F) : Prop :=
  queue.storage_packet = .null ∧ queue.rd_idx = queue.wr_idx ∨
    ∃ cells, queue.storage_packet = .live cells ∧ queue.mask.toNat < cells.length

theorem init_queue_masked {queue_size : UInt32} (h : init_queue queue queue_size = .ok t) :
    t.Masked := by
  obtain ⟨_, _, hrest⟩ := bind_eq_ok_iff.mp h
  cases hrest
  obtain ⟨m, _, hpower⟩ := real_queue_size_power queue_size
  have hpos := Nat.two_pow_pos m
  refine .inr ⟨_, rfl, ?_⟩
  simp only [List.length_replicate]
  have hone : 1 ≤ real_queue_size queue_size := by
    rw [UInt32.le_iff_toNat_le, hpower]
    exact hpos
  rw [UInt32.toNat_sub_of_le _ _ hone]
  simp only [UInt32.toNat_one]
  omega

theorem queue_push_any_masked {data : ReadablePacket F} {base_time : UInt64} (h : queue.Masked)
    (hpush : queue_push_any queue data base_time = .ok t) : t.Masked := by
  obtain ⟨cells, hcells, hrest⟩ := bind_eq_ok_iff.mp hpush
  obtain ⟨written, hwritten, hdone⟩ := bind_eq_ok_iff.mp hrest
  cases hdone
  rcases h with ⟨hnull, -⟩ | ⟨stored, hlive, hlt⟩
  · simp [hnull, StoragePointer.cells] at hcells
  · rw [hlive] at hcells
    cases hcells
    have hindex : (queue.wr_idx &&& queue.mask).toNat < cells.length := by
      rw [UInt32.toNat_and]
      exact lt_of_le_of_lt Nat.and_le_right hlt
    rw [writeList_of_lt _ hindex] at hwritten
    cases hwritten
    exact .inr ⟨_, rfl, by simpa using hlt⟩

/-- A pop completes, and the queue is the shorter for it unless it was empty. -/
theorem LidarDataQueue.Masked.pop (h : queue.Masked) :
    ∃ packet t, queue_pop queue = .ok (packet, t) ∧ t.Masked ∧
      (queue_used_size t).toNat = (queue_used_size queue).toNat - 1 := by
  by_cases heq : queue.rd_idx = queue.wr_idx
  · refine ⟨none, queue, by simp [queue_pop, queue_pre_pop, queue_is_empty, heq], h, ?_⟩
    simp [queue_used_size, heq]
  · obtain ⟨cells, hlive, hlt⟩ := h.resolve_left fun hnull => heq hnull.2
    have hindex : (queue.rd_idx &&& queue.mask).toNat < cells.length := by
      rw [UInt32.toNat_and]
      exact lt_of_le_of_lt Nat.and_le_right hlt
    obtain ⟨packet, hread⟩ : ∃ packet, readList cells (queue.rd_idx &&& queue.mask).toNat =
        .ok packet := by
      simp only [readList_eq_ok_iff]
      exact ⟨_, List.getElem?_eq_getElem hindex⟩
    refine ⟨some { packet with points := packet.points.take packet.points_num.toNat },
      queue_pop_update queue, ?_, .inr ⟨cells, hlive, hlt⟩, ?_⟩
    · simp only [queue_pop, queue_pre_pop, queue_is_empty, beq_iff_eq, heq, if_false, hlive,
        StoragePointer.cells, ok_bind, hread]
    · simp only [queue_used_size, queue_pop_update]
      have hne : queue.wr_idx.toNat ≠ queue.rd_idx.toNat := fun h => heq (UInt32.toNat_inj.mp h).symm
      have hrd := queue.rd_idx.toNat_lt
      have hwr := queue.wr_idx.toNat_lt
      simp only [UInt32.toNat_sub, UInt32.toNat_add, UInt32.toNat_one]
      omega

theorem queue_is_empty_iff : queue_is_empty queue = true ↔ (queue_used_size queue).toNat = 0 := by
  have hrd := queue.rd_idx.toNat_lt
  have hwr := queue.wr_idx.toNat_lt
  simp only [queue_is_empty, beq_iff_eq, queue_used_size, UInt32.toNat_sub, ← UInt32.toNat_inj]
  omega

end Queue

section PollThread

variable {σ : Type} {distribute : σ → Checked σ} {returns : σ → Bool} {free : σ → Prop}
  {rank : σ → Nat}

/-- The steps of a call that is free to go on complete, and each is the last of the call or lowers
the rank. -/
def Returning (distribute : σ → Checked σ) (returns : σ → Bool) (free : σ → Prop)
    (rank : σ → Nat) : Prop :=
  ∀ s, free s → ∃ t, distribute s = .ok t ∧ free t ∧ (returns s = true ∨ rank t < rank s)

/-- At least as many as the steps that the thread has to go once the exit signal is set. -/
def PollThread.steps_left (rank : σ → Nat) (thread : PollThread σ) : Nat :=
  match thread.place with
  | .sleep_for => rank thread.lddc + 3
  | .distributing => rank thread.lddc + 2
  | .wait_for => 1
  | .ended => 0

theorem Returning.step (h : Returning distribute returns free rank) (exit_signal : Bool)
    {thread : PollThread σ} (hfree : free thread.lddc) :
    ∃ t, thread.step distribute returns exit_signal = .ok t ∧ free t.lddc ∧
      (exit_signal = true →
        t.steps_left rank < thread.steps_left rank ∨ t = thread ∧ thread.place = .ended) := by
  obtain ⟨place, s⟩ := thread
  cases place with
  | sleep_for => exact ⟨_, rfl, hfree, fun _ => .inl (Nat.lt_succ_self _)⟩
  | distributing =>
    obtain ⟨t, hdistribute, ht, hrest⟩ := h s hfree
    refine ⟨{ lddc := t, place := if returns s then .wait_for else .distributing }, ?_, ht, ?_⟩
    · simp only [PollThread.step, hdistribute, ok_bind]
    · intro _
      left
      cases hreturns : returns s with
      | true => simp [PollThread.steps_left]
      | false =>
        have hlower : rank t < rank s := hrest.resolve_left (by simp [hreturns])
        simpa [PollThread.steps_left] using hlower
  | wait_for =>
    refine ⟨_, rfl, hfree, fun hsignal => .inl ?_⟩
    simp [PollThread.steps_left, hsignal]
  | ended => exact ⟨_, rfl, hfree, fun _ => .inr ⟨rfl, rfl⟩⟩

/-- A thread whose call makes no progress stays where it is. -/
theorem PollThread.step_blocked {thread : PollThread σ} (hplace : thread.place = .distributing)
    (hdistribute : distribute thread.lddc = .ok thread.lddc)
    (hreturns : returns thread.lddc = false) (exit_signal : Bool) :
    thread.step distribute returns exit_signal = .ok thread := by
  obtain ⟨place, s⟩ := thread
  cases hplace
  simp only at hdistribute hreturns
  simp [PollThread.step, hdistribute, hreturns]

theorem PollThread.step_cases {exit_signal : Bool} {thread t : PollThread σ}
    (hstep : thread.step distribute returns exit_signal = .ok t) :
    t.lddc = thread.lddc ∧ (t.place = .distributing ∨ thread.place ≠ .distributing) ∧
        (thread.place = .ended → t = thread) ∨
      thread.place = .distributing ∧ distribute thread.lddc = .ok t.lddc ∧
        (t.place = .distributing ∨ returns thread.lddc = true) := by
  obtain ⟨place, s⟩ := thread
  cases place with
  | sleep_for =>
    cases hstep
    exact .inl ⟨rfl, .inl rfl, by simp⟩
  | distributing =>
    obtain ⟨u, hdistribute, hrest⟩ := bind_eq_ok_iff.mp hstep
    cases hrest
    refine .inr ⟨rfl, hdistribute, ?_⟩
    cases returns s <;> simp
  | wait_for =>
    cases hstep
    exact .inl ⟨rfl, .inr (by simp), by simp⟩
  | ended =>
    cases hstep
    exact .inl ⟨rfl, .inr (by simp), fun _ => rfl⟩

/-- What the steps of the call keep, the steps of the thread keep. -/
theorem PollThread.step_keeps {exit_signal : Bool} {thread t : PollThread σ} {inv : σ → Prop}
    (hkeeps : ∀ s t, inv s → distribute s = .ok t → inv t) (h : inv thread.lddc)
    (hstep : thread.step distribute returns exit_signal = .ok t) : inv t.lddc := by
  rcases PollThread.step_cases hstep with ⟨hsame, -⟩ | ⟨-, hdistribute, -⟩
  · rwa [hsame]
  · exact hkeeps _ _ h hdistribute

/-- Between two calls the thread is as the last one has left it. -/
theorem PollThread.step_idle {exit_signal : Bool} {thread t : PollThread σ} {idle : σ → Prop}
    (hreturns : ∀ s t, returns s = true → distribute s = .ok t → idle t)
    (h : thread.place ≠ .distributing → idle thread.lddc)
    (hstep : thread.step distribute returns exit_signal = .ok t) :
    t.place ≠ .distributing → idle t.lddc := by
  intro hplace
  rcases PollThread.step_cases hstep with ⟨hsame, hplaces, -⟩ | ⟨-, hdistribute, hplaces⟩
  · rw [hsame]
    exact h (hplaces.resolve_left hplace)
  · exact hreturns _ _ (hplaces.resolve_left hplace) hdistribute

theorem PollThread.step_ended {exit_signal : Bool} {thread t : PollThread σ}
    (hplace : thread.place = .ended)
    (hstep : thread.step distribute returns exit_signal = .ok t) : t = thread := by
  rcases PollThread.step_cases hstep with ⟨-, -, hended⟩ | ⟨hdistributing, -⟩
  · exact hended hplace
  · rw [hplace] at hdistributing
    cases hdistributing

end PollThread

namespace Distribution

variable {F : Type} {s t : Distribution F}

/-- The thread stays in `Wait` until the semaphore is signalled. -/
def Blocked (s : Distribution F) : Prop := s.consumer = .wait ∧ s.pcd_semaphore.wait = none

def Masked (s : Distribution F) : Prop :=
  ∀ j : Fin kMaxSourceLidar, (s.lidars.get j).device.data.Masked

/-- The exit is requested and the thread is not blocked. -/
structure Exits (s : Distribution F) : Prop where
  requested : s.request_exit = true
  masked : s.Masked
  free : ¬ s.Blocked

/-- Each packet in the queue costs two steps of the publisher's loop, and each lidar that is left
of the scan three. -/
def steps_left (s : Distribution F) : Nat :=
  match s.consumer with
  | .distribute => 0
  | .wait => 3 * kMaxSourceLidar + 2
  | .scan i => 3 * (kMaxSourceLidar - i) + 1
  | .polling i => 3 * (kMaxSourceLidar - i)
  | .polling_loop i => 3 * (kMaxSourceLidar - i) - 1
  | .publish_loop i =>
    3 * (kMaxSourceLidar - i) + 2 * (queue_used_size (s.lidars.get i).device.data).toNat
  | .queue_pop i =>
    let used := (queue_used_size (s.lidars.get i).device.data).toNat
    3 * (kMaxSourceLidar - i) + if used = 0 then 1 else 2 * used - 1

theorem Blocked.not_returns (h : s.Blocked) : s.returns = false := by
  simp only [returns, h.1]

theorem Blocked.consume (h : s.Blocked) (publishing : Bool) : s.consume publishing = .ok s := by
  simp only [Distribution.consume, h.1, h.2]

theorem Exits.move (h : s.Exits) (consumer : Consumer) (hconsumer : consumer ≠ .wait) :
    Exits { s with consumer } where
  requested := h.requested
  masked := h.masked
  free := fun hblocked => hconsumer hblocked.1

theorem get_set (lidars : Vector (TrackedDevice F) kMaxSourceLidar) (i j : Fin kMaxSourceLidar)
    (lidar : TrackedDevice F) :
    (lidars.set i lidar i.isLt).get j = if i = j then lidar else lidars.get j :=
  lidars_set i j lidar

/-- The table with another queue for a lidar. -/
theorem Masked.set (h : s.Masked) (i : Fin kMaxSourceLidar) {lidar : TrackedDevice F}
    (hlidar : lidar.device.data.Masked) :
    Masked { s with lidars := s.lidars.set i lidar i.isLt } := by
  intro j
  dsimp only
  rw [get_set]
  split
  · exact hlidar
  · exact h j

/-- The call that makes the step returns by it, or has fewer steps left. -/
theorem Exits.consume (h : s.Exits) (publishing : Bool) :
    ∃ t, s.consume publishing = .ok t ∧ t.Exits ∧
      (s.returns = true ∨ t.steps_left < s.steps_left) := by
  cases hplace : s.consumer with
  | distribute =>
    refine ⟨s, ?_, h, .inl ?_⟩
    · simp only [Distribution.consume, hplace, h.requested, if_true]
    · simp only [returns, hplace, h.requested]
  | wait =>
    cases hwait : s.pcd_semaphore.wait with
    | none => exact absurd ⟨hplace, hwait⟩ h.free
    | some pcd_semaphore =>
      refine ⟨{ s with pcd_semaphore, consumer := .scan 0 }, ?_, ?_, .inr ?_⟩
      · simp only [Distribution.consume, hplace, hwait]
      · exact ⟨h.requested, h.masked, fun hblocked => by simp [Blocked] at hblocked⟩
      · simp only [steps_left, hplace]
        omega
  | scan i =>
    by_cases hlt : i < kMaxSourceLidar
    · by_cases hstate : (getElem s.lidars i hlt).device.connect_state = .kConnectStateSampling
      · refine ⟨_, ?_, h.move (.polling ⟨i, hlt⟩) (by simp), .inr ?_⟩
        · simp only [Distribution.consume, hplace, hlt, dite_true, hstate, if_true]
        · simp only [steps_left, hplace]
          omega
      · refine ⟨_, ?_, h.move (.scan (i + 1)) (by simp), .inr ?_⟩
        · simp only [Distribution.consume, hplace, hlt, dite_true, hstate, if_false]
        · simp only [steps_left, hplace]
          omega
    · refine ⟨_, ?_, h.move .distribute (by simp), .inl ?_⟩
      · simp only [Distribution.consume, hplace, hlt, dite_false]
      · simp only [returns, hplace]
        simpa using hlt
  | polling i =>
    have hlt := i.isLt
    cases hstorage : (getElem s.lidars i hlt).device.data.storage_packet with
    | null =>
      refine ⟨_, ?_, h.move (.scan (i + 1)) (by simp), .inr ?_⟩
      · simp only [Distribution.consume, hplace, hstorage]
      · simp only [steps_left, hplace]
        omega
    | live cells =>
      refine ⟨_, ?_, h.move (.polling_loop i) (by simp), .inr ?_⟩
      · simp only [Distribution.consume, hplace, hstorage]
      · simp only [steps_left, hplace]
        omega
    | freed =>
      refine ⟨_, ?_, h.move (.polling_loop i) (by simp), .inr ?_⟩
      · simp only [Distribution.consume, hplace, hstorage]
      · simp only [steps_left, hplace]
        omega
  | polling_loop i =>
    have hlt := i.isLt
    refine ⟨_, ?_, h.move (.scan (i + 1)) (by simp), .inr ?_⟩
    · simp [Distribution.consume, hplace, h.requested]
    · simp only [steps_left, hplace]
      omega
  | publish_loop i =>
    have hlt := i.isLt
    cases hempty : queue_is_empty (s.lidars.get i).device.data with
    | true =>
      have hused := queue_is_empty_iff.mp hempty
      refine ⟨_, ?_, h.move (.polling_loop i) (by simp), .inr ?_⟩
      · simp [Distribution.consume, hplace, ← Vector.get_eq_getElem, hempty]
      · simp only [steps_left, hplace]
        omega
    | false =>
      have hused : (queue_used_size (s.lidars.get i).device.data).toNat ≠ 0 := by
        rw [ne_eq, ← queue_is_empty_iff, hempty]
        simp
      refine ⟨_, ?_, h.move (.queue_pop i) (by simp), .inr ?_⟩
      · simp [Distribution.consume, hplace, ← Vector.get_eq_getElem, hempty]
      · simp only [steps_left, hplace, hused, if_false]
        omega
  | queue_pop i =>
    obtain ⟨packet, queue, hpop, hmasked, hused⟩ := (h.masked i).pop
    refine ⟨{ s with
        lidars := s.lidars.set i ((s.lidars.get i).with_queue queue) i.isLt
        consumer := .publish_loop i }, ?_, ?_, .inr ?_⟩
    · simp [Distribution.consume, hplace, ← Vector.get_eq_getElem, hpop]
    · exact ⟨h.requested, h.masked.set i hmasked, fun hblocked => by simp [Blocked] at hblocked⟩
    · simp only [steps_left, hplace, get_set, if_true, TrackedDevice.with_queue, hused]
      split <;> omega

/-- What the callers of `PushLidarData` and the callbacks do. -/
def Stores : DistributionEvent F → Prop
  | .push_lidar_data .. => True
  | .producer _ => True
  | .consumer => False
  | .sampling _ => True
  | .request_exit => False

theorem push_step_masked {call : PushCall F} {lidar lidar' : TrackedDevice F}
    {publish_freq : ℚ} {pcd_semaphore pcd_semaphore' : Semaphore} {place : PushPlace}
    (h : lidar.device.data.Masked)
    (hstep : call.step publish_freq lidar pcd_semaphore = .ok (lidar', pcd_semaphore', place)) :
    lidar'.device.data.Masked := by
  simp only [PushCall.step] at hstep
  cases hplace : call.place with
  | init_queue =>
    simp only [hplace] at hstep
    obtain ⟨queue, hinit, hrest⟩ := bind_eq_ok_iff.mp hstep
    cases hrest
    exact init_queue_masked hinit
  | queue_push_any =>
    simp only [hplace] at hstep
    obtain ⟨queue, hpush, hrest⟩ := bind_eq_ok_iff.mp hstep
    cases hrest
    exact queue_push_any_masked h hpush
  | storage_test | full_test | empty_test | count_test =>
    simp only [hplace] at hstep
    split at hstep <;>
    · cases hstep
      exact h
  | signal | done =>
    simp only [hplace] at hstep
    cases hstep
    exact h

theorem Masked.store {publish_freq : ℚ} {publishing : Bool} {event : DistributionEvent F}
    (h : s.Masked) (hevent : Stores event)
    (hstep : s.step publish_freq publishing event = .ok t) :
    t.Masked ∧ t.consumer = s.consumer ∧ t.request_exit = s.request_exit := by
  cases event with
  | push_lidar_data index lidar_data base_time =>
    cases hstep
    exact ⟨h, rfl, rfl⟩
  | producer k =>
    simp only [Distribution.step] at hstep
    cases hcall : s.calls[k]? with
    | none =>
      simp only [hcall] at hstep
      cases hstep
      exact ⟨h, rfl, rfl⟩
    | some call =>
      simp only [hcall] at hstep
      obtain ⟨⟨lidar, pcd_semaphore, place⟩, hone, hrest⟩ := bind_eq_ok_iff.mp hstep
      cases hrest
      exact ⟨h.set call.index (push_step_masked (h call.index) hone), rfl, rfl⟩
  | consumer => exact hevent.elim
  | sampling index =>
    cases hstep
    exact ⟨h.set index (h index), rfl, rfl⟩
  | request_exit => exact hevent.elim

/-- A step of the consumer moves it on, and maybe takes from the semaphore, or pops. -/
theorem consume_cases {publishing : Bool} (hstep : s.consume publishing = .ok t) :
    (∃ pcd_semaphore consumer, t = { s with pcd_semaphore, consumer } ∧
      (s.returns = true → consumer = .distribute)) ∨
    ∃ i packet queue, s.consumer = .queue_pop i ∧
      queue_pop (s.lidars.get i).device.data = .ok (packet, queue) ∧
      t = { s with
        lidars := s.lidars.set i ((s.lidars.get i).with_queue queue) i.isLt
        consumer := .publish_loop i } := by
  simp only [Distribution.consume] at hstep
  cases hplace : s.consumer with
  | distribute =>
    simp only [hplace] at hstep
    left
    split at hstep
    · cases hstep
      exact ⟨s.pcd_semaphore, s.consumer, rfl, fun _ => hplace⟩
    · rename_i hexit
      cases hstep
      exact ⟨s.pcd_semaphore, .wait, rfl, by simp [returns, hplace, hexit]⟩
  | wait =>
    simp only [hplace] at hstep
    left
    split at hstep
    · cases hstep
      exact ⟨s.pcd_semaphore, s.consumer, rfl, by simp [returns, hplace]⟩
    · cases hstep
      exact ⟨_, _, rfl, by simp [returns, hplace]⟩
  | scan i =>
    simp only [hplace] at hstep
    left
    split at hstep
    · rename_i hlt
      have hreturns : s.returns = false := by
        simp only [returns, hplace]
        simpa using hlt
      split at hstep <;>
      · cases hstep
        exact ⟨_, _, rfl, by simp [hreturns]⟩
    · cases hstep
      exact ⟨_, _, rfl, fun _ => rfl⟩
  | polling i =>
    simp only [hplace] at hstep
    left
    split at hstep <;>
    · cases hstep
      exact ⟨_, _, rfl, by simp [returns, hplace]⟩
  | polling_loop i =>
    simp only [hplace] at hstep
    left
    split at hstep
    · split at hstep <;>
      · cases hstep
        exact ⟨s.pcd_semaphore, _, rfl, by simp [returns, hplace]⟩
    · cases hstep
      exact ⟨_, _, rfl, by simp [returns, hplace]⟩
  | publish_loop i =>
    simp only [hplace] at hstep
    left
    split at hstep <;>
    · cases hstep
      exact ⟨_, _, rfl, by simp [returns, hplace]⟩
  | queue_pop i =>
    simp only [hplace] at hstep
    right
    obtain ⟨⟨packet, queue⟩, hpop, hrest⟩ := bind_eq_ok_iff.mp hstep
    cases hrest
    exact ⟨i, packet, queue, rfl, hpop, rfl⟩

theorem Masked.consume {publishing : Bool} (h : s.Masked)
    (hstep : s.consume publishing = .ok t) :
    t.Masked ∧ t.request_exit = s.request_exit := by
  rcases consume_cases hstep with ⟨_, _, rfl, -⟩ | ⟨i, packet, queue, -, hpop, rfl⟩
  · exact ⟨h, rfl⟩
  · obtain ⟨_, _, hpopped, hmasked, -⟩ := (h i).pop
    cases hpopped.symm.trans hpop
    exact ⟨h.set i hmasked, rfl⟩

theorem consume_returned {publishing : Bool} (hreturns : s.returns = true)
    (hstep : s.consume publishing = .ok t) : t.consumer = .distribute := by
  rcases consume_cases hstep with ⟨_, _, rfl, hconsumer⟩ | ⟨i, _, _, hplace, -⟩
  · exact hconsumer hreturns
  · simp [returns, hplace] at hreturns

end Distribution

namespace ImuDistribution

variable {F : Type} {lddc : Lddc} {s t : ImuDistribution F}

def Blocked (s : ImuDistribution F) : Prop := s.consumer = .wait ∧ s.imu_semaphore.wait = none

structure Exits (s : ImuDistribution F) : Prop where
  requested : s.request_exit = true
  free : ¬ s.Blocked

def steps_left (s : ImuDistribution F) : Nat :=
  match s.consumer with
  | .distribute => 0
  | .wait => 2 * kMaxSourceLidar + 2
  | .scan i => 2 * (kMaxSourceLidar - i) + 1
  | .polling_loop i => 2 * (kMaxSourceLidar - i)
  | .publish i => 2 * (kMaxSourceLidar - i) + 1

theorem Blocked.not_returns (h : s.Blocked) : s.returns = false := by
  simp only [returns, h.1]

theorem Blocked.consume (h : s.Blocked) (lddc : Lddc) : s.consume lddc = s := by
  simp only [ImuDistribution.consume, h.1, h.2]

theorem publish_imu_data_request_exit (lddc : Lddc) (i : Fin kMaxSourceLidar)
    (s : ImuDistribution F) : (publish_imu_data lddc i s).request_exit = s.request_exit := by
  cases hqueue : (s.lidars.get i).imu_data.imu_data_queue with
  | nil => rw [publish_imu_data_nil lddc i hqueue]
  | cons imu_data rest =>
    obtain ⟨_, _, _, hpublish⟩ := publish_frame lddc i imu_data { s with
      lidars := s.lidars.set i (popped (s.lidars.get i) imu_data rest) i.isLt }
    rw [publish_imu_data_eq lddc i hqueue, hpublish]

theorem consume_request_exit (lddc : Lddc) (s : ImuDistribution F) :
    (s.consume lddc).request_exit = s.request_exit := by
  rw [ImuDistribution.consume]
  split
  · split <;> rfl
  · split <;> rfl
  · split
    · split <;> rfl
    · rfl
  · split <;> rfl
  · exact publish_imu_data_request_exit lddc _ s

theorem consume_returned (h : s.returns = true) : (s.consume lddc).consumer = .distribute := by
  cases hplace : s.consumer with
  | distribute =>
    have hexit : s.request_exit = true := by simpa only [returns, hplace] using h
    simp only [ImuDistribution.consume, hplace, hexit, if_true]
  | scan i =>
    have hdone : ¬ i < kMaxSourceLidar := by simpa [returns, hplace] using h
    simp only [ImuDistribution.consume, hplace, hdone, dite_false]
  | wait | polling_loop i | publish i => simp [returns, hplace] at h

theorem Exits.consume (h : s.Exits) (lddc : Lddc) :
    (s.consume lddc).Exits ∧
      (s.returns = true ∨ (s.consume lddc).steps_left < s.steps_left) := by
  have hrequested := (consume_request_exit lddc s).trans h.requested
  cases hplace : s.consumer with
  | distribute =>
    refine ⟨⟨hrequested, fun hblocked => ?_⟩, .inl ?_⟩
    · simp [Blocked, ImuDistribution.consume, hplace, h.requested] at hblocked
    · simp only [returns, hplace, h.requested]
  | wait =>
    cases hwait : s.imu_semaphore.wait with
    | none => exact absurd ⟨hplace, hwait⟩ h.free
    | some imu_semaphore =>
      refine ⟨⟨hrequested, fun hblocked => ?_⟩, .inr ?_⟩
      · simp [Blocked, ImuDistribution.consume, hplace, hwait] at hblocked
      · simp only [ImuDistribution.consume, hplace, hwait, steps_left]
        omega
  | scan i =>
    by_cases hlt : i < kMaxSourceLidar
    · by_cases hstate : (s.lidars.get ⟨i, hlt⟩).device.connect_state = .kConnectStateSampling
      · refine ⟨⟨hrequested, fun hblocked => ?_⟩, .inr ?_⟩
        · simp [Blocked, ImuDistribution.consume, hplace, hlt, hstate] at hblocked
        · simp only [ImuDistribution.consume, hplace, hlt, dite_true, hstate, if_true, steps_left]
          omega
      · refine ⟨⟨hrequested, fun hblocked => ?_⟩, .inr ?_⟩
        · simp [Blocked, ImuDistribution.consume, hplace, hlt, hstate] at hblocked
        · simp only [ImuDistribution.consume, hplace, hlt, dite_true, hstate, if_false, steps_left]
          omega
    · refine ⟨⟨hrequested, fun hblocked => ?_⟩, .inl ?_⟩
      · simp [Blocked, ImuDistribution.consume, hplace, hlt] at hblocked
      · simpa [returns, hplace] using hlt
  | polling_loop i =>
    have hlt := i.isLt
    refine ⟨⟨hrequested, fun hblocked => ?_⟩, .inr ?_⟩
    · simp [Blocked, ImuDistribution.consume, hplace, h.requested] at hblocked
    · simp only [ImuDistribution.consume, hplace, h.requested, steps_left, Bool.not_true,
        Bool.false_and, Bool.false_eq_true, if_false]
      omega
  | publish i =>
    refine ⟨⟨hrequested, fun hblocked => ?_⟩, .inr ?_⟩
    · simp [Blocked, ImuDistribution.consume, hplace] at hblocked
    · simp only [ImuDistribution.consume, hplace, steps_left]
      omega

def Stores : ImuEvent F → Prop
  | .storage_imu_data _ => True
  | .producer _ => True
  | .consumer => False
  | .get_free_index .. => True
  | .set_device .. => True
  | .request_exit => False

theorem store_keeps {event : ImuEvent F} (hevent : Stores event)
    (hstep : s.step lddc event = .ok t) :
    t.consumer = s.consumer ∧ t.request_exit = s.request_exit := by
  cases event with
  | storage_imu_data imu_data =>
    cases hstep
    exact ⟨rfl, rfl⟩
  | producer k =>
    simp only [ImuDistribution.step] at hstep
    cases hcall : s.calls[k]? with
    | none =>
      simp only [hcall] at hstep
      cases hstep
      exact ⟨rfl, rfl⟩
    | some call =>
      simp only [hcall] at hstep
      obtain ⟨⟨lidars, imu_semaphore, place⟩, -, hrest⟩ := bind_eq_ok_iff.mp hstep
      cases hrest
      exact ⟨rfl, rfl⟩
  | consumer => exact hevent.elim
  | get_free_index lidar_type handle =>
    cases hstep
    exact ⟨rfl, rfl⟩
  | set_device index device =>
    cases hstep
    exact ⟨rfl, rfl⟩
  | request_exit => exact hevent.elim

end ImuDistribution

end livox_ros
