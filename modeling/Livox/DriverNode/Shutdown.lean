import Livox.DriverNode.Threads
import Livox.Library.Fairness

open checked execution fairness

namespace livox_ros

/-- The statements that the destructor has to go. -/
def DestructorPlace.statements_left : DestructorPlace → Nat
  | .running => 4
  | .set_value => 3
  | .join_pointclouddata => 2
  | .join_imudata => 1
  | .returned => 0

namespace DriverNode

variable {F : Type} {lddc : Lddc} {publish_freq : ℚ} {node t : DriverNode F}

/-- The flags are set by the destructor alone, a thread that is not in a call has left the last one,
and the destructor is past a `join` only when the thread has ended. -/
structure Consistent (node : DriverNode F) : Prop where
  masked : node.point_clouds.Masked
  point_clouds_exit :
    node.point_clouds.request_exit = decide (node.destructor.statements_left < 4)
  imu_exit : node.imu.request_exit = decide (node.destructor.statements_left < 4)
  signal : node.exit_signal = decide (node.destructor.statements_left < 3)
  point_clouds_idle : node.pointclouddata_poll_thread.place ≠ .distributing →
    node.point_clouds.consumer = .distribute
  imu_idle : node.imudata_poll_thread.place ≠ .distributing → node.imu.consumer = .distribute
  point_clouds_joined : node.destructor.statements_left < 2 →
    node.pointclouddata_poll_thread.place = .ended
  imu_joined : node.destructor.statements_left < 1 → node.imudata_poll_thread.place = .ended

theorem start_consistent (F : Type) [Zero F] : (start F).Consistent where
  masked := by
    intro j
    left
    simp [start, point_clouds, Distribution.start, Vector.get_eq_getElem, TrackedDevice.zero,
      LidarDevice.zero, LidarDataQueue.zero]
  point_clouds_exit := rfl
  imu_exit := rfl
  signal := rfl
  point_clouds_idle := fun _ => rfl
  imu_idle := fun _ => rfl
  point_clouds_joined := by simp [start, DestructorPlace.statements_left]
  imu_joined := by simp [start, DestructorPlace.statements_left]

theorem Consistent.point_clouds_step (h : node.Consistent) {event : DistributionEvent F}
    (hstep : node.point_clouds_step lddc publish_freq event = .ok t)
    (hevent : Distribution.Stores event) : t.Consistent := by
  obtain ⟨s, hone, hrest⟩ := bind_eq_ok_iff.mp hstep
  cases hrest
  obtain ⟨hmasked, hconsumer, hexit⟩ := h.masked.store hevent hone
  exact
    { masked := hmasked
      point_clouds_exit := hexit.trans h.point_clouds_exit
      imu_exit := h.imu_exit
      signal := h.signal
      point_clouds_idle := fun hplace => hconsumer.trans (h.point_clouds_idle hplace)
      imu_idle := h.imu_idle
      point_clouds_joined := h.point_clouds_joined
      imu_joined := h.imu_joined }

theorem Consistent.imu_step (h : node.Consistent) {event : ImuEvent F}
    (hstep : node.imu_step lddc event = .ok t) (hevent : ImuDistribution.Stores event) :
    t.Consistent := by
  obtain ⟨s, hone, hrest⟩ := bind_eq_ok_iff.mp hstep
  cases hrest
  obtain ⟨hconsumer, hexit⟩ := ImuDistribution.store_keeps hevent hone
  exact
    { masked := h.masked
      point_clouds_exit := h.point_clouds_exit
      imu_exit := hexit.trans h.imu_exit
      signal := h.signal
      point_clouds_idle := h.point_clouds_idle
      imu_idle := fun hplace => hconsumer.trans (h.imu_idle hplace)
      point_clouds_joined := h.point_clouds_joined
      imu_joined := h.imu_joined }

theorem Consistent.point_cloud_data_poll_thread (h : node.Consistent)
    (hstep : node.point_cloud_data_poll_thread lddc = .ok t) : t.Consistent := by
  obtain ⟨thread, hone, hrest⟩ := bind_eq_ok_iff.mp hstep
  cases hrest
  have hkeeps : ∀ s u : Distribution F, (s.Masked ∧ s.request_exit = node.point_clouds.request_exit) →
      s.consume (publishes lddc.building_ros2 lddc.transfer_format) = .ok u →
      u.Masked ∧ u.request_exit = node.point_clouds.request_exit := fun s u hs hconsume =>
    (hs.1.consume hconsume).imp_right fun hsame => hsame.trans hs.2
  obtain ⟨hmasked, hexit⟩ := PollThread.step_keeps hkeeps ⟨h.masked, rfl⟩ hone
  have hidle := PollThread.step_idle (fun s u => Distribution.consume_returned)
    h.point_clouds_idle hone
  exact
    { masked := hmasked
      point_clouds_exit := hexit.trans h.point_clouds_exit
      imu_exit := h.imu_exit
      signal := h.signal
      point_clouds_idle := hidle
      imu_idle := h.imu_idle
      point_clouds_joined := by
        intro hleft
        have hended := h.point_clouds_joined hleft
        rw [PollThread.step_ended hended hone]
        exact hended
      imu_joined := h.imu_joined }

theorem Consistent.imu_data_poll_thread (h : node.Consistent)
    (hstep : node.imu_data_poll_thread lddc = .ok t) : t.Consistent := by
  obtain ⟨thread, hone, hrest⟩ := bind_eq_ok_iff.mp hstep
  cases hrest
  have hkeeps : ∀ s u : ImuDistribution F, s.request_exit = node.imu.request_exit →
      Except.ok (s.consume lddc) = (.ok u : Checked (ImuDistribution F)) →
      u.request_exit = node.imu.request_exit := by
    intro s u hs hconsume
    cases hconsume
    exact (ImuDistribution.consume_request_exit lddc s).trans hs
  have hexit := PollThread.step_keeps hkeeps rfl hone
  have hreturns : ∀ s u : ImuDistribution F, s.returns = true →
      Except.ok (s.consume lddc) = (.ok u : Checked (ImuDistribution F)) →
      u.consumer = .distribute := by
    intro s u hs hconsume
    cases hconsume
    exact ImuDistribution.consume_returned hs
  exact
    { masked := h.masked
      point_clouds_exit := h.point_clouds_exit
      imu_exit := hexit.trans h.imu_exit
      signal := h.signal
      point_clouds_idle := h.point_clouds_idle
      imu_idle := PollThread.step_idle hreturns h.imu_idle hone
      point_clouds_joined := h.point_clouds_joined
      imu_joined := by
        intro hleft
        have hended := h.imu_joined hleft
        rw [PollThread.step_ended hended hone]
        exact hended }

/-- After the exit request the destructor goes on to the next statement. -/
theorem Consistent.move_on (h : node.Consistent) {destructor : DestructorPlace} {exit_signal : Bool}
    (hrequested : node.destructor.statements_left < 4) (hleft : destructor.statements_left < 4)
    (hsignal : exit_signal = decide (destructor.statements_left < 3))
    (hpoint_clouds : destructor.statements_left < 2 →
      node.pointclouddata_poll_thread.place = .ended)
    (himu : destructor.statements_left < 1 → node.imudata_poll_thread.place = .ended) :
    Consistent { node with destructor, exit_signal } where
  masked := h.masked
  point_clouds_exit := by
    rw [decide_eq_true hleft, ← decide_eq_true hrequested]
    exact h.point_clouds_exit
  imu_exit := by
    rw [decide_eq_true hleft, ← decide_eq_true hrequested]
    exact h.imu_exit
  signal := hsignal
  point_clouds_idle := h.point_clouds_idle
  imu_idle := h.imu_idle
  point_clouds_joined := hpoint_clouds
  imu_joined := himu

theorem Consistent.destroy (h : node.Consistent) : node.destroy.Consistent := by
  have hsignal := h.signal
  rw [DriverNode.destroy]
  cases hplace : node.destructor with
  | running =>
    rw [hplace] at hsignal
    exact
      { masked := h.masked
        point_clouds_exit := rfl
        imu_exit := rfl
        signal := hsignal
        point_clouds_idle := h.point_clouds_idle
        imu_idle := h.imu_idle
        point_clouds_joined := by simp [DestructorPlace.statements_left]
        imu_joined := by simp [DestructorPlace.statements_left] }
  | set_value =>
    apply h.move_on <;> simp [hplace, DestructorPlace.statements_left]
  | join_pointclouddata =>
    rw [hplace] at hsignal
    dsimp only
    split
    · rename_i hended
      apply h.move_on <;> simp [hplace, hsignal, hended, DestructorPlace.statements_left]
    · exact h
  | join_imudata =>
    have hjoined := h.point_clouds_joined (by simp [hplace, DestructorPlace.statements_left])
    rw [hplace] at hsignal
    dsimp only
    split
    · rename_i hended
      apply h.move_on <;> simp [hplace, hsignal, hended, hjoined, DestructorPlace.statements_left]
    · exact h
  | returned => exact h

theorem Consistent.take_turn (h : node.Consistent) {party : Party}
    (hstep : node.take_turn lddc party = .ok t) : t.Consistent := by
  cases party with
  | pointclouddata_poll_thread => exact h.point_cloud_data_poll_thread hstep
  | imudata_poll_thread => exact h.imu_data_poll_thread hstep
  | destructor =>
    cases hstep
    exact h.destroy

theorem Consistent.step (h : node.Consistent) {event : DriverEvent F}
    (hstep : node.step lddc publish_freq event = .ok t) : t.Consistent := by
  cases event with
  | push_lidar_data index lidar_data base_time => exact h.point_clouds_step hstep trivial
  | push_step call => exact h.point_clouds_step hstep trivial
  | storage_imu_data imu_data => exact h.imu_step hstep trivial
  | storage_step call => exact h.imu_step hstep trivial
  | get_free_index lidar_type handle => exact h.imu_step hstep trivial
  | sampling index =>
    obtain ⟨u, hone, hrest⟩ := bind_eq_ok_iff.mp hstep
    exact (h.point_clouds_step hone trivial).imu_step hrest trivial
  | party party => exact h.take_turn hstep

/-- The exit is requested and neither thread is blocked. -/
structure Exiting (node : DriverNode F) : Prop where
  requested : node.destructor ≠ .running
  signal : node.exit_signal = decide (node.destructor.statements_left < 3)
  point_clouds : node.point_clouds.Exits
  imu : node.imu.Exits

theorem Consistent.exiting (h : node.Consistent) (hrequested : node.destructor ≠ .running)
    (hpoint_clouds : ¬ node.point_clouds.Blocked) (himu : ¬ node.imu.Blocked) : node.Exiting := by
  have hleft : node.destructor.statements_left < 4 := by
    cases hplace : node.destructor with
    | running => exact absurd hplace hrequested
    | _ => simp [DestructorPlace.statements_left]
  have hpoint_clouds_exit := h.point_clouds_exit
  have himu_exit := h.imu_exit
  rw [decide_eq_true hleft] at hpoint_clouds_exit himu_exit
  exact ⟨hrequested, h.signal, ⟨hpoint_clouds_exit, h.masked, hpoint_clouds⟩, himu_exit, himu⟩

/-- The steps that the threads have left count once the signal is set, which ends their loops. -/
def rank (node : DriverNode F) : ℕ ×ₗ ℕ :=
  toLex (node.destructor.statements_left,
    if node.exit_signal then
      node.pointclouddata_poll_thread.steps_left Distribution.steps_left +
        node.imudata_poll_thread.steps_left ImuDistribution.steps_left
    else 0)

/-- Whom the destructor waits for. -/
def awaited (node : DriverNode F) : Party :=
  match node.destructor with
  | .join_pointclouddata =>
    if node.pointclouddata_poll_thread.place = .ended then .destructor
    else .pointclouddata_poll_thread
  | .join_imudata =>
    if node.imudata_poll_thread.place = .ended then .destructor else .imudata_poll_thread
  | _ => .destructor

theorem rank_lt_of_statement (h : t.destructor.statements_left < node.destructor.statements_left) :
    t.rank < node.rank :=
  Prod.Lex.toLex_lt_toLex.mpr (.inl h)

/-- Until the signal is set the destructor is awaited; then a thread has fewer steps left after each
step, up to its end. -/
theorem Exiting.ranked_thread {party : Party} (h : node.Exiting) (hparty : party ≠ .destructor)
    (hcompletes : node.take_turn lddc party = .ok t) (ht : t.Exiting)
    (hdestructor : t.destructor = node.destructor) (hsignal : t.exit_signal = node.exit_signal)
    (hmoved : node.exit_signal = true → t.rank < node.rank ∨ t = node ∧ party ≠ node.awaited) :
    Ranked (take_turn lddc) Exiting rank awaited node party t where
  completes := hcompletes
  inv := ht
  rank := by
    cases hset : node.exit_signal with
    | true =>
      rcases hmoved hset with hlower | ⟨rfl, hother⟩
      · exact .inl hlower
      · exact .inr ⟨rfl, hother, rfl⟩
    | false =>
      have hplace : node.destructor = .set_value := by
        have hleft := h.signal
        rw [hset] at hleft
        cases hplace : node.destructor with
        | running => exact absurd hplace h.requested
        | set_value => rfl
        | join_pointclouddata | join_imudata | returned =>
          simp [hplace, DestructorPlace.statements_left] at hleft
      refine .inr ⟨?_, ?_, ?_⟩
      · simp [rank, hdestructor, hsignal, hset]
      · simpa [awaited, hplace] using hparty
      · simp [awaited, hdestructor, hplace]

theorem Exiting.point_cloud_turn (h : node.Exiting) (lddc : Lddc) :
    ∃ t, Ranked (DriverNode.take_turn lddc) Exiting rank awaited node .pointclouddata_poll_thread t := by
  have hreturning : Returning
      (Distribution.consume (publishes lddc.building_ros2 lddc.transfer_format))
      Distribution.returns (Distribution.Exits : Distribution F → Prop) Distribution.steps_left :=
    fun s hs => hs.consume _
  obtain ⟨thread, hone, hfree, hmoved⟩ := hreturning.step node.exit_signal h.point_clouds
  refine ⟨{ node with pointclouddata_poll_thread := thread }, h.ranked_thread (by simp) ?_
    ⟨h.requested, h.signal, hfree, h.imu⟩ rfl rfl fun hset => ?_⟩
  · simp only [DriverNode.take_turn, DriverNode.point_cloud_data_poll_thread, hone, ok_bind]
  · rcases hmoved hset with hlower | ⟨rfl, hended⟩
    · left
      apply Prod.Lex.toLex_lt_toLex.mpr
      refine .inr ⟨rfl, ?_⟩
      simp only [hset, if_true]
      omega
    · refine .inr ⟨rfl, ?_⟩
      rw [awaited]
      split
      · simp [hended]
      · split <;> simp
      · simp

theorem Exiting.imu_turn (h : node.Exiting) (lddc : Lddc) :
    ∃ t, Ranked (DriverNode.take_turn lddc) Exiting rank awaited node .imudata_poll_thread t := by
  have hreturning : Returning (fun s : ImuDistribution F => .ok (s.consume lddc))
      ImuDistribution.returns ImuDistribution.Exits ImuDistribution.steps_left :=
    fun s hs => ⟨_, rfl, hs.consume lddc⟩
  obtain ⟨thread, hone, hfree, hmoved⟩ := hreturning.step node.exit_signal h.imu
  refine ⟨{ node with imudata_poll_thread := thread }, h.ranked_thread (by simp) ?_
    ⟨h.requested, h.signal, h.point_clouds, hfree⟩ rfl rfl fun hset => ?_⟩
  · simp only [DriverNode.take_turn, DriverNode.imu_data_poll_thread, hone, ok_bind]
  · rcases hmoved hset with hlower | ⟨rfl, hended⟩
    · left
      apply Prod.Lex.toLex_lt_toLex.mpr
      refine .inr ⟨rfl, ?_⟩
      simp only [hset, if_true]
      omega
    · refine .inr ⟨rfl, ?_⟩
      rw [awaited]
      split
      · split <;> simp
      · simp [hended]
      · simp

theorem Exiting.destroy_turn (h : node.Exiting) (hnot : node.destructor ≠ .returned) (lddc : Lddc) :
    ∃ t, Ranked (DriverNode.take_turn lddc) Exiting rank awaited node .destructor t := by
  have hsignal := h.signal
  cases hplace : node.destructor with
  | running => exact absurd hplace h.requested
  | set_value =>
    have hdestroy : node.destroy =
        { node with exit_signal := true, destructor := .join_pointclouddata } := by
      simp only [destroy, hplace]
    refine ⟨_, congrArg Except.ok hdestroy, ⟨by simp, rfl, h.point_clouds, h.imu⟩, .inl ?_⟩
    apply rank_lt_of_statement
    simp [hplace, DestructorPlace.statements_left]
  | join_pointclouddata =>
    rw [hplace] at hsignal
    by_cases hended : node.pointclouddata_poll_thread.place = .ended
    · have hdestroy : node.destroy = { node with destructor := .join_imudata } := by
        simp only [destroy, hplace, hended, if_true]
      refine ⟨_, congrArg Except.ok hdestroy, ⟨by simp, hsignal, h.point_clouds, h.imu⟩, .inl ?_⟩
      apply rank_lt_of_statement
      simp [hplace, DestructorPlace.statements_left]
    · have hdestroy : node.destroy = node := by
        simp only [destroy, hplace, hended, if_false]
      refine ⟨_, congrArg Except.ok hdestroy, h, .inr ⟨rfl, ?_, rfl⟩⟩
      simp [awaited, hplace, hended]
  | join_imudata =>
    rw [hplace] at hsignal
    by_cases hended : node.imudata_poll_thread.place = .ended
    · have hdestroy : node.destroy = { node with destructor := .returned } := by
        simp only [destroy, hplace, hended, if_true]
      refine ⟨_, congrArg Except.ok hdestroy, ⟨by simp, hsignal, h.point_clouds, h.imu⟩, .inl ?_⟩
      apply rank_lt_of_statement
      simp [hplace, DestructorPlace.statements_left]
    · have hdestroy : node.destroy = node := by
        simp only [destroy, hplace, hended, if_false]
      refine ⟨_, congrArg Except.ok hdestroy, h, .inr ⟨rfl, ?_, rfl⟩⟩
      simp [awaited, hplace, hended]
  | returned => exact absurd hplace hnot

theorem Exiting.turn (h : node.Exiting) (hnot : node.destructor ≠ .returned) (lddc : Lddc)
    (party : Party) :
    ∃ t, Ranked (DriverNode.take_turn lddc) Exiting rank awaited node party t := by
  cases party with
  | pointclouddata_poll_thread => exact h.point_cloud_turn lddc
  | imudata_poll_thread => exact h.imu_turn lddc
  | destructor => exact h.destroy_turn hnot lddc

/-- A thread that is blocked is never joined. -/
theorem not_returned_of_point_clouds_blocked (h : node.Consistent)
    (hrequested : node.destructor ≠ .running) (hblocked : node.point_clouds.Blocked)
    (turn : Nat → Party) :
    ¬ Reaches (DriverNode.take_turn lddc) turn node fun t => t.destructor = .returned := by
  have hplace : node.pointclouddata_poll_thread.place = .distributing := by
    by_contra hidle
    have hconsumer := h.point_clouds_idle hidle
    rw [hblocked.1] at hconsumer
    cases hconsumer
  have hjoining : node.destructor = .set_value ∨ node.destructor = .join_pointclouddata := by
    have hjoined := h.point_clouds_joined
    rw [hplace] at hjoined
    cases hleft : node.destructor <;>
      simp_all [DestructorPlace.statements_left]
  have hstep : ∀ (s : DriverNode F) party t,
      (s.pointclouddata_poll_thread = node.pointclouddata_poll_thread ∧
        (s.destructor = .set_value ∨ s.destructor = .join_pointclouddata)) →
      s.take_turn lddc party = .ok t →
      t.pointclouddata_poll_thread = node.pointclouddata_poll_thread ∧
        (t.destructor = .set_value ∨ t.destructor = .join_pointclouddata) := by
    rintro s party t ⟨hthread, hdestructor⟩ hstep
    cases party with
    | pointclouddata_poll_thread =>
      obtain ⟨thread, hone, hrest⟩ := bind_eq_ok_iff.mp hstep
      cases hrest
      refine ⟨?_, hdestructor⟩
      rw [hthread, PollThread.step_blocked hplace (hblocked.consume _) hblocked.not_returns] at hone
      exact (Except.ok.inj hone).symm
    | imudata_poll_thread =>
      obtain ⟨thread, hone, hrest⟩ := bind_eq_ok_iff.mp hstep
      cases hrest
      exact ⟨hthread, hdestructor⟩
    | destructor =>
      cases hstep
      rcases hdestructor with hset | hjoin
      · simp [destroy, hset, hthread]
      · have hnot : s.pointclouddata_poll_thread.place ≠ .ended := by simp [hthread, hplace]
        have hdestroy : s.destroy = s := by simp only [destroy, hjoin, hnot, if_false]
        rw [hdestroy]
        exact ⟨hthread, .inr hjoin⟩
  apply not_reaches_of_invariant hstep _ ⟨rfl, hjoining⟩
  rintro s ⟨-, hset | hjoin⟩ <;> simp_all

theorem not_returned_of_imu_blocked (h : node.Consistent)
    (hrequested : node.destructor ≠ .running) (hblocked : node.imu.Blocked)
    (turn : Nat → Party) :
    ¬ Reaches (DriverNode.take_turn lddc) turn node fun t => t.destructor = .returned := by
  have hplace : node.imudata_poll_thread.place = .distributing := by
    by_contra hidle
    have hconsumer := h.imu_idle hidle
    rw [hblocked.1] at hconsumer
    cases hconsumer
  have hjoining : node.destructor ≠ .running ∧ node.destructor ≠ .returned := by
    refine ⟨hrequested, fun hreturned => ?_⟩
    have hended := h.imu_joined (by simp [hreturned, DestructorPlace.statements_left])
    rw [hplace] at hended
    cases hended
  have hstep : ∀ (s : DriverNode F) party t,
      (s.imudata_poll_thread = node.imudata_poll_thread ∧
        (s.destructor ≠ .running ∧ s.destructor ≠ .returned)) →
      s.take_turn lddc party = .ok t →
      t.imudata_poll_thread = node.imudata_poll_thread ∧
        (t.destructor ≠ .running ∧ t.destructor ≠ .returned) := by
    rintro s party t ⟨hthread, hdestructor⟩ hstep
    cases party with
    | pointclouddata_poll_thread =>
      obtain ⟨thread, hone, hrest⟩ := bind_eq_ok_iff.mp hstep
      cases hrest
      exact ⟨hthread, hdestructor⟩
    | imudata_poll_thread =>
      obtain ⟨thread, hone, hrest⟩ := bind_eq_ok_iff.mp hstep
      cases hrest
      refine ⟨?_, hdestructor⟩
      have hdistribute : (.ok (node.imu.consume lddc) : Checked (ImuDistribution F)) =
          .ok node.imu := congrArg Except.ok (hblocked.consume lddc)
      rw [hthread, PollThread.step_blocked hplace hdistribute hblocked.not_returns] at hone
      exact (Except.ok.inj hone).symm
    | destructor =>
      cases hstep
      have hnot : s.imudata_poll_thread.place ≠ .ended := by simp [hthread, hplace]
      rw [destroy]
      split
      · exact absurd ‹_› hdestructor.1
      · exact ⟨hthread, by simp⟩
      · split
        · exact ⟨hthread, by simp⟩
        · exact ⟨hthread, hdestructor⟩
      · rw [if_neg hnot]
        exact ⟨hthread, hdestructor⟩
      · exact absurd ‹_› hdestructor.2
  apply not_reaches_of_invariant hstep _ ⟨rfl, hjoining⟩
  exact fun s hs => hs.2.2

end DriverNode

/-- Once `RequestExit` has been called, in whatever state, and for every fair schedule of the two
threads and the destructor with nothing more stored: the destructor returns exactly when neither
thread is in a `Wait` that blocks. -/
theorem destructor_returns_iff {F : Type} [Zero F] (lddc : Lddc) (publish_freq : ℚ)
    (events : List (DriverEvent F)) (node : DriverNode F)
    (hrun : exec (DriverNode.step lddc publish_freq) (DriverNode.start F) events = .ok node)
    (hrequested : node.destructor ≠ .running) (turn : Nat → Party) (hfair : Fair turn) :
    Reaches (DriverNode.take_turn lddc) turn node (fun t => t.destructor = .returned) ↔
      ¬ node.point_clouds.Blocked ∧ ¬ node.imu.Blocked := by
  have hconsistent : node.Consistent :=
    exec_invariant (fun s event t h hstep => h.step hstep) (DriverNode.start_consistent F) hrun
  constructor
  · intro hreturns
    constructor
    · intro hblocked
      exact DriverNode.not_returned_of_point_clouds_blocked hconsistent hrequested hblocked turn
        hreturns
    · intro hblocked
      exact DriverNode.not_returned_of_imu_blocked hconsistent hrequested hblocked turn hreturns
  · rintro ⟨hpoint_clouds, himu⟩
    exact hfair.reaches (fun s party hs hnot => hs.turn hnot lddc party)
      (hconsistent.exiting hrequested hpoint_clouds himu)

/-- The two threads and the destructor in turn. -/
def in_turns (n : Nat) : Party :=
  match n % 3 with
  | 0 => .pointclouddata_poll_thread
  | 1 => .imudata_poll_thread
  | _ => .destructor

theorem in_turns_fair : Fair in_turns := by
  intro party n
  cases party with
  | pointclouddata_poll_thread => exact ⟨3 * n, by omega, by simp [in_turns]⟩
  | imudata_poll_thread => exact ⟨3 * n + 1, by omega, by simp [in_turns]⟩
  | destructor => exact ⟨3 * n + 2, by omega, by simp [in_turns]⟩

/-- The point cloud thread waits for the first packet. -/
def DriverNode.waiting (F : Type) [Zero F] : DriverNode F :=
  { DriverNode.start F with
    pointclouddata_poll_thread :=
      { place := .distributing, lddc := { Distribution.start F with consumer := .wait } } }

/-- A node that is destroyed before its threads have waited, and one that has waited in vain for
its first packet. -/
theorem destructor_returns_iff_samples :
    let lddc := Lddc.new true 0 0 0 "livox_frame"
    (∃ node, exec (DriverNode.step lddc 10) (DriverNode.start ℚ) [.party .destructor] = .ok node ∧
        Reaches (DriverNode.take_turn lddc) in_turns node fun t => t.destructor = .returned) ∧
      ∃ node, exec (DriverNode.step lddc 10) (DriverNode.start ℚ)
          [.party .pointclouddata_poll_thread, .party .pointclouddata_poll_thread,
            .party .destructor] = .ok node ∧
        ¬ Reaches (DriverNode.take_turn lddc) in_turns node fun t => t.destructor = .returned := by
  intro lddc
  constructor
  · refine ⟨(DriverNode.start ℚ).destroy, rfl, ?_⟩
    apply (destructor_returns_iff lddc 10 [.party .destructor] _ rfl (by decide) in_turns
      in_turns_fair).mpr
    constructor
    · rintro ⟨hwait, -⟩
      cases hwait
    · rintro ⟨hwait, -⟩
      cases hwait
  · refine ⟨(DriverNode.waiting ℚ).destroy, rfl, fun hreturns => ?_⟩
    have hfree := (destructor_returns_iff lddc 10 [.party .pointclouddata_poll_thread,
      .party .pointclouddata_poll_thread, .party .destructor] _ rfl (by decide) in_turns
      in_turns_fair).mp hreturns
    exact hfree.1 ⟨rfl, rfl⟩

end livox_ros
