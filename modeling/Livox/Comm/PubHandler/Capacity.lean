import Livox.Comm.PubHandler.Conservation

open checked execution ordered_map

namespace livox_ros

/-- No write to the frame has left its arrays, and no publication has had more
packets than the arrays have positions. -/
def PubRun.FramesInBounds {F : Type} [Coordinate F] (s : PubRun F) (events : List PubEvent) : Prop :=
  ∃ t, exec PubRun.step s events = .ok t ∧ ∀ frame ∈ t.published, frame.length ≤ kMaxSourceLidar

/-- A timer check by the host clock finds room in the frame: of the known
lidars, the last one left aside, fewer than 32 hold points. -/
def PubRun.FrameFits {F : Type} (s : PubRun F) : PubEvent → Prop
  | .timer now_time => s.pending ≠ none → s.handler.CutFits now_time
  | _ => True

/-- What every step that completes keeps, however many lidars there are. -/
structure PubRun.Ready {F : Type} [Coordinate F] (s : PubRun F) : Prop where
  idle : s.handler.frame.lidar_num = 0
  configured : s.handler.Configured
  pending : ∀ id, s.pending = some id → id ∈ s.handler.lidar_process_handlers
  published : ∀ frame ∈ s.published, frame.length ≤ kMaxSourceLidar

section Step

variable {F : Type} [Coordinate F] {s : PubRun F}

theorem step_timer_ready (h : s.Ready) {now_time : Int} (hfits : s.FrameFits (.timer now_time)) :
    ∃ t, s.step (.timer now_time) = .ok t ∧ t.Ready := by
  cases hpending : s.pending with
  | none => exact ⟨s, by simp [PubRun.step, hpending], h⟩
  | some id =>
    obtain ⟨t, published, hcheck, hchecked⟩ :=
      PubHandler.check_timer_spec h.idle (h.pending id hpending) (hfits (by simp [hpending]))
    refine ⟨_, PubRun.step_timer_of_checked hpending hcheck, hchecked.idle,
      hchecked.configured h.configured, by simp, ?_⟩
    intro frame hframe
    rcases List.mem_append.mp hframe with hold | hnew
    · exact h.published frame hold
    · exact hchecked.fits frame (by simpa using hnew)

theorem step_timer_of_not_fits (h : s.Ready) {now_time : Int}
    (hfits : ¬ s.FrameFits (.timer now_time)) : ∃ fault, s.step (.timer now_time) = .error fault := by
  simp only [PubRun.FrameFits, Classical.not_imp] at hfits
  obtain ⟨hpending, hfits⟩ := hfits
  obtain ⟨id, hid⟩ := Option.ne_none_iff_exists'.mp hpending
  obtain ⟨fault, hfault⟩ := @PubHandler.check_timer_of_not_fits F s.handler id now_time h.idle hfits
  exact ⟨fault, by simp [PubRun.step, hid, hfault]⟩

/-- A check of the timer that completes does nothing, or checks the timer of the pending lidar. -/
theorem step_timer_cases {t : PubRun F} (h : s.Ready) {now_time : Int}
    (hstep : s.step (.timer now_time) = .ok t) :
    t = s ∨ ∃ handler published, s.handler.TimerChecked handler published ∧
      t = { s with handler, pending := none, published := s.published ++ published.toList } := by
  cases hpending : s.pending with
  | none =>
    left
    simpa [PubRun.step, hpending] using hstep.symm
  | some id =>
    by_cases hfits : s.FrameFits (.timer now_time)
    · obtain ⟨handler, published, hcheck, hchecked⟩ :=
        PubHandler.check_timer_spec h.idle (h.pending id hpending) (hfits (by simp [hpending]))
      have htimer := PubRun.step_timer_of_checked hpending hcheck
      exact Or.inr ⟨handler, published, hchecked, Except.ok.inj (hstep.symm.trans htimer)⟩
    · obtain ⟨fault, hfault⟩ := step_timer_of_not_fits h hfits
      simp [hfault] at hstep

theorem step_process_ready (h : s.Ready) : ∃ t, s.step .process = .ok t ∧ t.Ready := by
  obtain ⟨t, hstep⟩ := PubRun.step_process_completes s
  refine ⟨t, hstep, ?_⟩
  obtain rfl | ⟨raw_data, rest, handler, _, hprocessed, rfl⟩ :=
    PubRun.step_process_spec h.configured hstep
  · exact h
  · refine ⟨hprocessed.frame ▸ h.idle, hprocessed.configured, ?_, h.published⟩
    intro id heq
    obtain rfl : raw_data.lidar_id = id := Option.some.inj heq
    exact hprocessed.known

/-- A step completes exactly when it stays inside the frame, and every step
that completes ends in a ready state. -/
theorem step_ready (h : s.Ready) (event : PubEvent) :
    (s.FrameFits event → ∃ t, s.step event = .ok t ∧ t.Ready) ∧
      (¬ s.FrameFits event → ∃ fault, s.step event = .error fault) := by
  cases event with
  | packet raw_packet =>
    exact ⟨fun _ => ⟨_, rfl, h.idle, h.configured, h.pending, h.published⟩,
      fun hnot => absurd trivial hnot⟩
  | timestamp_sync is_timestamp_sync =>
    exact ⟨fun _ => ⟨_, rfl, h.idle, h.configured, h.pending, h.published⟩,
      fun hnot => absurd trivial hnot⟩
  | process => exact ⟨fun _ => step_process_ready h, fun hnot => absurd trivial hnot⟩
  | timer now_time => exact ⟨step_timer_ready h, step_timer_of_not_fits h⟩

theorem step_ok_ready {t : PubRun F} (h : s.Ready) {event : PubEvent} (hstep : s.step event = .ok t) :
    t.Ready := by
  by_cases hfits : s.FrameFits event
  · obtain ⟨u, hu, hready⟩ := (step_ready h event).1 hfits
    obtain rfl : u = t := by simpa [hu] using hstep
    exact hready
  · obtain ⟨fault, hfault⟩ := (step_ready h event).2 hfits
    simp [hfault] at hstep

end Step

theorem start_ready {F : Type} [Coordinate F] (publish_interval : PublishInterval)
    (lidar_extrinsics : Std.TreeMap UInt32 (LidarExtParameter F)) :
    (PubRun.start publish_interval lidar_extrinsics).Ready where
  idle := rfl
  configured := by simp [PubHandler.Configured, PubRun.start, PubHandler.start]
  pending := by simp [PubRun.start]
  published := by simp [PubRun.start]

/-- Whatever packets arrive, from any number of lidars and in either mode, the
frames stay in bounds exactly when each timer check of the run by the host
clock finds fewer than 32 lidars with points before the last known one. -/
theorem frames_in_bounds_iff_fit {F : Type} [Coordinate F] (publish_interval : PublishInterval)
    (lidar_extrinsics : Std.TreeMap UInt32 (LidarExtParameter F)) (events : List PubEvent) :
    (PubRun.start publish_interval lidar_extrinsics).FramesInBounds events ↔
      StepsSatisfy PubRun.step PubRun.FrameFits (PubRun.start publish_interval lidar_extrinsics)
        events := by
  have hready := start_ready publish_interval lidar_extrinsics
  have hstep : ∀ (s : PubRun F) (event : PubEvent) (t : PubRun F), s.Ready →
      s.step event = .ok t → t.Ready := fun s event t hs => step_ok_ready hs
  have hguard : ∀ (s : PubRun F) (event : PubEvent), s.Ready →
      ((∃ t, s.step event = .ok t) ↔ s.FrameFits event) := by
    intro s event hs
    constructor
    · rintro ⟨t, hone⟩
      by_contra hnot
      obtain ⟨fault, hfault⟩ := (step_ready hs event).2 hnot
      simp [hfault] at hone
    · intro hfits
      obtain ⟨t, hone, _⟩ := (step_ready hs event).1 hfits
      exact ⟨t, hone⟩
  rw [← completes_iff_stepsSatisfy hstep hguard hready]
  constructor
  · rintro ⟨t, hrun, _⟩
    exact ⟨t, hrun⟩
  · rintro ⟨t, hrun⟩
    exact ⟨t, hrun, (exec_invariant hstep hready hrun).published⟩

/-- One point of each of 33 lidars, and then a publication by the host clock. -/
def thirty_three_lidars : List PubEvent :=
  let raw_packet (handle : UInt32) : RawPacket :=
    { lidar_type := .kLivoxLidarType, handle, extrinsic_enable := false, point_num := 1
      data_type := kLivoxLidarCartesianCoordinateHighData, line_num := 4, time_stamp := 1000000
      point_interval := 5000, raw_data := List.replicate 14 0, past_end := fun _ => 0
      line_num_ne := four_lines_ne }
  (List.range 33).flatMap (fun i => [.packet (raw_packet (UInt32.ofNat i)), .process, .timer 0]) ++
    [.packet (raw_packet 0), .process, .timer 1000000000]

/-- Whether a run has ended in this fault. -/
def endsIn {α : Type} (result : Checked α) (fault : Fault) : Bool :=
  match result with
  | .ok _ => false
  | .error found => found == fault

theorem thirty_three_lidars_out_of_bounds :
    endsIn (exec PubRun.step (@PubRun.start ℝ ⟨100000000, by decide⟩ ∅)
        thirty_three_lidars) (.outOfBounds 32 32) = true ∧
      ¬ (@PubRun.start ℝ ⟨100000000, by decide⟩ ∅).FramesInBounds
        thirty_three_lidars := by
  have hfault : endsIn (exec PubRun.step (@PubRun.start ℝ ⟨100000000, by decide⟩ ∅)
      thirty_three_lidars) (.outOfBounds 32 32) = true := by decide +kernel
  refine ⟨hfault, ?_⟩
  rintro ⟨t, hrun, _⟩
  rw [hrun] at hfault
  cases hfault

end livox_ros
