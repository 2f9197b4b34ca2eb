import Livox.Sdk.GeneralCommandHandler.Commands

open checked execution ordered_map

namespace livox_lidar

namespace general_command_handler

namespace State

variable {s t : State} {command : Command}

/-- The commands of `GeneralCommandHandler::SendCommand` are completed once: a
callback is not called twice, and it has been called when the command is neither
registered nor being sent. -/
def CompletedOnce (s : State) : Prop :=
  ∀ command ∈ s.submitted, command.general = true →
    s.invoked command ≤ 1 ∧
      (¬ s.Registered command ∧ ¬ s.BeingSent command → s.invoked command = 1)

instance (s : State) : Decidable s.CompletedOnce :=
  inferInstanceAs (Decidable (∀ command ∈ s.submitted, _))

/-- The step takes from no command of `SendCommand` its only way to its callback, and
gives none a second one: the datagram of a command is sent, a registration puts no
other command out that waits for its answer, and no ACK or time-out takes a command
whose call is still running. -/
def Undisturbed (s : State) : Event → Prop
  | .proceed id sent _ =>
    match s.sending[id]? with
    | some (command, .send_datagram :: _) => command.general = true → sent = true
    | some (command, .add_command :: _) =>
      match s.commands[command.seq_num]? with
      | some (other, _) => other = command ∨ other.general = false ∨ s.BeingSent other
      | none => True
    | _ => True
  | .commands_handle now =>
    ∀ command ∈ s.expired now, command.general = true → ¬ s.BeingSent command
  | e =>
    match s.looked_up e with
    | some (seq, _, _) =>
      match s.commands[seq]? with
      | some (command, _) => command.general = true → ¬ s.BeingSent command
      | none => True
    | none => True

theorem undisturbed_proceed_iff {id : Nat} {sent : Bool} {now : Nat} :
    s.Undisturbed (.proceed id sent now) ↔
      ∀ entry ∈ s.sending[id]?,
        (entry.2.head? = some .send_datagram → entry.1.general = true → sent = true) ∧
        (entry.2.head? = some .add_command → ∀ other ∈ s.commands[entry.1.seq_num]?,
          other.1 = entry.1 ∨ other.1.general = false ∨ s.BeingSent other.1) := by
  simp only [Undisturbed]
  rcases s.sending[id]? with _ | ⟨command, _ | ⟨op, rest⟩⟩
  · simp
  · simp
  · cases op with
    | add_command =>
      rcases hother : s.commands[command.seq_num]? with _ | ⟨other, deadline⟩ <;> simp [hother]
    | _ => simp

theorem undisturbed_looked_up_iff (hproceed : ∀ id sent now, e ≠ .proceed id sent now)
    (hexpire : ∀ now, e ≠ .commands_handle now) :
    s.Undisturbed e ↔
      ∀ looked ∈ s.looked_up e, ∀ entry ∈ s.commands[looked.1]?,
        entry.1.general = true → ¬ s.BeingSent entry.1 := by
  unfold Undisturbed
  split
  · exact absurd rfl (hproceed _ _ _)
  · exact absurd rfl (hexpire _)
  · rcases s.looked_up e with _ | ⟨seq, handle, packet⟩
    · simp
    · rcases hentry : s.commands[seq]? with _ | ⟨command, deadline⟩ <;> simp [hentry]

instance (s : State) (e : Event) : Decidable (s.Undisturbed e) :=
  match e with
  | .proceed _ _ _ => decidable_of_iff _ undisturbed_proceed_iff.symm
  | .commands_handle now =>
    inferInstanceAs (Decidable (∀ command ∈ s.expired now, _ → _))
  | .detected _ _ | .send_command _ _ | .send_other_command _ _ _ | .handler _ _ _
  | .handler_of_type _ _ _ _ =>
    decidable_of_iff _ (undisturbed_looked_up_iff (by simp) (by simp)).symm

/-- The command that is found under a number. -/
theorem Tracked.found (h : s.Tracked) {seq : UInt32} {deadline : Nat}
    (hentry : s.commands[seq]? = some (command, deadline)) :
    seq = command.seq_num ∧ command ∈ s.submitted ∧ s.Registered command := by
  obtain ⟨rfl, hmem⟩ := h.keyed _ _ _ hentry
  exact ⟨rfl, hmem, registered_iff.mpr ⟨deadline, hentry⟩⟩

/-- A registration puts no command of `SendCommand` out that waits for its answer. -/
theorem Tracked.undisturbed_add_command_iff (h : s.Tracked) {running : Command} {rest : List Op}
    {now : Nat} {sent : Bool}
    (hentry : s.sending[running.id]? = some (running, .add_command :: rest)) :
    s.Undisturbed (.proceed running.id sent now) ↔
      ∀ command ∈ s.submitted, command.general = true →
        s.LeavesAlone command (.proceed running.id sent now) := by
  simp only [Undisturbed, LeavesAlone, hentry]
  constructor
  · intro hguard command _ hgeneral hreg hnum
    obtain ⟨deadline, hlookup⟩ := registered_iff.mp hreg
    rw [hnum, hlookup] at hguard
    obtain rfl | hnot | hlive := hguard
    · exact Or.inl rfl
    · rw [hgeneral] at hnot
      cases hnot
    · exact Or.inr hlive
  · intro hguard
    split
    · rename_i other deadline hother
      obtain ⟨hnum, hmem, hreg⟩ := h.found hother
      by_cases hgeneral : other.general = true
      · obtain heq | hlive := hguard other hmem hgeneral hreg hnum
        · exact Or.inl heq.symm
        · exact Or.inr (Or.inr hlive)
      · exact Or.inr (Or.inl (Bool.eq_false_iff.mpr hgeneral))
    · trivial

/-- Nothing is disturbed when each command of `SendCommand` is left alone. -/
theorem Tracked.undisturbed_iff {e : Event} (h : s.Tracked) :
    s.Undisturbed e ↔
      ∀ command ∈ s.submitted, command.general = true → s.LeavesAlone command e := by
  cases e with
  | detected handle dev_type => exact ⟨fun _ _ _ _ => trivial, fun _ => trivial⟩
  | send_command handle cmd_id => exact ⟨fun _ _ _ _ => trivial, fun _ => trivial⟩
  | send_other_command handle cmd_id program => exact ⟨fun _ _ _ _ => trivial, fun _ => trivial⟩
  | proceed id sent now =>
    cases hentry : s.sending[id]? with
    | none => simp [Undisturbed, LeavesAlone, hentry]
    | some entry =>
      obtain ⟨running, ops⟩ := entry
      obtain ⟨rfl, hrunning, _⟩ := h.running _ _ _ hentry
      cases ops with
      | nil => simp [Undisturbed, LeavesAlone, hentry]
      | cons op rest =>
        cases op with
        | send_datagram =>
          simp only [Undisturbed, LeavesAlone, hentry]
          constructor
          · rintro hguard command _ hgeneral rfl
            exact hguard hgeneral
          · exact fun hguard hgeneral => hguard running hrunning hgeneral rfl
        | add_command => exact h.undisturbed_add_command_iff hentry
  | handler handle lidar_port packet | handler_of_type dev_type handle lidar_port packet =>
    simp only [Undisturbed, LeavesAlone]
    generalize s.looked_up _ = looked
    cases looked with
    | none => exact ⟨fun _ _ _ _ => trivial, fun _ => trivial⟩
    | some found =>
      obtain ⟨seq, handle, packet⟩ := found
      simp only
      constructor
      · rintro hguard command _ hgeneral rfl hreg
        obtain ⟨deadline, hlookup⟩ := registered_iff.mp hreg
        rw [hlookup] at hguard
        exact hguard hgeneral
      · intro hguard
        split
        · rename_i command deadline hentry
          obtain ⟨hnum, hmem, hreg⟩ := h.found hentry
          exact fun hgeneral => hguard command hmem hgeneral hnum hreg
        · trivial
  | commands_handle now =>
    constructor
    · exact fun hguard command _ hgeneral hexpired => hguard command hexpired hgeneral
    · intro hguard command hexpired hgeneral
      obtain ⟨deadline, hentry, _⟩ := h.mem_expired_iff.mp hexpired
      exact hguard command (h.found hentry).2.1 hgeneral hexpired

/-- Each command of `SendCommand` has its callback still to come, or has had it. -/
structure Accounted (s : State) : Prop where
  tracked : s.Tracked
  once : ∀ command ∈ s.submitted, command.general = true →
    s.Live command ∧ s.invoked command = 0 ∨ ¬ s.Live command ∧ s.invoked command = 1

theorem Accounted.step {e : Event} (h : s.Accounted) (hguard : s.Undisturbed e)
    (hstep : s.step e = .ok t) : t.Accounted where
  tracked := h.tracked.step hstep
  once := by
    intro command hcommand hgeneral
    by_cases hold : command ∈ s.submitted
    · have halone := h.tracked.undisturbed_iff.mp hguard command hold hgeneral
      obtain ⟨hlive, hinvoked⟩ | ⟨hlive, hgone, hinvoked⟩ :=
        halone.step h.tracked hold hgeneral hstep
      · rw [hlive, hinvoked]
        exact h.once command hold hgeneral
      · obtain ⟨_, hzero⟩ | ⟨hnot, _⟩ := h.once command hold hgeneral
        · exact Or.inr ⟨hgone, by rw [hinvoked, hzero]⟩
        · exact absurd hlive hnot
    · exact Or.inl (new_command_live h.tracked hstep hcommand hgeneral hold)

/-- Each step that disturbs something takes a command's callback away, or calls it
while the command stays. -/
theorem Accounted.breaks {e : Event} (h : s.Accounted) (hguard : ¬ s.Undisturbed e) :
    ∃ t, s.step e = .ok t ∧ ¬ t.Accounted := by
  rw [h.tracked.undisturbed_iff] at hguard
  push Not at hguard
  obtain ⟨command, hcommand, hgeneral, hnot⟩ := hguard
  obtain ⟨t, hstep, hdisturbed⟩ := h.tracked.disturbed hcommand hgeneral hnot
  refine ⟨t, hstep, fun ht => ?_⟩
  have hkept : command ∈ t.submitted := submitted_of_step hstep hcommand
  have hbefore := h.once command hcommand hgeneral
  have hafter := ht.once command hkept hgeneral
  obtain ⟨_, hlive, hinvoked⟩ | ⟨hlive, hgone, hinvoked⟩ := hdisturbed
  · obtain ⟨_, hzero⟩ | ⟨hnone, _⟩ := hafter
    · omega
    · exact hnone hlive
  · obtain ⟨_, hzero⟩ | ⟨hnone, _⟩ := hbefore
    · obtain ⟨hstill, _⟩ | ⟨_, hone⟩ := hafter
      · exact hgone hstill
      · omega
    · exact hnone hlive

theorem Accounted.completed_once (h : s.Accounted) : s.CompletedOnce := by
  intro command hcommand hgeneral
  obtain ⟨hlive, hzero⟩ | ⟨_, hone⟩ := h.once command hcommand hgeneral
  · refine ⟨by omega, ?_⟩
    rintro ⟨hreg, hsent⟩
    exact absurd hlive (not_or.mpr ⟨hreg, hsent⟩)
  · exact ⟨hone.le, fun _ => hone⟩

theorem start_accounted (handlers : List UInt8) : (start handlers).Accounted where
  tracked := start_tracked handlers
  once := by simp [start]

end State

/-- The runs in whose states each command of `SendCommand` has its callback either
still to come or behind it are exactly those whose steps disturb nothing. -/
theorem commands_accounted_iff (handlers : List UInt8) (es : List Event) :
    StatesSatisfy State.step State.Accounted (State.start handlers) es ↔
      StepsSatisfy State.step State.Undisturbed (State.start handlers) es :=
  statesSatisfy_iff_stepsSatisfy (fun _ h => h) (fun _ _ _ h hguard hstep => h.step hguard hstep)
    (fun _ _ h hguard => h.breaks hguard) (State.start_accounted handlers) es

/-- In a run whose steps disturb nothing the commands of `SendCommand` are completed
once in every state. -/
theorem commands_completed_once (handlers : List UInt8) (es : List Event)
    (hsteps : StepsSatisfy State.step State.Undisturbed (State.start handlers) es) :
    StatesSatisfy State.step State.CompletedOnce (State.start handlers) es :=
  ((commands_accounted_iff handlers es).mpr hsteps).mono fun _ h => h.completed_once

/-- A command to a HAP and one to a Mid360; the one is answered, the other times out. -/
def completed_run : List Event :=
  [.detected 1 10, .detected 2 9, .send_command 1 0x0100, .send_command 2 0x0100,
    .proceed 0 true 0, .proceed 1 true 0, .proceed 0 true 1, .proceed 0 true 1, .proceed 1 true 2,
    .handler 1 56000 { seq_num := 2, cmd_id := 0x0100, cmd_type := 1 }, .commands_handle 2000]

theorem commands_completed_once_sample :
    StatesSatisfy State.step State.CompletedOnce (State.start [9, 10]) completed_run :=
  commands_completed_once [9, 10] completed_run (by decide +kernel)

/-- The datagram of a command to a Mid360 is not sent; the command is registered all the
same, and times out later. -/
def failed_run : List Event :=
  [.detected 2 9, .send_command 2 0x0100, .proceed 0 false 0, .proceed 0 true 0,
    .commands_handle 2000]

theorem commands_completed_twice :
    ¬ StatesSatisfy State.step State.CompletedOnce (State.start [9]) failed_run := by
  decide +kernel

end general_command_handler

end livox_lidar
