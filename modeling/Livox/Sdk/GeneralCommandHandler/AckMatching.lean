import Livox.Sdk.GeneralCommandHandler.Completion

open checked execution ordered_map

namespace livox_lidar

namespace general_command_handler

/-- The packet is the ACK of the command: it comes from the device that the command was
sent to, for the same function and with the same number. -/
def Command.AnsweredBy (command : Command) (handle : UInt32) (packet : Packet) : Prop :=
  handle = command.handle ∧ packet.cmd_id = command.cmd_id ∧ packet.seq_num = command.seq_num

instance (command : Command) (handle : UInt32) (packet : Packet) :
    Decidable (command.AnsweredBy handle packet) :=
  inferInstanceAs (Decidable (_ ∧ _ ∧ _))

/-- A callback with success has the ACK of its command. -/
def Callback.Answered (call : Callback) : Prop :=
  call.status = .kLivoxLidarStatusSuccess →
    match call.answer with
    | some (handle, packet) => call.command.AnsweredBy handle packet
    | none => False

instance (call : Callback) : Decidable call.Answered := by
  unfold Callback.Answered
  split <;> infer_instance

namespace State

variable {s t : State} {e : Event}

/-- Every callback with success so far was called for the ACK of its command. -/
def AnswersMatch (s : State) : Prop := ∀ call ∈ s.calls, call.Answered

instance (s : State) : Decidable s.AnswersMatch := inferInstanceAs (Decidable (∀ call ∈ _, _))

/-- A received packet leaves the commands registered whose ACK it is not. -/
def LeavesOthers (s : State) : Event → Prop
  | .handler handle lidar_port packet =>
    ∀ t, s.step (.handler handle lidar_port packet) = .ok t → ∀ command,
      s.Registered command → ¬ command.AnsweredBy handle packet → t.Registered command
  | .handler_of_type dev_type handle lidar_port packet =>
    ∀ t, s.step (.handler_of_type dev_type handle lidar_port packet) = .ok t → ∀ command,
      s.Registered command → ¬ command.AnsweredBy handle packet → t.Registered command
  | _ => True

/-- The command that is registered with the number which is looked up for a packet, when
there is one, is the one that the packet answers. -/
def Matched (s : State) (e : Event) : Prop :=
  match s.looked_up e with
  | some (seq, handle, packet) =>
    match s.commands[seq]? with
    | some (command, _) => command.AnsweredBy handle packet
    | none => True
  | none => True

theorem matched_iff : s.Matched e ↔
    ∀ looked ∈ s.looked_up e, ∀ entry ∈ s.commands[looked.1]?,
      entry.1.AnsweredBy looked.2.1 looked.2.2 := by
  unfold Matched
  rcases s.looked_up e with _ | ⟨seq, handle, packet⟩
  · simp
  · rcases hentry : s.commands[seq]? with _ | ⟨command, deadline⟩ <;> simp [hentry]

instance (s : State) (e : Event) : Decidable (s.Matched e) :=
  decidable_of_iff _ matched_iff.symm

/-- The callbacks that a step calls: none, one of another status, or the one of the
command that has been looked up for a packet. -/
theorem step_calls (hstep : s.step e = .ok t) : ∀ call ∈ t.calls,
    call ∈ s.calls ∨ call.status ≠ .kLivoxLidarStatusSuccess ∨
      ∃ seq handle packet deadline, s.looked_up e = some (seq, handle, packet) ∧
        s.commands[seq]? = some (call.command, deadline) ∧ call.answer = some (handle, packet) := by
  intro call hcall
  cases stepped_of_step hstep with
  | failed =>
    obtain rfl | hold := List.mem_cons.mp hcall
    · exact Or.inr (Or.inl (by simp))
    · exact Or.inl hold
  | acknowledged _ seq handle packet command deadline hlooked hentry =>
    obtain rfl | hold := List.mem_cons.mp hcall
    · exact Or.inr (Or.inr ⟨seq, handle, packet, deadline, hlooked, hentry, rfl⟩)
    · exact Or.inl hold
  | timed_out now =>
    rw [commands_handle, foldl_call] at hcall
    obtain hnew | hold := List.mem_append.mp hcall
    · rw [List.mem_reverse, List.mem_map] at hnew
      obtain ⟨command, _, rfl⟩ := hnew
      exact Or.inr (Or.inl (by simp))
    · exact Or.inl hold
  | _ => exact Or.inl hcall

theorem AnswersMatch.step (h : s.AnswersMatch) (hguard : s.Matched e) (hstep : s.step e = .ok t) :
    t.AnswersMatch := by
  intro call hcall hsuccess
  obtain hold | hother | ⟨seq, handle, packet, deadline, hlooked, hentry, hanswer⟩ :=
    step_calls hstep call hcall
  · exact h call hold hsuccess
  · exact absurd hsuccess hother
  · rw [hanswer]
    simpa only [Matched, hlooked, hentry] using hguard

theorem AnswersMatch.breaks (hguard : ¬ s.Matched e) :
    ∃ t, s.step e = .ok t ∧ ¬ t.AnswersMatch := by
  unfold Matched at hguard
  split at hguard
  · rename_i seq handle packet hlooked
    split at hguard
    · rename_i command deadline hentry
      refine ⟨_, step_found hlooked hentry, fun h => hguard ?_⟩
      exact h ⟨command, .kLivoxLidarStatusSuccess, some (handle, packet)⟩ List.mem_cons_self rfl
    · exact absurd trivial hguard
  · exact absurd trivial hguard

/-- The handle and the packet of what is looked up are those that were received. -/
theorem looked_up_handler {handle : UInt32} {lidar_port : UInt16} {packet : Packet}
    {found : UInt32 × UInt32 × Packet}
    (h : s.looked_up (.handler handle lidar_port packet) = some found) :
    found.2 = (handle, packet) := by
  simp only [looked_up] at h
  repeat' split at h
  all_goals cases h
  rfl

theorem looked_up_handler_of_type {dev_type : UInt8} {handle : UInt32} {lidar_port : UInt16}
    {packet : Packet} {found : UInt32 × UInt32 × Packet}
    (h : s.looked_up (.handler_of_type dev_type handle lidar_port packet) = some found) :
    found.2 = (handle, packet) := by
  simp only [looked_up] at h
  repeat' split at h
  all_goals cases h
  rfl

/-- A packet takes out no other command than the one that is looked up for it. -/
theorem Matched.registered {seq handle : UInt32} {packet : Packet} {found command : Command}
    {deadline : Nat} (hguard : s.Matched e)
    (hlooked : s.looked_up e = some (seq, handle, packet))
    (hentry : s.commands[seq]? = some (found, deadline)) (hreg : s.Registered command)
    (hnot : ¬ command.AnsweredBy handle packet) :
    ({ s with commands := s.commands.erase seq }.call found .kLivoxLidarStatusSuccess
      (some (handle, packet))).Registered command := by
  simp only [Matched, hlooked, hentry] at hguard
  by_cases hnum : seq = command.seq_num
  · subst hnum
    rw [Registered, hentry] at hreg
    cases hreg
    exact absurd hguard hnot
  · simp only [Registered, call, lookup_erase, if_neg hnum]
    exact hreg

theorem Matched.leaves_others (hguard : s.Matched e) : s.LeavesOthers e := by
  cases e with
  | handler handle lidar_port packet =>
    intro t hstep command hreg hnot
    cases stepped_of_step hstep with
    | unmatched => exact hreg
    | acknowledged _ seq _ _ found deadline hlooked hentry =>
      cases looked_up_handler hlooked
      exact hguard.registered hlooked hentry hreg hnot
  | handler_of_type dev_type handle lidar_port packet =>
    intro t hstep command hreg hnot
    cases stepped_of_step hstep with
    | unmatched => exact hreg
    | acknowledged _ seq _ _ found deadline hlooked hentry =>
      cases looked_up_handler_of_type hlooked
      exact hguard.registered hlooked hentry hreg hnot
  | _ => exact trivial

end State

/-- The runs in which an ACK completes only the command that it answers are exactly
those in which the command looked up for it is always that one. -/
theorem acks_complete_own_iff (handlers : List UInt8) (es : List Event) :
    StatesSatisfy State.step State.AnswersMatch (State.start handlers) es ∧
        StepsSatisfy State.step State.LeavesOthers (State.start handlers) es ↔
      StepsSatisfy State.step State.Matched (State.start handlers) es := by
  have hstates : StatesSatisfy State.step State.AnswersMatch (State.start handlers) es ↔
      StepsSatisfy State.step State.Matched (State.start handlers) es :=
    statesSatisfy_iff_stepsSatisfy (fun _ h => h)
      (fun _ _ _ h hguard hstep => h.step hguard hstep)
      (fun _ _ _ hguard => State.AnswersMatch.breaks hguard)
      (fun call hcall => by cases hcall) es
  constructor
  · exact fun h => hstates.mp h.1
  · exact fun h => ⟨hstates.mpr h, h.mono fun _ _ => State.Matched.leaves_others⟩

/-- A command to one Mid360, and the ACK of another device for another function with the
number of the command. -/
def foreign_run : List Event :=
  [.detected 2 9, .send_command 2 0x0100, .proceed 0 true 0, .proceed 0 true 0,
    .handler_of_type 9 3 56100 { seq_num := 2, cmd_id := 0x0102, cmd_type := 1 }]

theorem foreign_ack_completes :
    ¬ StatesSatisfy State.step State.AnswersMatch (State.start [9]) foreign_run := by
  decide +kernel

end general_command_handler

end livox_lidar
