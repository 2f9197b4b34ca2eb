import Livox.Sdk.GeneralCommandHandler

open checked execution ordered_map

namespace livox_lidar

namespace general_command_handler

namespace State

variable {s t : State} {command : Command}

/-- The command waits in `commands_`. -/
def Registered (s : State) (command : Command) : Prop :=
  (s.commands[command.seq_num]?).map Prod.fst = some command

/-- The call that sends the command is still running. -/
def BeingSent (s : State) (command : Command) : Prop :=
  (s.sending[command.id]?).map Prod.fst = some command

def Live (s : State) (command : Command) : Prop :=
  s.Registered command ∨ s.BeingSent command

/-- How often the callback of the command has been called. -/
def invoked (s : State) (command : Command) : Nat :=
  s.calls.countP fun call => call.command = command

instance : Decidable (s.Registered command) := inferInstanceAs (Decidable (_ = _))

instance : Decidable (s.BeingSent command) := inferInstanceAs (Decidable (_ = _))

instance : Decidable (s.Live command) := inferInstanceAs (Decidable (_ ∨ _))

theorem registered_iff :
    s.Registered command ↔
      ∃ deadline, s.commands[command.seq_num]? = some (command, deadline) := by
  unfold Registered
  rw [Option.map_eq_some_iff]
  constructor
  · rintro ⟨⟨_, deadline⟩, hentry, rfl⟩
    exact ⟨deadline, hentry⟩
  · rintro ⟨deadline, hentry⟩
    exact ⟨_, hentry, rfl⟩

theorem beingSent_of_running {ops : List Op} (hentry : s.sending[command.id]? = some (command, ops)) :
    s.BeingSent command := by
  rw [BeingSent, hentry]
  rfl

/-- The step takes from the command neither its only way to its callback, nor does it give
it a second one: its datagram is sent, a registration does not put it out while it waits for
its answer, and no ACK or time-out takes it while its call is still running. -/
def LeavesAlone (s : State) (command : Command) : Event → Prop
  | .proceed id sent _ =>
    match s.sending[id]? with
    | some (running, .send_datagram :: _) => running = command → sent = true
    | some (running, .add_command :: _) =>
      s.Registered command → running.seq_num = command.seq_num →
        running = command ∨ s.BeingSent command
    | _ => True
  | .commands_handle now => command ∈ s.expired now → ¬ s.BeingSent command
  | e =>
    match s.looked_up e with
    | some (seq, _, _) => seq = command.seq_num → s.Registered command → ¬ s.BeingSent command
    | none => True

/-- What the maps and the records of the state say of each other. -/
structure Tracked (s : State) : Prop where
  keyed : ∀ key command deadline, s.commands[key]? = some (command, deadline) →
    key = command.seq_num ∧ command ∈ s.submitted
  running : ∀ id command ops, s.sending[id]? = some (command, ops) →
    id = command.id ∧ command ∈ s.submitted ∧
      (command.general = true → ∃ front, ops = front ++ [.add_command])
  fresh : ∀ command ∈ s.submitted, command.id < s.submitted.length
  distinct : ∀ command ∈ s.submitted, ∀ other ∈ s.submitted, command.id = other.id →
    command = other
  called : ∀ call ∈ s.calls, call.command ∈ s.submitted

theorem start_tracked (handlers : List UInt8) : (start handlers).Tracked where
  keyed := by simp [start]
  running := by simp [start]
  fresh := by simp [start]
  distinct := by simp [start]
  called := by simp [start]

/-- What one step does, and when: a device is detected, a command is refused or submitted,
a running call registers its command, or sends it, or fails to, a packet completes no
command or one, the timer runs. -/
inductive Stepped (s : State) : Event → State → Prop where
  | detected (handle : UInt32) (dev_type : UInt8) :
    Stepped s (.detected handle dev_type) (s.detect handle dev_type)
  | refused (handle : UInt32) (cmd_id : UInt16) :
    s.device_dev_type[handle]?.bind s.get_lidar_command_handler = none →
      Stepped s (.send_command handle cmd_id) { s with seq := s.get_seq }
  | submitted (handle : UInt32) (cmd_id : UInt16) (type : HandlerType) :
    s.device_dev_type[handle]?.bind s.get_lidar_command_handler = some type →
      Stepped s (.send_command handle cmd_id) (s.submit handle cmd_id true type.program)
  | other_submitted (handle : UInt32) (cmd_id : UInt16) (program : List Op) :
    Stepped s (.send_other_command handle cmd_id program) (s.submit handle cmd_id false program)
  | registered (id now : Nat) (sent : Bool) (command : Command) (rest : List Op) :
    s.sending[id]? = some (command, .add_command :: rest) →
      Stepped s (.proceed id sent now) ((s.advance id command rest).add_command command now)
  | sent (id now : Nat) (command : Command) (rest : List Op) :
    s.sending[id]? = some (command, .send_datagram :: rest) →
      Stepped s (.proceed id true now) (s.advance id command rest)
  | failed (id now : Nat) (command : Command) (rest : List Op) :
    s.sending[id]? = some (command, .send_datagram :: rest) →
      Stepped s (.proceed id false now)
        ((s.advance id command rest).call command .kLivoxLidarStatusSendFailed none)
  | unmatched (e : Event) :
    (∀ seq handle packet, s.looked_up e = some (seq, handle, packet) → s.commands[seq]? = none) →
      Stepped s e s
  | acknowledged (e : Event) (seq handle : UInt32) (packet : Packet) (command : Command)
      (deadline : Nat) :
    s.looked_up e = some (seq, handle, packet) → s.commands[seq]? = some (command, deadline) →
      Stepped s e ({ s with commands := s.commands.erase seq }.call command
        .kLivoxLidarStatusSuccess (some (handle, packet)))
  | timed_out (now : Nat) : Stepped s (.commands_handle now) (s.commands_handle now)

theorem stepped_of_proceed {id now : Nat} {sent : Bool} (hstep : s.proceed id sent now = .ok t) :
    s.Stepped (.proceed id sent now) t := by
  unfold proceed at hstep
  split at hstep
  · cases hstep
  · cases hstep
  · rename_i command op rest hentry
    cases op with
    | add_command =>
      cases hstep
      exact .registered id now sent command rest hentry
    | send_datagram =>
      cases sent with
      | true =>
        cases hstep
        exact .sent id now command rest hentry
      | false =>
        cases hstep
        exact .failed id now command rest hentry

theorem stepped_of_step {e : Event} (hstep : s.step e = .ok t) : s.Stepped e t := by
  cases e with
  | detected handle dev_type =>
    cases hstep
    exact .detected handle dev_type
  | send_command handle cmd_id =>
    cases hstep
    unfold State.send_command
    split
    · exact .refused handle cmd_id ‹_›
    · exact .submitted handle cmd_id _ ‹_›
  | send_other_command handle cmd_id program =>
    cases hstep
    exact .other_submitted handle cmd_id program
  | proceed id sent now => exact stepped_of_proceed hstep
  | handler handle lidar_port packet | handler_of_type dev_type handle lidar_port packet =>
    simp only [State.step] at hstep
    split at hstep
    · rename_i hnone
      cases hstep
      refine .unmatched _ fun seq handle packet hlooked => ?_
      rw [hnone] at hlooked
      cases hlooked
    · rename_i seq handle packet hlooked
      cases hstep
      unfold acknowledge
      split
      · rename_i hnone
        refine .unmatched _ fun seq' handle' packet' hlooked' => ?_
        rw [hlooked] at hlooked'
        cases hlooked'
        exact hnone
      · exact .acknowledged _ seq handle packet _ _ hlooked ‹_›
  | commands_handle now =>
    cases hstep
    exact .timed_out now

/-- What a step does with a packet for which a command is found. -/
theorem step_found {e : Event} {seq handle : UInt32} {packet : Packet} {deadline : Nat}
    (hlooked : s.looked_up e = some (seq, handle, packet))
    (hentry : s.commands[seq]? = some (command, deadline)) :
    s.step e = .ok ({ s with commands := s.commands.erase seq }.call command
      .kLivoxLidarStatusSuccess (some (handle, packet))) := by
  cases e with
  | handler handle lidar_port packet | handler_of_type dev_type handle lidar_port packet =>
    simp only [step, hlooked, acknowledge, hentry]
  | _ => cases hlooked

/-- A packet leaves a command alone that it does not take out while its call is running. -/
theorem leavesAlone_iff {e : Event} {seq handle : UInt32} {packet : Packet}
    (hlooked : s.looked_up e = some (seq, handle, packet)) :
    s.LeavesAlone command e ↔
      (seq = command.seq_num → s.Registered command → ¬ s.BeingSent command) := by
  cases e with
  | handler handle lidar_port packet | handler_of_type dev_type handle lidar_port packet =>
    simp only [LeavesAlone, hlooked]
  | _ => cases hlooked

section Calls

theorem invoked_call (s : State) (command other : Command) (status : LivoxLidarStatus)
    (answer : Option (UInt32 × Packet)) :
    (s.call other status answer).invoked command =
      s.invoked command + if other = command then 1 else 0 := by
  simp [invoked, call, List.countP_cons]

/-- A row of callbacks changes the record of the callbacks only. -/
theorem foldl_call (status : LivoxLidarStatus) (row : List Command) (s : State) :
    row.foldl (fun s command => s.call command status none) s =
      { s with calls := (row.map fun command => ⟨command, status, none⟩).reverse ++ s.calls } := by
  induction row generalizing s with
  | nil => rfl
  | cons command row ih =>
    rw [List.foldl_cons, ih]
    simp [call]

theorem invoked_foldl_call (status : LivoxLidarStatus) (row : List Command) (s : State)
    (command : Command) :
    (row.foldl (fun s command => s.call command status none) s).invoked command =
      s.invoked command + row.count command := by
  induction row generalizing s with
  | nil => rfl
  | cons other row ih =>
    rw [List.foldl_cons, ih, invoked_call, List.count_cons]
    simp only [beq_iff_eq]
    omega

end Calls

/-- The commands that have timed out are those that are registered with a deadline
that has passed, each once. -/
theorem Tracked.mem_expired_iff (h : s.Tracked) {now : Nat} :
    command ∈ s.expired now ↔
      ∃ deadline, s.commands[command.seq_num]? = some (command, deadline) ∧ deadline < now := by
  simp only [expired, List.mem_map, List.mem_filter, decide_eq_true_eq, Prod.exists,
    Std.TreeMap.mem_toList_iff_getElem?_eq_some]
  constructor
  · rintro ⟨key, other, deadline, ⟨hentry, hlate⟩, rfl⟩
    obtain ⟨rfl, _⟩ := h.keyed key _ _ hentry
    exact ⟨deadline, hentry, hlate⟩
  · rintro ⟨deadline, hentry, hlate⟩
    exact ⟨_, _, deadline, ⟨hentry, hlate⟩, rfl⟩

theorem Tracked.nodup_expired (h : s.Tracked) (now : Nat) : (s.expired now).Nodup := by
  have hkeys : (s.commands.toList.map Prod.fst).Nodup := by
    rw [Std.TreeMap.map_fst_toList_eq_keys]
    exact Std.TreeMap.nodup_keys
  rw [expired]
  apply List.Nodup.map_on
  · rintro ⟨key, command, deadline⟩ hentry ⟨key', command', deadline'⟩ hentry' heq
    rw [List.mem_filter] at hentry hentry'
    simp only at heq
    subst heq
    have hfirst := Std.TreeMap.mem_toList_iff_getElem?_eq_some.mp hentry.1
    have hsecond := Std.TreeMap.mem_toList_iff_getElem?_eq_some.mp hentry'.1
    obtain ⟨rfl, _⟩ := h.keyed _ _ _ hfirst
    obtain ⟨rfl, _⟩ := h.keyed _ _ _ hsecond
    rw [hfirst] at hsecond
    cases hsecond
    rfl
  · exact (List.Nodup.of_map _ hkeys).filter _

/-- The step leaves the command as it is: in its place or out of it, with the
callbacks that it has had. -/
def Keeps (s t : State) (command : Command) : Prop :=
  (t.Live command ↔ s.Live command) ∧ t.invoked command = s.invoked command

/-- The step takes the command out and calls its callback. -/
def Completes (s t : State) (command : Command) : Prop :=
  s.Live command ∧ ¬ t.Live command ∧ t.invoked command = s.invoked command + 1

section Submit

theorem submit_tracked (h : s.Tracked) (handle : UInt32) (cmd_id : UInt16) {general : Bool}
    {program : List Op} (hprogram : general = true → ∃ front, program = front ++ [.add_command]) :
    (s.submit handle cmd_id general program).Tracked where
  keyed := by
    intro key command deadline hentry
    obtain ⟨hkey, hmem⟩ := h.keyed key command deadline hentry
    exact ⟨hkey, List.mem_cons_of_mem _ hmem⟩
  running := by
    intro id command ops hentry
    simp only [submit] at hentry ⊢
    split at hentry
    · obtain ⟨hid, hmem, hops⟩ := h.running id command ops hentry
      exact ⟨hid, List.mem_cons_of_mem _ hmem, hops⟩
    · rw [lookup_insert] at hentry
      split at hentry
      · rename_i hid
        cases hentry
        exact ⟨hid.symm, List.mem_cons_self, hprogram⟩
      · obtain ⟨hid, hmem, hops⟩ := h.running id command ops hentry
        exact ⟨hid, List.mem_cons_of_mem _ hmem, hops⟩
  fresh := by
    intro command hcommand
    simp only [submit, List.mem_cons, List.length_cons] at hcommand ⊢
    obtain rfl | hold := hcommand
    · exact Nat.lt_succ_self _
    · exact (h.fresh command hold).trans (Nat.lt_succ_self _)
  distinct := by
    intro command hcommand other hother hid
    simp only [submit, List.mem_cons] at hcommand hother
    obtain rfl | hcommand := hcommand <;> obtain rfl | hother := hother
    · rfl
    · exact absurd hid (h.fresh other hother).ne'
    · exact absurd hid (h.fresh command hcommand).ne
    · exact h.distinct command hcommand other hother hid
  called := fun call hcall => List.mem_cons_of_mem _ (h.called call hcall)

/-- A command that was there before a new one came. -/
theorem submit_keeps (h : s.Tracked) (handle : UInt32) (cmd_id : UInt16) (general : Bool)
    (program : List Op) (hcommand : command ∈ s.submitted) :
    s.Keeps (s.submit handle cmd_id general program) command := by
  have hid : s.submitted.length ≠ command.id := (h.fresh command hcommand).ne'
  refine ⟨or_congr Iff.rfl ?_, rfl⟩
  unfold BeingSent submit
  split
  · exact Iff.rfl
  · simp only [lookup_insert, if_neg hid]

/-- A new command that has something to do. -/
theorem submit_live (h : s.Tracked) (handle : UInt32) (cmd_id : UInt16) (general : Bool)
    {program : List Op} (hprogram : program ≠ [])
    (hcommand : command ∈ (s.submit handle cmd_id general program).submitted)
    (hnew : command ∉ s.submitted) :
    (s.submit handle cmd_id general program).Live command ∧
      (s.submit handle cmd_id general program).invoked command = 0 := by
  obtain rfl | hold := List.mem_cons.mp hcommand
  · refine ⟨Or.inr ?_, ?_⟩
    · simp [BeingSent, submit, hprogram]
    · apply List.countP_eq_zero.mpr
      intro call hcall
      rw [decide_eq_true_eq]
      rintro heq
      exact hnew (heq ▸ h.called call hcall)
  · exact absurd hold hnew

end Submit

section Proceed

/-- The calls that run on beside a step of one of them. -/
theorem advance_other {id : Nat} {rest : List Op} {running : Command} (hid : id ≠ command.id) :
    (s.advance id running rest).BeingSent command ↔ s.BeingSent command := by
  unfold BeingSent advance
  split
  · simp only [lookup_erase, if_neg hid]
  · simp only [lookup_insert, if_neg hid]

theorem Tracked.advance {id : Nat} {op : Op} {rest : List Op} (h : s.Tracked)
    (hentry : s.sending[id]? = some (command, op :: rest)) :
    (s.advance id command rest).Tracked where
  keyed := h.keyed
  fresh := h.fresh
  distinct := h.distinct
  called := h.called
  running := by
    obtain ⟨rfl, hmem, hops⟩ := h.running _ _ _ hentry
    intro other running ops hother
    unfold State.advance at hother
    by_cases hid : command.id = other
    · subst hid
      simp only at hother
      split at hother
      · simp at hother
      · rename_i hrest
        rw [lookup_insert, if_pos rfl] at hother
        cases hother
        refine ⟨rfl, hmem, fun hgeneral => ?_⟩
        obtain ⟨front, hfront⟩ := hops hgeneral
        cases front with
        | nil => exact absurd (List.cons.inj hfront).2 hrest
        | cons first front => exact ⟨front, (List.cons.inj hfront).2⟩
    · simp only at hother
      split at hother
      · rw [lookup_erase, if_neg hid] at hother
        exact h.running _ _ _ hother
      · rw [lookup_insert, if_neg hid] at hother
        exact h.running _ _ _ hother

theorem Tracked.add_command (h : s.Tracked) (hcommand : command ∈ s.submitted) (now : Nat) :
    (s.add_command command now).Tracked where
  running := h.running
  fresh := h.fresh
  distinct := h.distinct
  called := h.called
  keyed := by
    intro key other deadline hentry
    rw [State.add_command, lookup_insert] at hentry
    split at hentry
    · rename_i hkey
      cases hentry
      exact ⟨hkey.symm, hcommand⟩
    · exact h.keyed key other deadline hentry

theorem Tracked.call (h : s.Tracked) (hcommand : command ∈ s.submitted)
    (status : LivoxLidarStatus) (answer : Option (UInt32 × Packet)) :
    (s.call command status answer).Tracked where
  keyed := h.keyed
  running := h.running
  fresh := h.fresh
  distinct := h.distinct
  called := by
    intro call hcall
    obtain rfl | hold := List.mem_cons.mp hcall
    · exact hcommand
    · exact h.called call hold

/-- A registration keeps the other commands, where none is put out that waits for its
answer. -/
theorem add_command_keeps (h : s.Tracked) {running : Command} {rest : List Op}
    (hentry : s.sending[running.id]? = some (running, .add_command :: rest)) {now : Nat}
    {sent : Bool} (hguard : s.LeavesAlone command (.proceed running.id sent now))
    (hcommand : command ∈ s.submitted) :
    s.Keeps ((s.advance running.id running rest).add_command running now) command := by
  simp only [LeavesAlone, hentry] at hguard
  refine ⟨?_, rfl⟩
  by_cases hsame : command = running
  · -- the command that is registered
    subst hsame
    refine ⟨fun _ => Or.inr (beingSent_of_running hentry), fun _ => Or.inl ?_⟩
    simp [Registered, State.add_command]
  · have hid : running.id ≠ command.id := fun hid =>
      hsame (h.distinct command hcommand running (h.running _ _ _ hentry).2.1 hid.symm)
    have hsent := @advance_other s command _ rest running hid
    by_cases hnum : running.seq_num = command.seq_num
    · -- one with its number, which it puts out
      have hout : ¬ ((s.advance running.id running rest).add_command running now).Registered
          command := by
        simp only [Registered, State.add_command, lookup_insert, if_pos hnum, Option.map_some,
          Option.some.injEq]
        exact Ne.symm hsame
      have hlive : s.Registered command → s.BeingSent command := by
        intro hreg
        obtain heq | hlive := hguard hreg hnum
        · exact absurd heq.symm hsame
        · exact hlive
      constructor
      · rintro (hreg | hbeing)
        · exact absurd hreg hout
        · exact Or.inr (hsent.mp hbeing)
      · rintro (hreg | hbeing)
        · exact Or.inr (hsent.mpr (hlive hreg))
        · exact Or.inr (hsent.mpr hbeing)
    · refine or_congr ?_ hsent
      simp only [Registered, State.add_command, lookup_insert, if_neg hnum]
      exact Iff.rfl

/-- After its datagram a call of `SendCommand` has still to register the command. -/
theorem send_datagram_live (h : s.Tracked) {running : Command} {rest : List Op}
    (hentry : s.sending[running.id]? = some (running, .send_datagram :: rest))
    (hcommand : command ∈ s.submitted) (hgeneral : command.general = true) :
    (s.advance running.id running rest).Live command ↔ s.Live command := by
  obtain ⟨_, hrunning, hops⟩ := h.running _ _ _ hentry
  refine or_congr Iff.rfl ?_
  by_cases hsame : command = running
  · subst hsame
    obtain ⟨front, hfront⟩ := hops hgeneral
    have hrest : rest ≠ [] := by
      rintro rfl
      cases front with
      | nil => cases hfront
      | cons first front => simp at hfront
    refine ⟨fun _ => beingSent_of_running hentry, fun _ => ?_⟩
    simp [BeingSent, State.advance, hrest]
  · exact advance_other fun hid => hsame (h.distinct command hcommand running hrunning hid.symm)

end Proceed

section Answers

theorem Tracked.acknowledged (h : s.Tracked) {seq : UInt32} {deadline : Nat}
    (hentry : s.commands[seq]? = some (command, deadline)) (status : LivoxLidarStatus)
    (answer : Option (UInt32 × Packet)) :
    ({ s with commands := s.commands.erase seq }.call command status answer).Tracked := by
  have hkept : ({ s with commands := s.commands.erase seq } : State).Tracked :=
    { h with
      keyed := by
        intro key other deadline hother
        simp only [lookup_erase] at hother
        split at hother
        · cases hother
        · exact h.keyed key other deadline hother }
  exact hkept.call (h.keyed _ _ _ hentry).2 status answer

/-- An ACK completes the command that it finds, and no other. -/
theorem acknowledged_effect (h : s.Tracked) {seq : UInt32} {found : Command} {deadline : Nat}
    (hentry : s.commands[seq]? = some (found, deadline)) (status : LivoxLidarStatus)
    (answer : Option (UInt32 × Packet))
    (hguard : seq = command.seq_num → s.Registered command → ¬ s.BeingSent command) :
    s.Keeps ({ s with commands := s.commands.erase seq }.call found status answer) command ∨
      s.Completes ({ s with commands := s.commands.erase seq }.call found status answer)
        command := by
  obtain ⟨rfl, _⟩ := h.keyed _ _ _ hentry
  by_cases hsame : found = command
  · subst hsame
    have hreg : s.Registered found := registered_iff.mpr ⟨deadline, hentry⟩
    right
    refine ⟨Or.inl hreg, ?_, ?_⟩
    · rintro (hstill | hbeing)
      · simp [Registered, call] at hstill
      · exact hguard rfl hreg hbeing
    · rw [invoked_call, if_pos rfl]
      rfl
  · left
    refine ⟨or_congr ?_ Iff.rfl, ?_⟩
    · simp only [Registered, call, lookup_erase]
      split
      · rename_i hnum
        rw [← hnum, hentry]
        simp [hsame]
      · exact Iff.rfl
    · rw [invoked_call, if_neg hsame]
      rfl

theorem Tracked.commands_handle (h : s.Tracked) (now : Nat) : (s.commands_handle now).Tracked := by
  unfold State.commands_handle
  rw [foldl_call]
  refine ⟨?_, h.running, h.fresh, h.distinct, ?_⟩
  · intro key command deadline hentry
    rw [Std.TreeMap.getElem?_filter'] at hentry
    exact h.keyed key command deadline (Option.filter_eq_some_iff.mp hentry).1
  · intro call hcall
    obtain hnew | hold := List.mem_append.mp hcall
    · rw [List.mem_reverse, List.mem_map] at hnew
      obtain ⟨command, hcommand, rfl⟩ := hnew
      obtain ⟨deadline, hentry, _⟩ := h.mem_expired_iff.mp hcommand
      exact (h.keyed _ _ _ hentry).2
    · exact h.called call hold

/-- The timer completes the commands whose deadline has passed, and no other. -/
theorem commands_handle_effect (h : s.Tracked) {now : Nat}
    (hguard : s.LeavesAlone command (.commands_handle now)) :
    s.Keeps (s.commands_handle now) command ∨ s.Completes (s.commands_handle now) command := by
  have hcount : (s.commands_handle now).invoked command =
      s.invoked command + (s.expired now).count command := invoked_foldl_call ..
  have hsending : (s.commands_handle now).BeingSent command ↔ s.BeingSent command := by
    unfold commands_handle
    rw [foldl_call]
    exact Iff.rfl
  have hlookup : (s.commands_handle now).commands[command.seq_num]? =
      (s.commands[command.seq_num]?).filter fun entry => ¬ entry.2 < now := by
    unfold commands_handle
    rw [foldl_call, Std.TreeMap.getElem?_filter']
  by_cases hexpired : command ∈ s.expired now
  · obtain ⟨deadline, hentry, hlate⟩ := h.mem_expired_iff.mp hexpired
    right
    refine ⟨Or.inl (registered_iff.mpr ⟨deadline, hentry⟩), ?_, ?_⟩
    · rintro (hreg | hbeing)
      · rw [Registered, hlookup, hentry] at hreg
        simp only [Option.filter_some, not_lt, decide_eq_true_eq, not_le.mpr hlate, if_false] at hreg
        cases hreg
      · exact hguard hexpired (hsending.mp hbeing)
    · rw [hcount, List.count_eq_one_of_mem (h.nodup_expired now) hexpired]
  · left
    refine ⟨or_congr ?_ hsending, ?_⟩
    · rw [Registered, Registered, hlookup]
      cases hentry : s.commands[command.seq_num]? with
      | none => rfl
      | some entry =>
        obtain ⟨other, deadline⟩ := entry
        by_cases hlate : deadline < now
        · have hne : other ≠ command := by
            rintro rfl
            exact hexpired (h.mem_expired_iff.mpr ⟨deadline, hentry, hlate⟩)
          simp [hne]
        · simp only [Option.filter_some, hlate, not_false_eq_true, decide_true, if_true]
    · rw [hcount, List.count_eq_zero_of_not_mem hexpired]
      rfl

end Answers

section Step

theorem Tracked.step {e : Event} (h : s.Tracked) (hstep : s.step e = .ok t) : t.Tracked := by
  cases stepped_of_step hstep with
  | detected | refused => exact ⟨h.keyed, h.running, h.fresh, h.distinct, h.called⟩
  | submitted handle cmd_id type => exact submit_tracked h handle cmd_id fun _ => ⟨_, rfl⟩
  | other_submitted handle cmd_id program =>
    exact submit_tracked h handle cmd_id fun hgeneral => by cases hgeneral
  | registered id now sent command rest hentry =>
    exact (h.advance hentry).add_command (h.running _ _ _ hentry).2.1 now
  | sent id now command rest hentry => exact h.advance hentry
  | failed id now command rest hentry =>
    exact (h.advance hentry).call (h.running _ _ _ hentry).2.1 _ _
  | unmatched => exact h
  | acknowledged _ seq handle packet command deadline _ hentry =>
    exact h.acknowledged hentry _ _
  | timed_out now => exact h.commands_handle now

/-- No step forgets a command. -/
theorem submitted_of_step {e : Event} (hstep : s.step e = .ok t) (hcommand : command ∈ s.submitted) :
    command ∈ t.submitted := by
  cases stepped_of_step hstep with
  | submitted | other_submitted => exact List.mem_cons_of_mem _ hcommand
  | timed_out now =>
    rw [commands_handle, foldl_call]
    exact hcommand
  | _ => exact hcommand

/-- A new command of `SendCommand` waits for its callback. -/
theorem new_command_live {e : Event} (h : s.Tracked) (hstep : s.step e = .ok t)
    (hcommand : command ∈ t.submitted) (hgeneral : command.general = true)
    (hnew : command ∉ s.submitted) : t.Live command ∧ t.invoked command = 0 := by
  cases stepped_of_step hstep with
  | submitted handle cmd_id type =>
    exact submit_live h handle cmd_id true (by simp [HandlerType.program]) hcommand hnew
  | other_submitted handle cmd_id program =>
    obtain rfl | hold := List.mem_cons.mp hcommand
    · cases hgeneral
    · exact absurd hold hnew
  | timed_out now =>
    rw [commands_handle, foldl_call] at hcommand
    exact absurd hcommand hnew
  | _ => exact absurd hcommand hnew

/-- The record of the callbacks only grows. -/
theorem calls_of_step {e : Event} (hstep : s.step e = .ok t) : s.calls <:+ t.calls := by
  cases stepped_of_step hstep with
  | failed | acknowledged => exact List.suffix_cons _ _
  | timed_out now =>
    rw [commands_handle, foldl_call]
    exact List.suffix_append _ _
  | _ => exact List.suffix_rfl

/-- A step that leaves a command alone lets it keep its place, or completes it. -/
theorem LeavesAlone.step {e : Event} (hguard : s.LeavesAlone command e) (h : s.Tracked)
    (hcommand : command ∈ s.submitted) (hgeneral : command.general = true)
    (hstep : s.step e = .ok t) : s.Keeps t command ∨ s.Completes t command := by
  cases stepped_of_step hstep with
  | detected | refused | unmatched => exact Or.inl ⟨Iff.rfl, rfl⟩
  | submitted handle cmd_id type =>
    exact Or.inl (submit_keeps h handle cmd_id true type.program hcommand)
  | other_submitted handle cmd_id program =>
    exact Or.inl (submit_keeps h handle cmd_id false program hcommand)
  | registered id now sent running rest hentry =>
    obtain ⟨rfl, _⟩ := h.running _ _ _ hentry
    exact Or.inl (add_command_keeps h hentry hguard hcommand)
  | sent id now running rest hentry =>
    obtain ⟨rfl, _⟩ := h.running _ _ _ hentry
    exact Or.inl ⟨send_datagram_live h hentry hcommand hgeneral, rfl⟩
  | failed id now running rest hentry =>
    obtain ⟨rfl, _⟩ := h.running _ _ _ hentry
    simp only [LeavesAlone, hentry] at hguard
    have hne : running ≠ command := fun hsame => by cases hguard hsame
    refine Or.inl ⟨send_datagram_live h hentry hcommand hgeneral, ?_⟩
    rw [invoked_call, if_neg hne]
    rfl
  | acknowledged _ seq handle packet found deadline hlooked hentry =>
    exact acknowledged_effect h hentry _ _ ((leavesAlone_iff hlooked).mp hguard)
  | timed_out now => exact commands_handle_effect h hguard

/-- The step calls the callback of the command, which stays. -/
def Doubles (s t : State) (command : Command) : Prop :=
  s.Live command ∧ t.Live command ∧ t.invoked command = s.invoked command + 1

/-- The step takes the command out without its callback. -/
def Drops (s t : State) (command : Command) : Prop :=
  s.Live command ∧ ¬ t.Live command ∧ t.invoked command = s.invoked command

/-- A step that does not leave a command alone calls its callback too early, or takes it
away. -/
theorem Tracked.disturbed {e : Event} (h : s.Tracked) (hcommand : command ∈ s.submitted)
    (hgeneral : command.general = true) (hguard : ¬ s.LeavesAlone command e) :
    ∃ t, s.step e = .ok t ∧ (s.Doubles t command ∨ s.Drops t command) := by
  cases e with
  | detected handle dev_type => exact absurd trivial hguard
  | send_command handle cmd_id => exact absurd trivial hguard
  | send_other_command handle cmd_id program => exact absurd trivial hguard
  | proceed id sent now =>
    simp only [LeavesAlone] at hguard
    split at hguard
    · rename_i running rest hentry
      push Not at hguard
      obtain ⟨rfl, hfailed⟩ := hguard
      obtain ⟨rfl, _⟩ := h.running _ _ _ hentry
      obtain rfl : sent = false := Bool.eq_false_iff.mpr hfailed
      refine ⟨(s.advance running.id running rest).call running .kLivoxLidarStatusSendFailed none,
        by simp [State.step, proceed, hentry], Or.inl ?_⟩
      have hlive : s.Live running := Or.inr (beingSent_of_running hentry)
      refine ⟨hlive, (send_datagram_live h hentry hcommand hgeneral).mpr hlive, ?_⟩
      rw [invoked_call, if_pos rfl]
      rfl
    · rename_i running rest hentry
      push Not at hguard
      obtain ⟨hreg, hnum, hne, hsent⟩ := hguard
      obtain ⟨rfl, hrunning, _⟩ := h.running _ _ _ hentry
      have hid : running.id ≠ command.id := fun hid =>
        hne (h.distinct running hrunning command hcommand hid)
      refine ⟨(s.advance running.id running rest).add_command running now,
        by simp [State.step, proceed, hentry], Or.inr ⟨Or.inl hreg, ?_, rfl⟩⟩
      rintro (hstill | hbeing)
      · simp only [Registered, State.add_command, lookup_insert, if_pos hnum, Option.map_some,
          Option.some.injEq] at hstill
        exact hne hstill
      · exact hsent ((advance_other hid).mp hbeing)
    · exact absurd trivial hguard
  | handler handle lidar_port packet | handler_of_type dev_type handle lidar_port packet =>
    simp only [LeavesAlone] at hguard
    split at hguard
    · rename_i seq handle packet hlooked
      push Not at hguard
      obtain ⟨rfl, hreg, hsent⟩ := hguard
      obtain ⟨deadline, hentry⟩ := registered_iff.mp hreg
      refine ⟨_, step_found hlooked hentry, Or.inl ⟨Or.inl hreg, Or.inr hsent, ?_⟩⟩
      rw [invoked_call, if_pos rfl]
      rfl
    · exact absurd trivial hguard
  | commands_handle now =>
    simp only [LeavesAlone] at hguard
    push Not at hguard
    obtain ⟨hexpired, hsent⟩ := hguard
    refine ⟨s.commands_handle now, rfl, Or.inl ⟨Or.inr hsent, Or.inr ?_, ?_⟩⟩
    · unfold State.commands_handle
      rw [foldl_call]
      exact hsent
    · rw [State.commands_handle, invoked_foldl_call,
        List.count_eq_one_of_mem (h.nodup_expired now) hexpired]
      rfl

/-- The step does not call the callback of the command while it is still to come: its datagram
is sent, and no ACK or time-out takes it while its call is still running. -/
def CallsOnce (s : State) (command : Command) : Event → Prop
  | .proceed id sent _ =>
    match s.sending[id]? with
    | some (running, .send_datagram :: _) => running = command → sent = true
    | _ => True
  | .commands_handle now => command ∈ s.expired now → ¬ s.BeingSent command
  | e =>
    match s.looked_up e with
    | some (seq, _, _) => seq = command.seq_num → s.Registered command → ¬ s.BeingSent command
    | none => True

instance (s : State) (command : Command) (e : Event) : Decidable (s.CallsOnce command e) := by
  unfold CallsOnce
  repeat' split
  all_goals infer_instance

/-- Beside a second callback only a registration disturbs a command. -/
theorem CallsOnce.registers {e : Event} (hguard : s.CallsOnce command e)
    (hnot : ¬ s.LeavesAlone command e) :
    ∃ id sent now running rest, e = .proceed id sent now ∧
      s.sending[id]? = some (running, .add_command :: rest) := by
  cases e with
  | proceed id sent now =>
    simp only [LeavesAlone, CallsOnce] at hnot hguard
    split at hnot
    · rename_i running rest hentry
      simp only [hentry] at hguard
      exact absurd hguard hnot
    · exact ⟨id, sent, now, _, _, rfl, ‹_›⟩
    · exact absurd trivial hnot
  | detected | send_command | send_other_command | handler | handler_of_type | commands_handle =>
    exact absurd hguard hnot

/-- A step that calls no callback too early loses the command where it disturbs it. -/
theorem CallsOnce.drops {e : Event} (hguard : s.CallsOnce command e) (h : s.Tracked)
    (hcommand : command ∈ s.submitted) (hgeneral : command.general = true)
    (hnot : ¬ s.LeavesAlone command e) : ∃ t, s.step e = .ok t ∧ s.Drops t command := by
  obtain ⟨t, hstep, ⟨_, _, htwice⟩ | hdrops⟩ := h.disturbed hcommand hgeneral hnot
  · obtain ⟨id, sent, now, running, rest, rfl, hentry⟩ := hguard.registers hnot
    simp only [State.step, proceed, hentry, Except.ok.injEq] at hstep
    subst hstep
    exact absurd htwice (Nat.lt_succ_self _).ne
  · exact ⟨t, hstep, hdrops⟩

end Step

section Known

/-- The SDK has a handler for the device. -/
def Known (s : State) (handle : UInt32) : Prop :=
  (s.device_dev_type[handle]?.bind s.get_lidar_command_handler).isSome

theorem known_iff {handle : UInt32} :
    s.Known handle ↔ ∃ dev_type, s.device_dev_type[handle]? = some dev_type ∧
      dev_type ∈ s.lidars_command_handler ∧ (handler_type dev_type).isSome := by
  unfold Known get_lidar_command_handler
  cases s.device_dev_type[handle]? with
  | none => simp
  | some dev_type =>
    simp only [Option.bind_some, Option.some.injEq, exists_eq_left']
    split <;> simp [*]

theorem Known.detect {handle : UInt32} (h : s.Known handle) (detected : UInt32)
    (dev_type : UInt8) : (s.detect detected dev_type).Known handle := by
  obtain ⟨known, hlookup, hmem, hsome⟩ := known_iff.mp h
  refine known_iff.mpr ⟨known, ?_, ?_, hsome⟩
  · simp only [State.detect, Std.TreeMap.getElem?_insertIfNew]
    rw [if_neg]
    · exact hlookup
    · rintro ⟨heq, hnew⟩
      obtain rfl := Std.LawfulEqCmp.eq_of_compare heq
      exact hnew (mem_iff_lookup.mpr ⟨known, hlookup⟩)
  · simp only [State.detect]
    split
    · exact hmem
    · split
      · exact List.mem_cons_of_mem _ hmem
      · exact hmem

/-- A device that is known stays known. -/
theorem Known.step {e : Event} {handle : UInt32} (h : s.Known handle) (hstep : s.step e = .ok t) :
    t.Known handle := by
  cases stepped_of_step hstep with
  | detected detected dev_type => exact h.detect detected dev_type
  | timed_out now =>
    rw [commands_handle, foldl_call]
    exact h
  | _ => exact h

/-- `SendCommand` for a device that is known: a new command is live, beside those that
were. -/
theorem Known.send_command {handle : UInt32} (hknown : s.Known handle) (h : s.Tracked)
    (cmd_id : UInt16) :
    ∃ command : Command,
      (s.send_command handle cmd_id).submitted = command :: s.submitted ∧
        command.general = true ∧ command ∉ s.submitted ∧
        (s.send_command handle cmd_id).Tracked ∧ (s.send_command handle cmd_id).Known handle ∧
        (s.send_command handle cmd_id).Live command ∧
        ∀ other ∈ s.submitted, (s.send_command handle cmd_id).Live other ↔ s.Live other := by
  obtain ⟨type, htype⟩ := Option.isSome_iff_exists.mp hknown
  have hsend : s.send_command handle cmd_id = s.submit handle cmd_id true type.program := by
    rw [State.send_command, htype]
  let command : Command :=
    { id := s.submitted.length, seq_num := s.get_seq, cmd_id, handle, time_out := KDefaultTimeOut,
      general := true }
  have hnew : command ∉ s.submitted := fun hmem => lt_irrefl _ (h.fresh command hmem)
  rw [hsend]
  refine ⟨command, rfl, rfl, hnew, submit_tracked h handle cmd_id fun _ => ⟨_, rfl⟩, hknown, ?_, ?_⟩
  · exact (submit_live h handle cmd_id true (by simp [HandlerType.program]) List.mem_cons_self
      hnew).1
  · exact fun other hother => (submit_keeps h handle cmd_id true type.program hother).1

/-- For another device nothing is left of the command. -/
theorem send_command_unknown {handle : UInt32} (h : ¬ s.Known handle) (cmd_id : UInt16) :
    s.send_command handle cmd_id = { s with seq := s.get_seq } := by
  rw [State.send_command, Option.not_isSome_iff_eq_none.mp h]

end Known

end State

end general_command_handler

end livox_lidar
