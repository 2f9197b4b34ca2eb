import Livox.Sdk.Upgrade.Session

open checked execution

namespace livox_lidar

namespace upgrader_lifetime

open general_command_handler (Command)

/-- What the destructor prints when it stops waiting. -/
inductive Report where
  | upgrade_error
  | upgrade_successfully
  deriving DecidableEq, Repr

/-- A call of `FsmEventHandler` that has changed the state: once `SendCommand` has returned for
the commands that it sends it calls the observer, and returns. -/
structure Call where
  start_thread : Bool
  commands : List Command

/-- An upgrader and its destructor: the session with the calls of `FsmEventHandler` that still
run, whether `StartUpgradeLivoxLidar` has been called, what the destructor has reported, and
whether it has returned. Beside it stands the record of the events that were handled, each
with the state that it found. -/
structure State where
  session : upgrade_session.State
  calls : List Call
  handled : List (LivoxLidarFsmState × LivoxLidarFsmEvent)
  started : Bool
  reported : Option Report
  destroyed : Bool

/-- One step of one of the threads: the caller starts the upgrade, the start thread, the command
handler or a response handler goes on, a call of `FsmEventHandler` calls the observer and
returns, the destructor looks at the state, or it joins the start thread and returns. -/
inductive Event where
  | start_upgrade_livox_lidar
  | upgrade (e : upgrade_session.Event)
  | observer (index : Nat)
  | poll
  | join

/-- The call of `FsmEventHandler` that a step of the session makes. -/
def outcome (session : upgrade_session.State) : upgrade_session.Event → Option Outcome
  | .start => some (session.upgrader.fsm_event_handler .kLivoxLidarEventRequestUpgrade 10)
  | .command _ => none
  | .respond index response =>
    session.returned[index]?.map fun entry => session.upgrader.respond entry.1 entry.2 response

namespace State

/-- An upgrader that has been constructed and not yet been started. `UpgradeLivoxLidars` destroys
such upgraders too: those that it has copied into its vector. -/
def construct (firmware : Firmware) (handle : UInt32) (handlers : List UInt8) : State where
  session := .start firmware handle handlers
  calls := []
  handled := []
  started := false
  reported := none
  destroyed := false

/-- `FsmEventHandler` has changed the state, and runs on. -/
def handle (s : State) (session : upgrade_session.State) (outcome : Outcome) (call : Call) :
    State :=
  { s with
    session
    calls := call :: s.calls
    handled := (s.session.upgrader.fsm_state, outcome.observed.state) :: s.handled }

/-- A step of the session, in which only what the command handler does by itself does not
use the upgrader. -/
def upgrade (s : State) (e : upgrade_session.Event) : Checked State := do
  let session ← s.session.step e
  match outcome s.session e with
  | none => .ok { s with session }
  | some outcome =>
    if s.started = false then .error .precondition
    else if s.destroyed then .error .freedStorage
    else
      .ok (s.handle session outcome
        { start_thread := s.session.starting
          commands := (upgrade_session.added s.session.requests session.requests).map Prod.fst })

/-- The end of a call of `FsmEventHandler`. -/
def observer (s : State) (index : Nat) : Checked State :=
  match s.calls[index]? with
  | none => .error .precondition
  | some call =>
    if ∃ command ∈ call.commands, s.session.handler.BeingSent command then .error .precondition
    else if s.destroyed then .error .freedStorage
    else .ok { s with calls := s.calls.eraseIdx index }

/-- One round of the loop of the destructor. -/
def poll (s : State) : Checked State :=
  if s.reported.isSome then .error .precondition
  else if s.session.upgrader.IsUpgradeError then
    .ok { s with reported := some .upgrade_error }
  else if s.session.upgrader.IsUpgradeComplete then
    .ok { s with reported := some .upgrade_successfully }
  else .ok s

/-- The start thread has returned, or there is none. -/
def Joinable (s : State) : Prop :=
  s.started = true → s.session.starting = false ∧ ∀ call ∈ s.calls, call.start_thread = false

instance (s : State) : Decidable s.Joinable := inferInstanceAs (Decidable (_ → _))

/-- The end of the destructor. -/
def join (s : State) : Checked State :=
  if s.reported.isSome ∧ s.destroyed = false ∧ s.Joinable then .ok { s with destroyed := true }
  else .error .precondition

/-- One step. -/
def step (s : State) : Event → Checked State
  | .start_upgrade_livox_lidar =>
    if s.started ∨ s.reported.isSome then .error .precondition else .ok { s with started := true }
  | .upgrade e => s.upgrade e
  | .observer index => s.observer index
  | .poll => s.poll
  | .join => s.join

/-- The upgrade has been taken back to where it began, which is its last step. -/
def Reinitialised (s : State) : Prop :=
  (.kLivoxLidarUpgradeComplete, .kLivoxLidarEventReinit) ∈ s.handled

/-- The start thread has to run, a call of `FsmEventHandler` has to return, a response handler
has to be called, or a request has its callback to come. -/
def Outstanding (s : State) : Prop :=
  (s.started = true ∧ s.session.starting = true) ∨ s.calls ≠ [] ∨ s.session.returned ≠ [] ∨
    ∃ entry ∈ s.session.requests, s.session.handler.Live entry.1

/-- A success is reported of an upgrade that has been started only once that has been taken
back to where it began. -/
def ReportsComplete (s : State) : Prop :=
  s.started = true → s.reported = some .upgrade_successfully → s.Reinitialised

/-- A success is reported where the upgrade is complete, and an upgrader that it is reported
of is not destroyed while a pointer to it is still held. -/
structure ReportsTruly (s : State) : Prop where
  complete : s.ReportsComplete
  destroyed : s.reported = some .upgrade_successfully → s.destroyed = true → ¬ s.Outstanding

instance (s : State) : Decidable s.Reinitialised := inferInstanceAs (Decidable (_ ∈ _))

instance (s : State) : Decidable s.Outstanding := inferInstanceAs (Decidable (_ ∨ _))

instance (s : State) : Decidable s.ReportsComplete := inferInstanceAs (Decidable (_ → _))

instance (s : State) : Decidable s.ReportsTruly :=
  decidable_of_iff
    (s.ReportsComplete ∧
      (s.reported = some .upgrade_successfully → s.destroyed = true → ¬ s.Outstanding))
    ⟨fun h => ⟨h.1, h.2⟩, fun h => ⟨h.1, h.2⟩⟩

/-- The destructor looks at the state of an upgrade only when the start thread has taken it
away from where it began, and, once it has been taken back there, when the response handler
that did so has returned; and no request of it gets a second callback. -/
def Orderly (s : State) : Event → Prop
  | .upgrade e => s.session.CallsOnce e
  | .poll =>
    s.started = true → s.session.starting = false ∧
      (s.Reinitialised → ∀ call ∈ s.calls, call.start_thread = true)
  | _ => True

instance (s : State) (e : Event) : Decidable (s.Orderly e) := by
  unfold Orderly
  split <;> infer_instance

variable {s t : State}

/-- What one step does, and when. -/
inductive Stepped (s : State) : Event → State → Prop where
  | started : s.started = false → s.reported = none →
    Stepped s .start_upgrade_livox_lidar { s with started := true }
  | commands (e : general_command_handler.Event) (session : upgrade_session.State) :
    s.session.step (.command e) = .ok session →
      Stepped s (.upgrade (.command e)) { s with session }
  | begun (session : upgrade_session.State) (outcome : Outcome) (call : Call) :
    s.session.step .start = .ok session →
      outcome = s.session.upgrader.fsm_event_handler .kLivoxLidarEventRequestUpgrade 10 →
      s.session.starting = true → session.starting = false →
      session.upgrader = outcome.upgrader → s.started = true → s.destroyed = false →
      call.start_thread = true → Stepped s (.upgrade .start) (s.handle session outcome call)
  | answered (index : Nat) (response : Response) (request : Request) (status : LivoxLidarStatus)
      (session : upgrade_session.State) (outcome : Outcome) (call : Call) :
    s.session.step (.respond index response) = .ok session →
      s.session.returned[index]? = some (request, status) →
      outcome = s.session.upgrader.respond request status response →
      session.starting = s.session.starting → session.upgrader = outcome.upgrader →
      s.started = true → s.destroyed = false → call.start_thread = s.session.starting →
      Stepped s (.upgrade (.respond index response)) (s.handle session outcome call)
  | observed (index : Nat) : s.destroyed = false →
    Stepped s (.observer index) { s with calls := s.calls.eraseIdx index }
  | failed : s.reported = none → s.session.upgrader.IsUpgradeError →
    Stepped s .poll { s with reported := some .upgrade_error }
  | succeeded : s.reported = none → s.session.upgrader.IsUpgradeComplete →
    Stepped s .poll { s with reported := some .upgrade_successfully }
  | waited : Stepped s .poll s
  | joined : s.reported.isSome → s.destroyed = false → s.Joinable →
    Stepped s .join { s with destroyed := true }

theorem stepped_of_upgrade {e : upgrade_session.Event} (hstep : s.upgrade e = .ok t) :
    s.Stepped (.upgrade e) t := by
  unfold State.upgrade at hstep
  obtain ⟨session, hsession, hnext⟩ := bind_eq_ok_iff.mp hstep
  cases e with
  | start =>
    have hsame := hsession
    simp only [upgrade_session.State.step] at hsame
    split at hsame
    · rename_i hstarting
      cases hsame
      simp only [outcome] at hnext
      split_ifs at hnext with hstarted hdestroyed
      cases hnext
      exact .begun _ _ _ hsession rfl hstarting (by simp) (by simp)
        (Bool.not_eq_false _ ▸ hstarted) (Bool.not_eq_true _ ▸ hdestroyed) hstarting
    · cases hsame
  | command e =>
    simp only [outcome] at hnext
    cases hnext
    exact .commands e session hsession
  | respond index response =>
    have hsame := hsession
    simp only [upgrade_session.State.step] at hsame
    split at hsame
    · cases hsame
    · rename_i request status hreturned
      cases hsame
      simp only [outcome, hreturned, Option.map_some] at hnext
      split_ifs at hnext with hstarted hdestroyed
      cases hnext
      exact .answered _ _ _ _ _ _ _ hsession hreturned rfl (by simp) (by simp)
        (Bool.not_eq_false _ ▸ hstarted) (Bool.not_eq_true _ ▸ hdestroyed) rfl

theorem stepped_of_step {e : Event} (hstep : s.step e = .ok t) : s.Stepped e t := by
  cases e with
  | start_upgrade_livox_lidar =>
    simp only [State.step] at hstep
    split_ifs at hstep with hlate
    cases hstep
    simp only [not_or, Bool.not_eq_true, Option.isSome_eq_false_iff, Option.isNone_iff_eq_none]
      at hlate
    exact .started hlate.1 hlate.2
  | upgrade e => exact stepped_of_upgrade hstep
  | observer index =>
    simp only [State.step, State.observer] at hstep
    split at hstep
    · cases hstep
    · split_ifs at hstep with hsending hdestroyed
      cases hstep
      exact .observed index (Bool.not_eq_true _ ▸ hdestroyed)
  | poll =>
    simp only [State.step, State.poll] at hstep
    split_ifs at hstep with hreported herror hcomplete <;> cases hstep
    all_goals
      simp only [Bool.not_eq_true, Option.isSome_eq_false_iff, Option.isNone_iff_eq_none]
        at hreported
    · exact .failed hreported herror
    · exact .succeeded hreported hcomplete
    · exact .waited
  | join =>
    simp only [State.step, State.join] at hstep
    split_ifs at hstep with hready
    cases hstep
    exact .joined hready.1 hready.2.1 hready.2.2

/-- What holds in every run: an upgrade that has not been started waits for its start thread,
before that has run nothing has been done, after it only the last step takes the upgrade back
to where it began, and the destructor returns after it has reported how the upgrade ended. -/
structure Consistent (s : State) : Prop where
  unstarted : s.started = false → s.session.starting = true
  constructed : s.session.starting = true → s.calls = [] ∧ s.handled = [] ∧
    s.session.requests = [] ∧ s.session.returned = [] ∧
      ∃ firmware handle, s.session.upgrader = .construct firmware handle
  reinitialised : s.session.starting = false → s.session.upgrader.IsUpgradeComplete →
    s.Reinitialised
  joined : s.destroyed = true → s.reported.isSome

theorem construct_consistent (firmware : Firmware) (handle : UInt32) (handlers : List UInt8) :
    (construct firmware handle handlers).Consistent where
  unstarted _ := rfl
  constructed _ := ⟨rfl, rfl, rfl, rfl, firmware, handle, rfl⟩
  reinitialised := nofun
  joined := nofun

/-- The command handler by itself changes nothing of the upgrader. -/
theorem Consistent.commands (h : s.Consistent) {e : general_command_handler.Event}
    {session : upgrade_session.State} (hsession : s.session.step (.command e) = .ok session) :
    ({ s with session } : State).Consistent := by
  simp only [upgrade_session.State.step] at hsession
  obtain ⟨handler, _, hnext⟩ := bind_eq_ok_iff.mp hsession
  cases hnext
  refine ⟨h.unstarted, fun hstarting => ?_, h.reinitialised, h.joined⟩
  obtain ⟨hcalls, hhandled, hrequests, hreturned, hconstruct⟩ := h.constructed hstarting
  refine ⟨hcalls, hhandled, hrequests, ?_, hconstruct⟩
  have hempty : s.session.answers (upgrade_session.added s.session.handler.calls handler.calls) =
      [] := by
    apply upgrade_session.State.answers_eq_nil
    rw [hrequests]
    intro request hrequest
    cases hrequest
  rw [hempty, hreturned]
  rfl

theorem Consistent.step (h : s.Consistent) {e : Event} (hstep : s.step e = .ok t) :
    t.Consistent := by
  cases stepped_of_step hstep with
  | started => exact ⟨nofun, h.constructed, h.reinitialised, h.joined⟩
  | commands e session hsession => exact h.commands hsession
  | begun session outcome call _ houtcome hstarting hrun hupgrader hstarted =>
    refine ⟨fun hnot => ?_, fun hnot => ?_, fun _ hcomplete => ?_, h.joined⟩
    · cases hstarted.symm.trans hnot
    · cases hrun.symm.trans hnot
    · obtain ⟨_, _, _, _, firmware, handle, hconstruct⟩ := h.constructed hstarting
      rw [show (s.handle session outcome call).session.upgrader = outcome.upgrader from hupgrader,
        houtcome, hconstruct, LivoxLidarUpgrader.construct_starts] at hcomplete
      cases hcomplete
  | answered index response request status session outcome call _ hreturned houtcome hsame
      hupgrader hstarted =>
    have hrun : s.session.starting = false := by
      by_contra hnot
      have hnone := (h.constructed (Bool.eq_true_of_not_eq_false hnot)).2.2.2.1
      rw [hnone] at hreturned
      cases hreturned
    refine ⟨fun hnot => ?_, fun hnot => ?_, fun _ hcomplete => ?_, h.joined⟩
    · cases hstarted.symm.trans hnot
    · rw [show session.starting = true from hnot, hrun] at hsame
      cases hsame
    · rw [show (s.handle session outcome call).session.upgrader = outcome.upgrader from hupgrader,
        houtcome] at hcomplete
      obtain hbefore | ⟨hstate, hevent⟩ := LivoxLidarUpgrader.complete_of_respond hcomplete
      · exact List.mem_cons_of_mem _ (h.reinitialised hrun hbefore)
      · rw [Reinitialised, handle, hstate, houtcome, hevent]
        exact List.mem_cons_self
  | observed index =>
    refine ⟨h.unstarted, fun hstarting => ?_, h.reinitialised, h.joined⟩
    obtain ⟨hcalls, hrest⟩ := h.constructed hstarting
    exact ⟨by rw [hcalls]; rfl, hrest⟩
  | failed | succeeded => exact ⟨h.unstarted, h.constructed, h.reinitialised, fun _ => rfl⟩
  | waited => exact h
  | joined hreported => exact ⟨h.unstarted, h.constructed, h.reinitialised, fun _ => hreported⟩

/-- What holds beside it in the orderly runs: what is still to come of an upgrade that a
success has been reported of is the end of its start thread. -/
structure Sound (s : State) : Prop extends s.Consistent where
  held : s.session.Held
  silent : s.started = true → s.reported = some .upgrade_successfully →
    s.session.Silent ∧ s.Reinitialised ∧ ∀ call ∈ s.calls, call.start_thread = true
  released : s.reported = some .upgrade_successfully → s.destroyed = true → s.calls = []

theorem construct_sound (firmware : Firmware) (handle : UInt32) (handlers : List UInt8) :
    (construct firmware handle handlers).Sound where
  toConsistent := construct_consistent firmware handle handlers
  held := Or.inl (upgrade_session.State.start_sound firmware handle handlers)
  silent := nofun
  released := nofun

theorem Sound.step (h : s.Sound) {e : Event} (hguard : s.Orderly e) (hstep : s.step e = .ok t) :
    t.Sound := by
  have hconsistent := h.toConsistent.step hstep
  cases stepped_of_step hstep with
  | started _ hnone =>
    refine ⟨hconsistent, h.held, fun _ hreported => ?_, h.released⟩
    cases hnone.symm.trans hreported
  | commands e session hsession =>
    refine ⟨hconsistent, h.held.step (e := .command e) hguard hsession,
      fun hstarted hreported => ?_, h.released⟩
    obtain ⟨hsilent, hrest⟩ := h.silent hstarted hreported
    exact ⟨(hsilent.step hsession).1, hrest⟩
  | begun session outcome call hsession _ hstarting _ _ hstarted hnot =>
    refine ⟨hconsistent, h.held.step (e := .start) trivial hsession,
      fun _ hreported => ?_, fun _ hdestroyed => ?_⟩
    · have hrun := (h.silent hstarted hreported).1.started
      rw [hstarting] at hrun
      cases hrun
    · cases hnot.symm.trans hdestroyed
  | answered index response request status session outcome call hsession hreturned _ _ _ hstarted
      hnot =>
    refine ⟨hconsistent, h.held.step (e := .respond index response) trivial hsession,
      fun _ hreported => ?_, fun _ hdestroyed => ?_⟩
    · have hnone := (h.silent hstarted hreported).1.returned
      rw [hnone] at hreturned
      cases hreturned
    · cases hnot.symm.trans hdestroyed
  | observed index hnot =>
    refine ⟨hconsistent, h.held, fun hstarted hreported => ?_, fun _ hdestroyed => ?_⟩
    · obtain ⟨hsilent, hreinit, hcalls⟩ := h.silent hstarted hreported
      exact ⟨hsilent, hreinit, fun call hcall => hcalls call (List.mem_of_mem_eraseIdx hcall)⟩
    · cases hnot.symm.trans hdestroyed
  | failed => exact ⟨hconsistent, h.held, nofun, nofun⟩
  | succeeded hnone hcomplete =>
    refine ⟨hconsistent, h.held, fun hstarted _ => ?_, fun _ hdestroyed => ?_⟩
    · obtain ⟨hrun, hreturned⟩ := hguard hstarted
      have hreinit := h.reinitialised hrun hcomplete
      exact ⟨h.held.silent hrun hcomplete, hreinit, hreturned hreinit⟩
    · have hreported := h.joined hdestroyed
      rw [hnone] at hreported
      cases hreported
  | waited => exact h
  | joined _ _ hjoinable =>
    refine ⟨hconsistent, h.held, h.silent, fun hreported _ => ?_⟩
    cases hstarted : s.started with
    | false => exact (h.constructed (h.unstarted hstarted)).1
    | true =>
      obtain ⟨_, _, hthread⟩ := h.silent hstarted hreported
      rw [List.eq_nil_iff_forall_not_mem]
      intro call hcall
      have hother := (hjoinable hstarted).2 call hcall
      rw [hthread call hcall] at hother
      cases hother

theorem Sound.reportsTruly (h : s.Sound) : s.ReportsTruly where
  complete hstarted hreported := (h.silent hstarted hreported).2.1
  destroyed hreported hdestroyed := by
    have hcalls := h.released hreported hdestroyed
    cases hstarted : s.started with
    | false =>
      obtain ⟨_, _, hrequests, hreturned, _⟩ := h.constructed (h.unstarted hstarted)
      simp [Outstanding, hstarted, hcalls, hrequests, hreturned]
    | true =>
      obtain ⟨hsilent, _⟩ := h.silent hstarted hreported
      rintro (⟨_, hstarting⟩ | hcall | hreturned | ⟨entry, hentry, hlive⟩)
      · rw [hsilent.started] at hstarting
        cases hstarting
      · exact hcall hcalls
      · exact hreturned hsilent.returned
      · exact hsilent.quiet entry hentry hlive

section Complete

/-- The destructor looks at the state of an upgrade only when the start thread has taken it
away from where it began. -/
def PollsBegun (s : State) : Event → Prop
  | .poll => s.started = true → s.session.starting = false
  | _ => True

/-- Nothing has been reported of an upgrade that has been started and not yet begun. -/
def Unreported (s : State) : Prop :=
  s.started = true → s.session.starting = true → s.reported = none

/-- What holds in the runs without such a look. -/
structure Truthful (s : State) : Prop extends s.Consistent where
  complete : s.ReportsComplete
  unreported : s.Unreported

theorem construct_truthful (firmware : Firmware) (handle : UInt32) (handlers : List UInt8) :
    (construct firmware handle handlers).Truthful where
  toConsistent := construct_consistent firmware handle handlers
  complete := nofun
  unreported := nofun

theorem Truthful.step (h : s.Truthful) {e : Event} (hguard : s.PollsBegun e)
    (hstep : s.step e = .ok t) : t.Truthful := by
  have hconsistent := h.toConsistent.step hstep
  have hcomplete := h.complete
  have hunreported := h.unreported
  cases stepped_of_step hstep with
  | started _ hnone =>
    refine ⟨hconsistent, fun _ hreported => ?_, fun _ _ => hnone⟩
    cases hnone.symm.trans hreported
  | commands e session hsession =>
    simp only [upgrade_session.State.step] at hsession
    obtain ⟨handler, _, hnext⟩ := bind_eq_ok_iff.mp hsession
    cases hnext
    exact ⟨hconsistent, hcomplete, hunreported⟩
  | begun session outcome call _ _ _ hrun =>
    refine ⟨hconsistent,
      fun hstarted hreported => List.mem_cons_of_mem _ (hcomplete hstarted hreported),
      fun _ hstarting => ?_⟩
    cases hrun.symm.trans hstarting
  | answered index response request status session outcome call _ _ _ hsame =>
    refine ⟨hconsistent,
      fun hstarted hreported => List.mem_cons_of_mem _ (hcomplete hstarted hreported),
      fun hstarted hstarting => hunreported hstarted ?_⟩
    rw [← hsame]
    exact hstarting
  | failed hnone =>
    refine ⟨hconsistent, fun _ hreported => ?_, fun hstarted hstarting => ?_⟩
    · cases hreported
    · cases (hguard hstarted).symm.trans hstarting
  | succeeded hnone hidle =>
    refine ⟨hconsistent, fun hstarted _ => h.reinitialised (hguard hstarted) hidle,
      fun hstarted hstarting => ?_⟩
    cases (hguard hstarted).symm.trans hstarting
  | observed | waited | joined => exact ⟨hconsistent, hcomplete, hunreported⟩

/-- A look at the state before the start thread has run takes the upgrade for complete. -/
theorem Truthful.reports_too_early (h : s.Truthful) {e : Event} (hguard : ¬ s.PollsBegun e) :
    ∃ t, s.step e = .ok t ∧ ¬ t.ReportsComplete := by
  cases e with
  | poll =>
    simp only [PollsBegun] at hguard
    push Not at hguard
    obtain ⟨hstarted, hstarting⟩ := hguard
    rw [Bool.ne_false_iff] at hstarting
    have hnone := h.unreported hstarted hstarting
    obtain ⟨_, hhandled, _, _, firmware, handle, hconstruct⟩ := h.constructed hstarting
    have hcomplete : s.session.upgrader.IsUpgradeComplete := by
      rw [hconstruct]
      rfl
    have herror : ¬ s.session.upgrader.IsUpgradeError := by
      rw [hconstruct]
      simp [LivoxLidarUpgrader.IsUpgradeError, LivoxLidarUpgrader.construct]
    refine ⟨{ s with reported := some .upgrade_successfully }, ?_, fun hreports => ?_⟩
    · simp [State.step, State.poll, hnone, hcomplete, herror]
    · have hreinit := hreports hstarted rfl
      rw [Reinitialised, show _ = ([] : List _) from hhandled] at hreinit
      cases hreinit
  | start_upgrade_livox_lidar | upgrade | observer | join => exact absurd trivial hguard

end Complete

end State

/-- In the runs in which the destructor does not look too early, and in no others, every
success that is reported is one. -/
theorem complete_reported_iff (firmware : Firmware) (handle : UInt32) (handlers : List UInt8)
    (es : List Event) :
    StatesSatisfy State.step State.ReportsComplete (State.construct firmware handle handlers) es ↔
      StepsSatisfy State.step State.PollsBegun (State.construct firmware handle handlers) es :=
  statesSatisfy_iff_stepsSatisfy (fun _ h => h.complete)
    (fun _ _ _ h hguard hstep => h.step hguard hstep) (fun _ _ h hguard => h.reports_too_early hguard)
    (State.construct_truthful firmware handle handlers) es

/-- In the orderly runs a success is reported only of an upgrade that has done its last step,
and the upgrader outlives its start thread and its requests. -/
theorem upgrade_reported_truly (firmware : Firmware) (handle : UInt32) (handlers : List UInt8)
    (es : List Event)
    (horderly : StepsSatisfy State.step State.Orderly (State.construct firmware handle handlers)
      es) :
    StatesSatisfy State.step State.ReportsTruly (State.construct firmware handle handlers) es :=
  (StepsSatisfy.invariant (fun _ _ _ h hguard hstep => h.step hguard hstep)
    (State.construct_sound firmware handle handlers) horderly).mono fun _ h => h.reportsTruly

/-- A request with its answer: the command is sent and registered, `FsmEventHandler` returns,
the ACK comes in, and its response handler runs. -/
def exchange (id : Nat) (seq : UInt32) (progress : UInt8) : List Event :=
  [.upgrade (.command (.proceed id true 0)), .upgrade (.command (.proceed id true 0)), .observer 0,
    .upgrade (.command (.handler 2 56100 ⟨seq, 0, kCommandTypeAck⟩)),
    .upgrade (.respond 0 ⟨0, progress⟩)]

/-- The upgrade of a firmware of one byte up to its last response handler, with a look at the
state after its first answer. -/
def small_upgrade : List Event :=
  [.upgrade (.command (.detected 2 9)), .start_upgrade_livox_lidar, .upgrade .start] ++
    exchange 0 2 0 ++ [.poll] ++ exchange 1 3 0 ++ exchange 2 4 0 ++ exchange 3 5 100 ++
      exchange 4 6 0

theorem upgrade_reported_truly_small :
    (exec State.step (State.construct upgrade_session.small_firmware 2 [9])
        (small_upgrade ++ [.observer 0, .poll, .join])).toOption.map
          (fun s => (s.reported, s.destroyed)) = some (some .upgrade_successfully, true) ∧
      StatesSatisfy State.step State.ReportsTruly
        (State.construct upgrade_session.small_firmware 2 [9])
        (small_upgrade ++ [.observer 0, .poll, .join]) :=
  ⟨by decide +kernel, upgrade_reported_truly _ _ _ _ (by decide +kernel)⟩

/-- The last response handler has still to call the observer when the upgrade is complete. -/
example : ¬ StatesSatisfy State.step State.ReportsTruly
    (State.construct upgrade_session.small_firmware 2 [9]) (small_upgrade ++ [.poll, .join]) := by
  decide +kernel

/-- The destructor looks at the state before the start thread has run. -/
def early_poll : List Event :=
  [.upgrade (.command (.detected 2 9)), .start_upgrade_livox_lidar, .poll, .upgrade .start,
    .upgrade (.command (.proceed 0 true 0)), .upgrade (.command (.proceed 0 true 0)), .observer 0,
    .join]

/-- It takes an upgrade that has not begun for one that has ended, and the upgrader is gone
while its request waits for an answer. -/
theorem early_poll_not_truly :
    ¬ StatesSatisfy State.step State.ReportsTruly
        (State.construct upgrade_session.small_firmware 2 [9]) early_poll ∧
      (exec State.step (State.construct upgrade_session.small_firmware 2 [9])
        early_poll).toOption.map (fun s => (s.reported, s.destroyed, decide s.Outstanding)) =
          some (some .upgrade_successfully, true, true) := by
  constructor <;> decide +kernel

end upgrader_lifetime

end livox_lidar
