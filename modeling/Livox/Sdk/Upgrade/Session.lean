import Livox.Sdk.GeneralCommandHandler.Commands
import Livox.Sdk.Upgrade.Responses

open checked execution ordered_map

namespace livox_lidar

namespace upgrade_session

open general_command_handler (Command)

/-- The upgrader above the command handler that its requests go through: whether its start
thread has still to run, its requests with the commands that they were sent as, and the
answers whose response handlers are running. -/
structure State where
  handler : general_command_handler.State
  upgrader : LivoxLidarUpgrader
  starting : Bool
  requests : List (Command × Request)
  returned : List (Request × LivoxLidarStatus)

/-- One step of one of the threads: of the start thread, of the command handler with all the
commands of the SDK, or of a response handler. -/
inductive Event where
  | start
  | command (e : general_command_handler.Event)
  | respond (index : Nat) (response : Response)

/-- What a record has more than before; the newest entries come first. -/
def added {α : Type} (before after : List α) : List α := after.take (after.length - before.length)

namespace State

/-- After `StartUpgradeLivoxLidar`, in an SDK that has just been initialised. -/
def start (firmware : Firmware) (handle : UInt32) (handlers : List UInt8) : State where
  handler := .start handlers
  upgrader := .construct firmware handle
  starting := true
  requests := []
  returned := []

/-- What an event of the upgrader leaves, with its request handed to `SendCommand`. -/
def make (s : State) (outcome : Outcome) : State :=
  match outcome.request with
  | none => { s with upgrader := outcome.upgrader }
  | some request =>
    let handler := s.handler.send_command outcome.upgrader.handle request.command_id
    { s with
      handler
      upgrader := outcome.upgrader
      requests :=
        (added s.handler.submitted handler.submitted).map (fun command => (command, request)) ++
          s.requests }

@[simp] theorem make_upgrader (s : State) (outcome : Outcome) :
    (s.make outcome).upgrader = outcome.upgrader := by
  unfold make
  split <;> rfl

@[simp] theorem make_starting (s : State) (outcome : Outcome) :
    (s.make outcome).starting = s.starting := by
  unfold make
  split <;> rfl

/-- The callbacks among the calls that belong to requests of the upgrader. -/
def answers (s : State) (calls : List general_command_handler.Callback) :
    List (Request × LivoxLidarStatus) :=
  calls.filterMap fun call =>
    (s.requests.lookup call.command).map fun request => (request, call.status)

/-- One step. -/
def step (s : State) : Event → Checked State
  | .start =>
    if s.starting then
      .ok ({ s with starting := false }.make
        (s.upgrader.fsm_event_handler .kLivoxLidarEventRequestUpgrade 10))
    else .error .precondition
  | .command e => do
    let handler ← s.handler.step e
    .ok { s with
      handler
      returned := s.answers (added s.handler.calls handler.calls) ++ s.returned }
  | .respond index response =>
    match s.returned[index]? with
    | none => .error .precondition
    | some (request, status) =>
      .ok ({ s with returned := s.returned.eraseIdx index }.make
        (s.upgrader.respond request status response))

/-- How many steps are to come that call back into the upgrader: its start thread, the
response handlers that are running, and its requests with a callback to come. -/
def outstanding (s : State) : Nat :=
  (if s.starting then 1 else 0) + s.returned.length +
    s.requests.countP fun entry => s.handler.Live entry.1

/-- The upgrade has come to an end, or just one step is to come that calls back into it. -/
def Progressing (s : State) : Prop :=
  s.upgrader.IsUpgradeComplete ∨ s.upgrader.IsUpgradeError ∨ s.outstanding = 1

instance (s : State) : Decidable s.Progressing := inferInstanceAs (Decidable (_ ∨ _ ∨ _))

/-- The step does not take the upgrader's next callback away, and does not give it a second
one: it is started for a device that the SDK knows, the requests that it waits for are left
alone, and a firmware that the device lets be started has something to transfer. -/
def Unobstructed (s : State) : Event → Prop
  | .start => s.starting = true → s.handler.Known s.upgrader.handle
  | .command e => ∀ entry ∈ s.requests, s.handler.LeavesAlone entry.1 e
  | .respond index response =>
    ∀ entry ∈ s.returned[index]?, ¬ s.upgrader.Stalls entry.1 entry.2 response

variable {s t : State}

/-- No request of the upgrader has its callback to come. -/
def Quiet (s : State) : Prop := ∀ entry ∈ s.requests, ¬ s.handler.Live entry.1

/-- Where an upgrade stands: before its start, with one request that waits for its callback,
with one response handler that is running, or at its end. -/
inductive Phase (s : State) : Prop where
  | starting (firmware : Firmware) (handle : UInt32) :
    s.starting = true → s.requests = [] → s.returned = [] →
      s.upgrader = .construct firmware handle → Phase s
  | waiting (command : Command) (request : Request) :
    s.starting = false → s.returned = [] → s.upgrader.Awaits request →
      s.handler.Known s.upgrader.handle → (command, request) ∈ s.requests →
      s.handler.Live command →
      (∀ entry ∈ s.requests, s.handler.Live entry.1 → entry = (command, request)) → Phase s
  | running (request : Request) (status : LivoxLidarStatus) :
    s.starting = false → s.returned = [(request, status)] → s.upgrader.Awaits request →
      s.handler.Known s.upgrader.handle → s.Quiet → Phase s
  | ended :
    s.starting = false → s.returned = [] →
      s.upgrader.IsUpgradeComplete ∨ s.upgrader.IsUpgradeError → s.Quiet → Phase s

/-- The requests of the upgrader are commands that have been submitted, each its own. -/
structure Requested (s : State) : Prop where
  tracked : s.handler.Tracked
  submitted : ∀ entry ∈ s.requests, entry.1 ∈ s.handler.submitted ∧ entry.1.general = true
  distinct : (s.requests.map Prod.fst).Nodup

structure Sound (s : State) : Prop extends s.Requested where
  phase : s.Phase

/-- No step is to come that calls back into the upgrader. -/
structure Silent (s : State) : Prop extends s.Requested where
  started : s.starting = false
  returned : s.returned = []
  quiet : s.Quiet

/-- The upgrader waits for nothing, and has not come to its end. -/
structure Stuck (s : State) : Prop extends s.Silent where
  running : ¬ s.upgrader.IsUpgradeComplete ∧ ¬ s.upgrader.IsUpgradeError

/-- Before the start thread has run the upgrade is as it was constructed. -/
theorem Sound.before_start (h : s.Sound) (hstarting : s.starting = true) :
    s.requests = [] ∧ s.returned = [] ∧
      ∃ firmware handle, s.upgrader = .construct firmware handle := by
  cases h.phase with
  | starting firmware handle _ hnone hreturned hupgrader =>
    exact ⟨hnone, hreturned, firmware, handle, hupgrader⟩
  | waiting _ _ hnot | running _ _ hnot | ended hnot =>
    rw [hstarting] at hnot
    cases hnot

/-- A response handler that is running is the only one, and no request waits beside it. -/
theorem Sound.responding (h : s.Sound) {index : Nat} {request : Request}
    {status : LivoxLidarStatus} (hreturned : s.returned[index]? = some (request, status)) :
    s.starting = false ∧ s.returned.eraseIdx index = [] ∧ s.upgrader.Awaits request ∧
      s.handler.Known s.upgrader.handle ∧ s.Quiet := by
  cases h.phase with
  | running waiting answer hstarting hone hawaits hknown hquiet =>
    rw [hone] at hreturned ⊢
    obtain rfl : index = 0 := by
      have hless := (List.getElem?_eq_some_iff.mp hreturned).1
      simpa using hless
    cases hreturned
    exact ⟨hstarting, rfl, hawaits, hknown, hquiet⟩
  | starting _ _ _ _ hnone | waiting _ _ _ hnone | ended _ hnone =>
    rw [hnone] at hreturned
    cases hreturned

/-- A request in its place is the one that the upgrader waits for, and the only one in its place. -/
theorem Sound.waits_for (h : s.Sound) {entry : Command × Request} (hentry : entry ∈ s.requests)
    (hlive : s.handler.Live entry.1) :
    s.starting = false ∧ s.returned = [] ∧ s.upgrader.Awaits entry.2 ∧
      ∀ other ∈ s.requests, s.handler.Live other.1 → other = entry := by
  cases h.phase with
  | starting _ _ _ hnone =>
    rw [hnone] at hentry
    cases hentry
  | running _ _ _ _ _ _ hquiet | ended _ _ _ hquiet => exact absurd hlive (hquiet entry hentry)
  | waiting command request hstarting hreturned hawaits _ _ _ honly =>
    obtain rfl := honly entry hentry hlive
    exact ⟨hstarting, hreturned, hawaits, honly⟩

theorem start_sound (firmware : Firmware) (handle : UInt32) (handlers : List UInt8) :
    (start firmware handle handlers).Sound where
  tracked := general_command_handler.State.start_tracked handlers
  submitted := nofun
  distinct := List.nodup_nil
  phase := .starting firmware handle rfl rfl rfl rfl

section Make

theorem added_append {α : Type} (front before : List α) : added before (front ++ before) = front := by
  simp [added]

/-- The upgrader waits for the request that it has handed over, or has come to its end. -/
theorem Requested.make {outcome : Outcome} (h : s.Requested) (hstarting : s.starting = false)
    (hreturned : s.returned = []) (hquiet : s.Quiet)
    (hknown : s.handler.Known outcome.upgrader.handle)
    (hawaits : ∀ made, outcome.request = some made → outcome.upgrader.Awaits made)
    (hended : outcome.request = none →
      outcome.upgrader.IsUpgradeComplete ∨ outcome.upgrader.IsUpgradeError) :
    (s.make outcome).Sound := by
  unfold State.make
  split
  · rename_i hnone
    exact ⟨⟨h.tracked, h.submitted, h.distinct⟩,
      .ended hstarting hreturned (hended hnone) hquiet⟩
  · rename_i made hmade
    obtain ⟨command, hsubmitted, hgeneral, hnew, htracked, hstill, hlive, hothers⟩ :=
      hknown.send_command h.tracked made.command_id
    have hadded : added s.handler.submitted (s.handler.send_command outcome.upgrader.handle
        made.command_id).submitted = [command] := by
      rw [hsubmitted]
      exact added_append [command] s.handler.submitted
    simp only [hadded, List.map_cons, List.map_nil, List.cons_append, List.nil_append]
    refine ⟨⟨htracked, ?_, ?_⟩, .waiting command made hstarting hreturned (hawaits made hmade) hstill
      List.mem_cons_self hlive ?_⟩
    · intro entry hentry
      rw [hsubmitted]
      obtain rfl | hold := List.mem_cons.mp hentry
      · exact ⟨List.mem_cons_self, hgeneral⟩
      · exact ⟨List.mem_cons_of_mem _ (h.submitted entry hold).1, (h.submitted entry hold).2⟩
    · refine List.nodup_cons.mpr ⟨fun hmem => ?_, h.distinct⟩
      obtain ⟨⟨_, request⟩, hentry, rfl⟩ := List.mem_map.mp hmem
      exact hnew (h.submitted _ hentry).1
    · intro entry hentry hentry_live
      obtain rfl | hold := List.mem_cons.mp hentry
      · rfl
      · exact absurd ((hothers _ (h.submitted entry hold).1).mp hentry_live) (hquiet entry hold)

end Make

section Answers

variable {calls : List general_command_handler.Callback}

/-- How many of the calls belong to a command. -/
def callsOf (calls : List general_command_handler.Callback) (command : Command) : Nat :=
  calls.countP fun call => call.command = command

theorem lookup_eq_none {command : Command} (hother : ∀ entry ∈ s.requests, entry.1 ≠ command) :
    s.requests.lookup command = none := by
  rw [List.lookup_eq_none_iff]
  intro entry hentry
  simpa using (hother entry hentry).symm

theorem lookup_eq_some (h : s.Requested) {command : Command} {request : Request}
    (hentry : (command, request) ∈ s.requests) : s.requests.lookup command = some request := by
  obtain ⟨front, back, hsplit⟩ := List.append_of_mem hentry
  have hdistinct := h.distinct
  rw [List.lookup_eq_some_iff]
  refine ⟨front, back, hsplit, fun entry hbefore => ?_⟩
  rw [hsplit, List.map_append, List.nodup_append] at hdistinct
  have hne := hdistinct.2.2 entry.1 (List.mem_map_of_mem hbefore) command (by simp)
  simpa using hne.symm

/-- What a step of the command handler adds to the calls of a command. -/
theorem invoked_of_step {e : general_command_handler.Event}
    {before after : general_command_handler.State} (hstep : before.step e = .ok after)
    (command : Command) :
    after.invoked command = callsOf (added before.calls after.calls) command +
      before.invoked command := by
  obtain ⟨front, hfront⟩ := general_command_handler.State.calls_of_step hstep
  unfold general_command_handler.State.invoked callsOf
  rw [← hfront, added_append, List.countP_append]

/-- Calls for other commands are no answers to requests. -/
theorem answers_eq_nil (hnone : ∀ entry ∈ s.requests, callsOf calls entry.1 = 0) :
    s.answers calls = [] := by
  rw [answers, List.filterMap_eq_nil_iff]
  intro call hcall
  rw [Option.map_eq_none_iff]
  apply lookup_eq_none
  intro entry hentry heq
  have hnot := List.countP_eq_zero.mp (hnone entry hentry) call hcall
  exact hnot (decide_eq_true heq.symm)

/-- A call for the one request that gets an answer is that answer. -/
theorem answers_eq_singleton (h : s.Requested) {command : Command} {request : Request}
    (hentry : (command, request) ∈ s.requests) (hone : callsOf calls command = 1)
    (hnone : ∀ entry ∈ s.requests, entry ≠ (command, request) → callsOf calls entry.1 = 0) :
    ∃ status, s.answers calls = [(request, status)] := by
  induction calls with
  | nil => cases hone
  | cons call calls ih =>
    simp only [callsOf, List.countP_cons] at hone hnone ih
    by_cases hcall : call.command = command
    · have hrest : s.answers calls = [] := by
        apply answers_eq_nil
        intro entry hmem
        by_cases hsame : entry = (command, request)
        · subst hsame
          simp only [hcall, decide_true, if_true] at hone
          exact Nat.add_eq_right.mp hone
        · have hzero := hnone entry hmem hsame
          exact (Nat.add_eq_zero_iff.mp hzero).1
      refine ⟨call.status, ?_⟩
      rw [answers, List.filterMap_cons, hcall, lookup_eq_some h hentry]
      exact congrArg _ hrest
    · have hskip : s.requests.lookup call.command = none := by
        apply lookup_eq_none
        rintro entry hmem heq
        have hne : entry ≠ (command, request) := fun hsame => hcall (by rw [← heq, hsame])
        have hzero := hnone entry hmem hne
        simp [heq] at hzero
      have hrest := ih (by simpa [hcall] using hone) fun entry hmem hne =>
        (Nat.add_eq_zero_iff.mp (hnone entry hmem hne)).1
      rw [answers, List.filterMap_cons, hskip]
      exact hrest

end Answers

section Steps

variable {e : general_command_handler.Event} {handler : general_command_handler.State}

/-- What a step of the command handler that leaves a request alone does to it: it stays, or
it goes with one call of its callback. -/
theorem Requested.effect (h : s.Requested) (hstep : s.handler.step e = .ok handler)
    {entry : Command × Request} (hentry : entry ∈ s.requests)
    (hguard : s.handler.LeavesAlone entry.1 e) :
    (handler.Live entry.1 ↔ s.handler.Live entry.1) ∧
        callsOf (added s.handler.calls handler.calls) entry.1 = 0 ∨
      s.handler.Live entry.1 ∧ ¬ handler.Live entry.1 ∧
        callsOf (added s.handler.calls handler.calls) entry.1 = 1 := by
  obtain ⟨hsubmitted, hgeneral⟩ := h.submitted entry hentry
  have hcount := invoked_of_step hstep entry.1
  obtain ⟨hlive, hsame⟩ | ⟨hlive, hgone, hone⟩ :=
    hguard.step h.tracked hsubmitted hgeneral hstep
  · exact Or.inl ⟨hlive, by omega⟩
  · exact Or.inr ⟨hlive, hgone, by omega⟩

/-- A request that is not left alone is live, and gets a second callback or loses its own. -/
theorem Requested.disturbed (h : s.Requested) {entry : Command × Request}
    (hentry : entry ∈ s.requests) (hnot : ¬ s.handler.LeavesAlone entry.1 e) :
    ∃ handler, s.handler.step e = .ok handler ∧ s.handler.Live entry.1 ∧
      (s.handler.Doubles handler entry.1 ∨ s.handler.Drops handler entry.1) := by
  obtain ⟨hsubmitted, hgeneral⟩ := h.submitted entry hentry
  obtain ⟨handler, hstep, heffect⟩ := h.tracked.disturbed hsubmitted hgeneral hnot
  exact ⟨handler, hstep, heffect.elim And.left And.left, heffect⟩

/-- A request that has had its callback is left alone. -/
theorem Requested.alone (h : s.Requested) {entry : Command × Request}
    (hentry : entry ∈ s.requests) (hdead : ¬ s.handler.Live entry.1) :
    s.handler.LeavesAlone entry.1 e := by
  by_contra hnot
  obtain ⟨_, _, hlive, _⟩ := h.disturbed hentry hnot
  exact hdead hlive

theorem Requested.command (h : s.Requested) (hstep : s.handler.step e = .ok handler)
    (returned : List (Request × LivoxLidarStatus)) :
    ({ s with handler, returned } : State).Requested where
  tracked := h.tracked.step hstep
  submitted entry hentry :=
    ⟨general_command_handler.State.submitted_of_step hstep (h.submitted entry hentry).1,
      (h.submitted entry hentry).2⟩
  distinct := h.distinct

/-- Without a request that is live no answer comes in. -/
theorem Requested.quiet (h : s.Requested) (hquiet : s.Quiet)
    (hstep : s.handler.step e = .ok handler) :
    s.answers (added s.handler.calls handler.calls) = [] ∧
      ∀ entry ∈ s.requests, ¬ handler.Live entry.1 := by
  constructor
  · apply answers_eq_nil
    intro entry hentry
    obtain ⟨_, hzero⟩ | ⟨hlive, _⟩ :=
      h.effect hstep hentry (h.alone hentry (hquiet entry hentry))
    · exact hzero
    · exact absurd hlive (hquiet entry hentry)
  · intro entry hentry
    obtain ⟨hkept, _⟩ | ⟨hlive, _⟩ :=
      h.effect hstep hentry (h.alone hentry (hquiet entry hentry))
    · rw [hkept]
      exact hquiet entry hentry
    · exact absurd hlive (hquiet entry hentry)

/-- Beside the one request that is live the others stay as they are, without an answer. -/
theorem Requested.others (h : s.Requested) (hstep : s.handler.step e = .ok handler)
    {waiting : Command × Request}
    (honly : ∀ entry ∈ s.requests, s.handler.Live entry.1 → entry = waiting) :
    ∀ entry ∈ s.requests, entry ≠ waiting →
      ¬ handler.Live entry.1 ∧ callsOf (added s.handler.calls handler.calls) entry.1 = 0 := by
  intro entry hentry hne
  have hdead : ¬ s.handler.Live entry.1 := fun hlive => hne (honly entry hentry hlive)
  obtain ⟨hkept, hzero⟩ | ⟨hlive, _⟩ := h.effect hstep hentry (h.alone hentry hdead)
  · exact ⟨by rwa [hkept], hzero⟩
  · exact absurd hlive hdead

/-- A step of the command handler that leaves the requests alone. -/
theorem Sound.command (h : s.Sound) (hstep : s.handler.step e = .ok handler)
    (hguard : ∀ entry ∈ s.requests, s.handler.LeavesAlone entry.1 e) :
    ({ s with
      handler
      returned := s.answers (added s.handler.calls handler.calls) ++ s.returned } : State).Sound := by
  have hrequested := h.toRequested
  refine ⟨hrequested.command hstep _, ?_⟩
  cases h.phase with
  | starting firmware handle hstarting hnone hreturned hupgrader =>
    have hempty : s.answers (added s.handler.calls handler.calls) = [] := by
      apply answers_eq_nil
      rw [hnone]
      exact nofun
    exact .starting firmware handle hstarting hnone (by rw [hempty, hreturned]; rfl) hupgrader
  | waiting command request hstarting hreturned hawaits hknown hentry hlive honly =>
    have hothers := hrequested.others hstep honly
    obtain ⟨hkept, hzero⟩ | ⟨_, hgone, hone⟩ := hrequested.effect hstep hentry (hguard _ hentry)
    · have hempty : s.answers (added s.handler.calls handler.calls) = [] := by
        apply answers_eq_nil
        intro entry hmem
        by_cases hsame : entry = (command, request)
        · rw [hsame]
          exact hzero
        · exact (hothers entry hmem hsame).2
      refine .waiting command request hstarting (by rw [hempty, hreturned]; rfl) hawaits
        (hknown.step hstep) hentry (hkept.mpr hlive) ?_
      intro entry hmem halive
      by_contra hne
      exact (hothers entry hmem hne).1 halive
    · obtain ⟨status, hanswer⟩ := answers_eq_singleton hrequested hentry hone
        fun entry hmem hne => (hothers entry hmem hne).2
      refine .running request status hstarting (by rw [hanswer, hreturned]; rfl) hawaits
        (hknown.step hstep) ?_
      intro entry hmem
      by_cases hsame : entry = (command, request)
      · rw [hsame]
        exact hgone
      · exact (hothers entry hmem hsame).1
  | running request status hstarting hreturned hawaits hknown hquiet =>
    obtain ⟨hempty, hstill⟩ := hrequested.quiet hquiet hstep
    exact .running request status hstarting (by rw [hempty, hreturned]; rfl) hawaits
      (hknown.step hstep) hstill
  | ended hstarting hreturned hfinal hquiet =>
    obtain ⟨hempty, hstill⟩ := hrequested.quiet hquiet hstep
    exact .ended hstarting (by rw [hempty, hreturned]; rfl) hfinal hstill

/-- The start thread, for a device that is known. -/
theorem Sound.start (h : s.Sound) (hstarting : s.starting = true)
    (hknown : s.handler.Known s.upgrader.handle) :
    ({ s with starting := false }.make
      (s.upgrader.fsm_event_handler .kLivoxLidarEventRequestUpgrade 10)).Sound := by
  obtain ⟨hnone, hreturned, firmware, handle, hupgrader⟩ := h.before_start hstarting
  have hevent := LivoxLidarUpgrader.construct_starts firmware handle 10
  rw [← hupgrader] at hevent
  rw [hevent]
  have hrequested : ({ s with starting := false } : State).Requested :=
    ⟨h.tracked, h.submitted, h.distinct⟩
  apply hrequested.make rfl hreturned
  · intro entry hentry
    rw [show s.requests = [] from hnone] at hentry
    cases hentry
  · exact hknown
  · rintro made ⟨⟩
    rw [hupgrader]
    exact LivoxLidarUpgrader.construct_awaits firmware handle
  · exact nofun

/-- A response handler that is running, where the upgrade goes on or ends. -/
theorem Sound.respond (h : s.Sound) {index : Nat} {request : Request} {status : LivoxLidarStatus}
    {response : Response} (hreturned : s.returned[index]? = some (request, status))
    (hguard : ¬ s.upgrader.Stalls request status response) :
    ({ s with returned := s.returned.eraseIdx index }.make
      (s.upgrader.respond request status response)).Sound := by
  obtain ⟨hstarting, hnone, hawaits, hknown, hquiet⟩ := h.responding hreturned
  have ha := hawaits.answered status response
  have hrequested : ({ s with returned := s.returned.eraseIdx index } : State).Requested :=
    ⟨h.tracked, h.submitted, h.distinct⟩
  refine hrequested.make hstarting hnone hquiet (ha.same.2.1 ▸ hknown) ?_ ?_
  · exact fun made hmade => ha.awaits hawaits hmade
  · intro hlast
    rw [hlast] at ha
    exact ha.ended hawaits hguard

theorem Sound.step (h : s.Sound) {e : Event} (hguard : s.Unobstructed e)
    (hstep : s.step e = .ok t) : t.Sound := by
  cases e with
  | start =>
    simp only [State.step] at hstep
    split at hstep
    · rename_i hstarting
      cases hstep
      exact h.start hstarting (hguard hstarting)
    · cases hstep
  | command e =>
    simp only [State.step] at hstep
    obtain ⟨handler, hhandler, hnext⟩ := bind_eq_ok_iff.mp hstep
    cases hnext
    exact h.command hhandler hguard
  | respond index response =>
    simp only [State.step] at hstep
    split at hstep
    · cases hstep
    · rename_i request status hreturned
      cases hstep
      exact h.respond hreturned (hguard _ hreturned)

end Steps

section Outstanding

theorem outstanding_of_quiet (hquiet : s.Quiet) (hstarting : s.starting = false) :
    s.outstanding = s.returned.length := by
  have hnone : s.requests.countP (fun entry => s.handler.Live entry.1) = 0 := by
    rw [List.countP_eq_zero]
    intro entry hentry hlive
    exact hquiet entry hentry (of_decide_eq_true hlive)
  rw [outstanding, hnone, hstarting]
  simp

theorem outstanding_of_waiting (h : s.Requested) {command : Command} {request : Request}
    (hstarting : s.starting = false) (hreturned : s.returned = [])
    (hentry : (command, request) ∈ s.requests) (hlive : s.handler.Live command)
    (honly : ∀ entry ∈ s.requests, s.handler.Live entry.1 → entry = (command, request)) :
    s.outstanding = 1 := by
  have hnodup : s.requests.Nodup := h.distinct.of_map _
  have hsame : ∀ entry ∈ s.requests,
      decide (s.handler.Live entry.1) = (entry == (command, request)) := by
    intro entry hmem
    rw [Bool.eq_iff_iff, decide_eq_true_eq, beq_iff_eq]
    constructor
    · exact honly entry hmem
    · rintro rfl
      exact hlive
  have hone : s.requests.countP (fun entry => s.handler.Live entry.1) = 1 := by
    rw [List.countP_congr fun entry hmem => by rw [hsame entry hmem]]
    exact List.count_eq_one_of_mem hnodup hentry
  rw [outstanding, hone, hstarting, hreturned]
  rfl

theorem Sound.progressing (h : s.Sound) : s.Progressing := by
  cases h.phase with
  | starting firmware handle _ _ _ hupgrader =>
    left
    rw [hupgrader]
    rfl
  | waiting command request hstarting hreturned _ _ hentry hlive honly =>
    exact Or.inr (Or.inr (outstanding_of_waiting h.toRequested hstarting hreturned hentry hlive
      honly))
  | running request status hstarting hreturned _ _ hquiet =>
    right; right
    rw [outstanding_of_quiet hquiet hstarting, hreturned]
    rfl
  | ended _ _ hfinal _ => exact or_assoc.mp (Or.inl hfinal)

end Outstanding

section Stuck

/-- Only the command handler goes on where nothing calls back into the upgrader. -/
theorem Silent.step (h : s.Silent) {e : Event} (hstep : s.step e = .ok t) :
    t.Silent ∧ t.upgrader = s.upgrader := by
  cases e with
  | start =>
    simp only [State.step, h.started] at hstep
    cases hstep
  | command e =>
    simp only [State.step] at hstep
    obtain ⟨handler, hhandler, hnext⟩ := bind_eq_ok_iff.mp hstep
    cases hnext
    obtain ⟨hempty, hstill⟩ := h.toRequested.quiet h.quiet hhandler
    exact ⟨⟨h.toRequested.command hhandler _, h.started, by rw [hempty, h.returned]; rfl, hstill⟩,
      rfl⟩
  | respond index response =>
    simp only [State.step, h.returned, List.getElem?_nil] at hstep
    cases hstep

theorem Stuck.step (h : s.Stuck) {e : Event} (hstep : s.step e = .ok t) : t.Stuck := by
  obtain ⟨hsilent, hsame⟩ := h.toSilent.step hstep
  exact ⟨hsilent, by rw [hsame]; exact h.running⟩

/-- Started for a device that is not known, the upgrader waits for nothing. -/
theorem Sound.stuck_start (h : s.Sound) (hstarting : s.starting = true)
    (hunknown : ¬ s.handler.Known s.upgrader.handle) :
    ({ s with starting := false }.make
      (s.upgrader.fsm_event_handler .kLivoxLidarEventRequestUpgrade 10)).Stuck := by
  obtain ⟨hnone, hreturned, firmware, handle, hupgrader⟩ := h.before_start hstarting
  have hevent := LivoxLidarUpgrader.construct_starts firmware handle 10
  rw [← hupgrader] at hevent
  have hsend := general_command_handler.State.send_command_unknown hunknown
    s.upgrader.start_upgrade_request.command_id
  have htracked : (s.handler.send_command s.upgrader.handle
      s.upgrader.start_upgrade_request.command_id).Tracked :=
    h.tracked.step (e := .send_command _ _) rfl
  rw [hsend] at htracked
  have hadded : added s.handler.submitted s.handler.submitted = [] :=
    added_append [] s.handler.submitted
  rw [hevent, State.make]
  simp only [hsend, hadded, List.map_nil, List.nil_append]
  refine ⟨⟨⟨htracked, h.submitted, h.distinct⟩, rfl, hreturned, ?_⟩, ?_⟩
  · intro entry hentry
    rw [show s.requests = [] from hnone] at hentry
    cases hentry
  · rw [hupgrader]
    exact (LivoxLidarUpgrader.construct_awaits firmware handle).not_ended

/-- The upgrader waits for nothing once its request has lost its callback. -/
theorem Sound.stuck_command (h : s.Sound) {e : general_command_handler.Event}
    {handler : general_command_handler.State} {entry : Command × Request}
    (hstep : s.handler.step e = .ok handler) (hentry : entry ∈ s.requests)
    (hdrops : s.handler.Drops handler entry.1) :
    ({ s with
      handler
      returned := s.answers (added s.handler.calls handler.calls) ++ s.returned } : State).Stuck := by
  have hrequested := h.toRequested
  obtain ⟨hlive, hgone, hinvoked⟩ := hdrops
  obtain ⟨hstarting, hreturned, hawaits, honly⟩ := h.waits_for hentry hlive
  have hcount := invoked_of_step hstep entry.1
  have hothers : ∀ other ∈ s.requests, ¬ handler.Live other.1 ∧
      callsOf (added s.handler.calls handler.calls) other.1 = 0 := by
    intro other hother
    by_cases hsame : other = entry
    · have hzero : callsOf (added s.handler.calls handler.calls) entry.1 = 0 := by omega
      rw [hsame]
      exact ⟨hgone, hzero⟩
    · exact hrequested.others hstep honly other hother hsame
  have hempty := answers_eq_nil fun other hother => (hothers other hother).2
  exact ⟨⟨hrequested.command hstep _, hstarting, by rw [hempty, hreturned]; rfl,
    fun other hother => (hothers other hother).1⟩, hawaits.not_ended⟩

/-- A firmware with nothing to transfer leaves the upgrader waiting for nothing. -/
theorem Sound.stuck_respond (h : s.Sound) {index : Nat} {request : Request}
    {status : LivoxLidarStatus} {response : Response}
    (hreturned : s.returned[index]? = some (request, status))
    (hstalls : s.upgrader.Stalls request status response) :
    ({ s with returned := s.returned.eraseIdx index }.make
      (s.upgrader.respond request status response)).Stuck := by
  obtain ⟨hstarting, hnone, hawaits, _, hquiet⟩ := h.responding hreturned
  obtain ⟨hlast, hrunning⟩ := (hawaits.answered status response).stalled hawaits hstalls
  rw [State.make, hlast]
  exact ⟨⟨⟨h.tracked, h.submitted, h.distinct⟩, hstarting, hnone, hquiet⟩, hrunning⟩

end Stuck

section Held

/-- No request of the upgrader gets a second callback. -/
def CallsOnce (s : State) : Event → Prop
  | .command e => ∀ entry ∈ s.requests, s.handler.CallsOnce entry.1 e
  | _ => True

instance (s : State) (e : Event) : Decidable (s.CallsOnce e) := by
  unfold CallsOnce
  split <;> infer_instance

/-- The upgrade stands where it should, or it is stuck. -/
def Held (s : State) : Prop := s.Sound ∨ s.Stuck

/-- Whatever obstructs an upgrade, with one callback for each request it is stuck then. -/
theorem Held.step (h : s.Held) {e : Event} (hguard : s.CallsOnce e) (hstep : s.step e = .ok t) :
    t.Held := by
  obtain hsound | hstuck := h
  · by_cases hfree : s.Unobstructed e
    · exact Or.inl (hsound.step hfree hstep)
    · right
      cases e with
      | start =>
        simp only [Unobstructed] at hfree
        push Not at hfree
        simp only [State.step, if_pos hfree.1] at hstep
        cases hstep
        exact hsound.stuck_start hfree.1 hfree.2
      | command e =>
        simp only [Unobstructed] at hfree
        push Not at hfree
        obtain ⟨entry, hentry, hnot⟩ := hfree
        obtain ⟨hsubmitted, hgeneral⟩ := hsound.submitted entry hentry
        obtain ⟨handler, hhandler, hdrops⟩ :=
          (hguard entry hentry).drops hsound.tracked hsubmitted hgeneral hnot
        simp only [State.step, hhandler, ok_bind] at hstep
        cases hstep
        exact hsound.stuck_command hhandler hentry hdrops
      | respond index response =>
        simp only [Unobstructed] at hfree
        push Not at hfree
        obtain ⟨⟨request, status⟩, hreturned, hstalls⟩ := hfree
        simp only [State.step, show s.returned[index]? = some (request, status) from hreturned]
          at hstep
        cases hstep
        exact hsound.stuck_respond hreturned hstalls
  · exact Or.inr (hstuck.step hstep)

/-- Once the upgrade is complete nothing calls back into the upgrader. -/
theorem Held.silent (h : s.Held) (hstarting : s.starting = false)
    (hcomplete : s.upgrader.IsUpgradeComplete) : s.Silent := by
  obtain hsound | hstuck := h
  · cases hsound.phase with
    | starting _ _ hnot =>
      rw [hstarting] at hnot
      cases hnot
    | waiting _ _ _ _ hawaits | running _ _ _ _ hawaits =>
      exact absurd hcomplete hawaits.not_ended.1
    | ended _ hreturned _ hquiet => exact ⟨hsound.toRequested, hstarting, hreturned, hquiet⟩
  · exact hstuck.toSilent

end Held

section Breaks

theorem not_progressing (hrunning : ¬ s.upgrader.IsUpgradeComplete ∧ ¬ s.upgrader.IsUpgradeError)
    (houtstanding : s.outstanding ≠ 1) : ¬ s.Progressing := by
  rintro (hcomplete | herror | hone)
  · exact hrunning.1 hcomplete
  · exact hrunning.2 herror
  · exact houtstanding hone

theorem Stuck.not_progressing (h : s.Stuck) : ¬ s.Progressing := by
  refine State.not_progressing h.running ?_
  rw [outstanding_of_quiet h.quiet h.started, h.returned]
  exact Nat.zero_ne_one

/-- A call for a request is an answer. -/
theorem answers_pos (h : s.Requested) {calls : List general_command_handler.Callback}
    {command : Command} {request : Request} (hentry : (command, request) ∈ s.requests)
    (hpos : 0 < callsOf calls command) : 0 < (s.answers calls).length := by
  obtain ⟨call, hcall, heq⟩ := List.countP_pos_iff.mp hpos
  apply List.length_pos_of_mem (a := (request, call.status))
  rw [answers, List.mem_filterMap]
  refine ⟨call, hcall, ?_⟩
  rw [of_decide_eq_true heq, lookup_eq_some h hentry]
  rfl

/-- With a request that is not left alone the upgrader has two callbacks to come, or none. -/
theorem Sound.breaks_command (h : s.Sound) {e : general_command_handler.Event}
    {entry : Command × Request} (hentry : entry ∈ s.requests)
    (hguard : ¬ s.handler.LeavesAlone entry.1 e) :
    ∃ t, s.step (.command e) = .ok t ∧ ¬ t.Progressing := by
  have hrequested := h.toRequested
  obtain ⟨handler, hstep, hlive, heffect⟩ := hrequested.disturbed hentry hguard
  refine ⟨{ s with
    handler
    returned := s.answers (added s.handler.calls handler.calls) ++ s.returned }, ?_, ?_⟩
  · show (s.handler.step e >>= _) = _
    rw [hstep]
    rfl
  obtain ⟨_, halive, hinvoked⟩ | hdrops := heffect
  · -- its callback has been called, and is to come once more
    obtain ⟨_, _, hawaits, _⟩ := h.waits_for hentry hlive
    refine not_progressing hawaits.not_ended ?_
    have hcount := invoked_of_step hstep entry.1
    have hanswer := answers_pos hrequested hentry
      (show 0 < callsOf (added s.handler.calls handler.calls) entry.1 by omega)
    have hwaits : 0 < s.requests.countP fun entry => handler.Live entry.1 :=
      List.countP_pos_iff.mpr ⟨_, hentry, decide_eq_true halive⟩
    simp only [outstanding, List.length_append]
    omega
  · exact (h.stuck_command hstep hentry hdrops).not_progressing

theorem Sound.breaks {e : Event} (h : s.Sound) (hguard : ¬ s.Unobstructed e) :
    ∃ t, s.step e = .ok t ∧ ¬ t.Progressing := by
  cases e with
  | start =>
    simp only [Unobstructed] at hguard
    push Not at hguard
    exact ⟨_, if_pos hguard.1, (h.stuck_start hguard.1 hguard.2).not_progressing⟩
  | command e =>
    simp only [Unobstructed] at hguard
    push Not at hguard
    obtain ⟨entry, hentry, hnot⟩ := hguard
    exact h.breaks_command hentry hnot
  | respond index response =>
    simp only [Unobstructed] at hguard
    push Not at hguard
    obtain ⟨⟨request, status⟩, hreturned, hstalls⟩ := hguard
    refine ⟨_, ?_, (h.stuck_respond hreturned hstalls).not_progressing⟩
    simp only [State.step, show s.returned[index]? = some (request, status) from hreturned]

end Breaks

end State

/-- The runs in which the upgrade always goes on or has ended are exactly those with no step
that obstructs it. -/
theorem upgrade_never_stuck_iff (firmware : Firmware) (handle : UInt32) (handlers : List UInt8)
    (es : List Event) :
    StatesSatisfy State.step State.Progressing (State.start firmware handle handlers) es ↔
      StepsSatisfy State.step State.Unobstructed (State.start firmware handle handlers) es :=
  statesSatisfy_iff_stepsSatisfy (fun _ h => h.progressing)
    (fun _ _ _ h hguard hstep => h.step hguard hstep) (fun _ _ h hguard => h.breaks hguard)
    (State.start_sound firmware handle handlers) es

/-- A firmware with an image of one byte. -/
def small_firmware : Firmware where
  header :=
    { file_version := 0x02000000
      firmware_version := 1
      firmware_length := 1
      firmware_type := 1
      device_type := 9
      encrypt_type := 0
      checksum_type := 0
      checksum_length := 16
      checksum := Vector.replicate 128 0
      hw_whitelist := Vector.replicate 128 0
      modify_time := 0 }
  data := [7]
  data_length := rfl

/-- The upgrade of a device that the SDK does not know is stuck once it has been started. -/
theorem unknown_device_stuck :
    ¬ StatesSatisfy State.step State.Progressing (State.start small_firmware 2 [9]) [.start] := by
  decide +kernel

end upgrade_session

end livox_lidar
