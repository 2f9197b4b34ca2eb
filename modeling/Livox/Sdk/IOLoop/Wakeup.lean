import Livox.Sdk.IOLoop.Tasks

open checked execution swap_queue ordered_map

namespace livox_lidar

namespace io_loop

section Wakeup

variable {D C : Type} {s t : IOLoop D C} {pipe_out : Int}

/-- The thread is on its way to the next swap. -/
def LoopPlace.Swaps : LoopPlace → Prop
  | .event_callbacks _ => True
  | .swap => True
  | _ => False

/-- Tasks that wait are not forgotten: there is something in the pipe, a call is about to put it
there, or the thread is about to swap. -/
def IOLoop.Noticed (s : IOLoop D C) : Prop :=
  s.tasks.pending ≠ [] → 0 < s.wake_up_pipe.bytes ∨ (∃ call ∈ s.calls, call.place = .wakeup) ∨
    s.place.Swaps

/-- The pipe's own end stays on the list of the kernel, and no task is about it. -/
structure IOLoop.Awake (s : IOLoop D C) (pipe_out : Int) : Prop where
  noticed : s.Noticed
  writes : 0 < s.wake_up_pipe.pipe_in
  reads : s.wake_up_pipe.pipe_out = pipe_out
  listened : pipe_out ∈ s.multiple_io_base.interest
  calls : ∀ call ∈ s.calls, call.task.sock ≠ pipe_out
  posted : ∀ task ∈ s.tasks.posted, task.sock ≠ pipe_out

theorem mem_interest_add {multiple_io_base : MultipleIOEpoll} {fd : Int} (poll_fd : PollFd)
    (taken : Bool) (hmem : fd ∈ multiple_io_base.interest) :
    fd ∈ (multiple_io_base.poll_set_add poll_fd taken).2.interest := by
  rw [MultipleIOEpoll.poll_set_add]
  split
  · exact hmem
  · split
    · exact hmem
    · exact mem_insert_iff.mpr (Or.inr hmem)

/-- A callback may drain the pipe, but leaves its ends alone and what waits. -/
theorem IOLoop.event_callback_pipe (s : IOLoop D C) (fd : Int) :
    (s.event_callback fd).multiple_io_base = s.multiple_io_base ∧
      (s.event_callback fd).calls = s.calls ∧
      (s.event_callback fd).wake_up_pipe.pipe_in = s.wake_up_pipe.pipe_in ∧
      (s.event_callback fd).wake_up_pipe.pipe_out = s.wake_up_pipe.pipe_out := by
  rw [event_callback]
  split
  case h_2 =>
    rw [WakeUpPipe.drain]
    split <;> exact ⟨rfl, rfl, rfl, rfl⟩
  all_goals exact ⟨rfl, rfl, rfl, rfl⟩

theorem IOLoop.Awake.event_callback (h : s.Awake pipe_out) (hplace : s.place.Swaps) (fd : Int) :
    (s.event_callback fd).Awake pipe_out := by
  obtain ⟨hbase, hcalls, hin, hout⟩ := s.event_callback_pipe fd
  obtain ⟨htasks, hsame⟩ := s.event_callback_tasks fd
  refine ⟨?_, hin ▸ h.writes, hout.trans h.reads, hbase ▸ h.listened, hcalls ▸ h.calls,
    htasks ▸ h.posted⟩
  intro _
  rw [hsame]
  exact Or.inr (Or.inr hplace)

/-- A task is about another socket, and so leaves the pipe's end on the list. -/
theorem IOLoop.Awake.run_task (h : s.Awake pipe_out) {task : IOLoopTask D C}
    (hsock : task.sock ≠ pipe_out) (taken : Bool) :
    (s.run_task taken task).Awake pipe_out := by
  cases task with
  | add_delegate_async sock delegate data =>
    have hlistened := mem_interest_add (readable sock) taken h.listened
    rw [IOLoop.run_task, IOLoop.add_delegate_async]
    split <;> rename_i hadd <;> rw [hadd] at hlistened <;>
      exact ⟨h.noticed, h.writes, h.reads, hlistened, h.calls, h.posted⟩
  | remove_delegate_async sock =>
    have hlistened : pipe_out ∈ s.multiple_io_base.interest.erase sock :=
      mem_erase_iff.mpr ⟨hsock.symm, h.listened⟩
    exact ⟨h.noticed, h.writes, h.reads, hlistened, h.calls, h.posted⟩

/-- A move of the thread that does not take it away from its next swap. -/
theorem IOLoop.Awake.move (h : s.Awake pipe_out) {place : LoopPlace} (hplace : s.place.Swaps → place.Swaps) :
    IOLoop.Awake { s with place } pipe_out where
  noticed hpending := (h.noticed hpending).imp_right (Or.imp_right hplace)
  writes := h.writes
  reads := h.reads
  listened := h.listened
  calls := h.calls
  posted := h.posted

theorem IOLoop.Awake.loop (h : s.Awake pipe_out) (hconserves : s.tasks.Conserves) (ready : List Int)
    (taken : Bool) : (s.loop ready taken).Awake pipe_out := by
  cases hplace : s.place with
  | is_quit =>
    simp only [IOLoop.loop, hplace]
    exact h.move (by simp [hplace, LoopPlace.Swaps])
  | poll =>
    simp only [IOLoop.loop, hplace]
    split
    · exact h.move (by simp [LoopPlace.Swaps])
    · exact h
  | event_callbacks ready =>
    cases ready with
    | nil =>
      simp only [IOLoop.loop, hplace]
      exact h.move (by simp [LoopPlace.Swaps])
    | cons fd rest =>
      have hnext : IOLoop.Awake { s with place := .event_callbacks rest } pipe_out :=
        h.move (by simp [LoopPlace.Swaps])
      simp only [IOLoop.loop, hplace]
      exact hnext.event_callback trivial fd
  | swap =>
    simp only [IOLoop.loop, hplace]
    exact ⟨fun hpending => absurd rfl hpending, h.writes, h.reads, h.listened, h.calls, h.posted⟩
  | tasks =>
    cases hbatch : s.tasks.batch with
    | nil =>
      simp only [IOLoop.loop, hplace, hbatch]
      exact h.move (by simp [hplace, LoopPlace.Swaps])
    | cons task rest =>
      have hposted : task ∈ s.tasks.posted := by
        rw [hconserves.posted_eq, hbatch]
        simp
      have hnext : IOLoop.Awake { s with tasks := s.tasks.take } pipe_out :=
        ⟨h.noticed, h.writes, h.reads, h.listened, h.calls, h.posted⟩
      rw [IOLoop.loop_run_task hplace hbatch]
      exact hnext.run_task (h.posted task hposted) taken
  | ended =>
    simp only [IOLoop.loop, hplace]
    exact h

/-- A call that has appended its task puts something into the pipe, unless the pipe is full. -/
theorem IOLoop.Awake.post (h : s.Awake pipe_out) {capacity k : Nat} {call : PostCall D C}
    (hcall : s.calls[k]? = some call) : (s.post capacity k call).Awake pipe_out := by
  obtain ⟨hlt, hget⟩ := List.getElem?_eq_some_iff.mp hcall
  have hmem : call ∈ s.calls := hget ▸ List.getElem_mem hlt
  have hcalls : ∀ place, ∀ other ∈ s.calls.set k { call with place },
      other.task.sock ≠ pipe_out := by
    intro place other hother
    rcases List.mem_or_eq_of_mem_set hother with hbefore | rfl
    · exact h.calls other hbefore
    · exact h.calls call hmem
  rw [IOLoop.post]
  cases hplace : call.place with
  | push_back =>
    have hself : { call with place := .wakeup } ∈ s.calls.set k { call with place := .wakeup } :=
      List.mem_set hlt _
    refine ⟨fun _ => Or.inr (Or.inl ⟨_, hself, rfl⟩), h.writes, h.reads, h.listened, hcalls _, ?_⟩
    intro task htask
    rcases List.mem_append.mp htask with hbefore | hnow
    · exact h.posted task hbefore
    · obtain rfl := List.mem_singleton.mp hnow
      exact h.calls call hmem
  | wakeup =>
    dsimp only
    rw [WakeUpPipe.wake_up, if_pos h.writes]
    by_cases hroom : s.wake_up_pipe.bytes < capacity
    · rw [if_pos hroom]
      exact ⟨fun _ => Or.inl (Nat.succ_pos _), h.writes, h.reads, h.listened, hcalls _, h.posted⟩
    · rw [if_neg hroom]
      exact h
  | done => exact h

theorem IOLoop.start_awake {pipe_in : Int} (hin : 0 < pipe_in) :
    (IOLoop.start D C pipe_in pipe_out).Awake pipe_out where
  noticed hpending := absurd rfl hpending
  writes := hin
  reads := rfl
  listened := by
    simp [IOLoop.start, MultipleIOEpoll.poll_set_add, MultipleIOEpoll.new, readable]
  calls := by simp [IOLoop.start]
  posted := by simp [IOLoop.start, SwapQueue.empty]

theorem IOLoop.Awake.step (h : s.Awake pipe_out) (hconserves : s.tasks.Conserves) {capacity : Nat}
    {event : IOLoopEvent D C}
    (hevent : ∀ task, event = .post_task task → task.sock ≠ pipe_out)
    (hstep : s.step capacity event = .ok t) : t.Awake pipe_out := by
  cases event with
  | post_task task =>
    cases hstep
    refine ⟨fun hpending => ?_, h.writes, h.reads, h.listened, fun call hcall => ?_, h.posted⟩
    · refine (h.noticed hpending).imp_right (Or.imp_left ?_)
      rintro ⟨call, hcall, hplace⟩
      exact ⟨call, List.mem_append_left _ hcall, hplace⟩
    · rcases List.mem_append.mp hcall with hbefore | hnow
      · exact h.calls call hbefore
      · obtain rfl := List.mem_singleton.mp hnow
        exact hevent task rfl
  | post k =>
    rw [IOLoop.step] at hstep
    split at hstep
    · cases hstep
      exact h
    · rename_i call hcall
      cases hstep
      exact h.post hcall
  | loop ready taken =>
    cases hstep
    exact h.loop hconserves ready taken
  | join =>
    cases hstep
    exact ⟨h.noticed, h.writes, h.reads, h.listened, h.calls, h.posted⟩

/-- A wait that nothing has ended does not begin with a task that has been posted: unless a call of
`PostTask` is still to write to the pipe, the wait cannot run into its timeout. -/
def IOLoop.DoesNotWait (s : IOLoop D C) : Prop :=
  s.place = .poll → s.tasks.pending ≠ [] → (∀ call ∈ s.calls, call.place ≠ .wakeup) →
    ¬ s.Answers []

theorem IOLoop.Awake.doesNotWait (h : s.Awake pipe_out) : s.DoesNotWait := by
  rintro hplace hpending hcalls ⟨-, hanswer⟩
  rcases h.noticed hpending with hbytes | ⟨call, hmem, hwakeup⟩ | hswaps
  · rw [h.reads] at hanswer
    exact List.not_mem_nil (hanswer.mpr ⟨h.listened, hbytes⟩)
  · exact hcalls call hmem hwakeup
  · rw [hplace] at hswaps
    exact hswaps

end Wakeup

/-- However the calls of `PostTask` and the steps of the loop interleave, the loop does not sleep on a
task that has been posted, as long as nobody posts a task about the end of its pipe. -/
theorem posted_tasks_end_wait {D C : Type} (capacity : Nat) {pipe_in pipe_out : Int}
    (hin : 0 < pipe_in) (events : List (IOLoopEvent D C))
    (hevents : ∀ task, .post_task task ∈ events → task.sock ≠ pipe_out) :
    StatesSatisfy (IOLoop.step capacity) IOLoop.DoesNotWait (IOLoop.start D C pipe_in pipe_out)
      events := by
  have hallowed : ∀ event ∈ events, ∀ task, event = IOLoopEvent.post_task task →
      task.sock ≠ pipe_out := by
    rintro event hmem task rfl
    exact hevents task hmem
  have hstart : (IOLoop.start D C pipe_in pipe_out).Awake pipe_out ∧
      (IOLoop.start D C pipe_in pipe_out).tasks.Conserves ∧
      (IOLoop.start D C pipe_in pipe_out).Tidy :=
    ⟨IOLoop.start_awake hin, SwapQueue.empty_conserves _, fun _ => rfl⟩
  have hstep : ∀ (s : IOLoop D C) event t,
      s.Awake pipe_out ∧ s.tasks.Conserves ∧ s.Tidy →
      (∀ task, event = .post_task task → task.sock ≠ pipe_out) → s.step capacity event = .ok t →
      t.Awake pipe_out ∧ t.tasks.Conserves ∧ t.Tidy :=
    fun s event t h hevent hstep =>
      ⟨h.1.step h.2.1 hevent hstep, IOLoop.step_conserves h.2 hstep⟩
  exact (StepsSatisfy.invariant hstep hstart (stepsSatisfy_of_forall hallowed)).mono
    fun s h => h.1.doesNotWait

/-- The loop starts to wait while a call has appended its task and has not written yet. -/
theorem posted_tasks_end_wait_sample :
    StatesSatisfy (IOLoop.step 65536) IOLoop.DoesNotWait (IOLoop.start Unit Unit 4 3)
      [.post_task (.add_delegate_async 5 (some ()) ()), .post 0, .loop [] true, .post 0,
        .loop [3] true] :=
  posted_tasks_end_wait 65536 (by decide) _ (by
    intro task hmem
    simp only [List.mem_cons, IOLoopEvent.post_task.injEq, reduceCtorEq, List.not_mem_nil, or_false]
      at hmem
    subst hmem
    decide)

end io_loop

end livox_lidar
