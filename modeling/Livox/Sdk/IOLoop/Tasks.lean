import Livox.Library.OrderedMap
import Livox.Sdk.IOLoop

open checked execution swap_queue ordered_map

namespace livox_lidar

namespace io_loop

section Tasks

variable {D C : Type} {s t : IOLoop D C}

/-- The tasks are run in the order in which they were posted, each of them once. Outside of the loop
over its tasks the thread has run just those that were posted before its last swap. -/
structure IOLoop.InOrder (s : IOLoop D C) : Prop where
  conserves : s.tasks.Conserves
  outside : s.place ≠ .tasks → s.tasks.taken = s.tasks.posted.take s.tasks.swapped

theorem IOLoop.event_callback_tasks (s : IOLoop D C) (fd : Int) :
    (s.event_callback fd).tasks = s.tasks ∧ (s.event_callback fd).place = s.place := by
  rw [event_callback]
  split <;> exact ⟨rfl, rfl⟩

theorem IOLoop.run_task_tasks (s : IOLoop D C) (taken : Bool) (task : IOLoopTask D C) :
    (s.run_task taken task).tasks = s.tasks ∧ (s.run_task taken task).place = s.place := by
  cases task with
  | add_delegate_async sock delegate data =>
    rw [run_task, add_delegate_async]
    split <;> exact ⟨rfl, rfl⟩
  | remove_delegate_async sock => exact ⟨rfl, rfl⟩

/-- Between two loops over its tasks the thread keeps no batch. -/
def IOLoop.Tidy (s : IOLoop D C) : Prop := s.place ≠ .tasks → s.tasks.batch = []

/-- The step in which the thread runs a task. -/
theorem IOLoop.loop_run_task (hplace : s.place = .tasks) {task : IOLoopTask D C}
    {rest : List (IOLoopTask D C)} (hbatch : s.tasks.batch = task :: rest) (ready : List Int)
    (taken : Bool) :
    s.loop ready taken = { s with tasks := s.tasks.take }.run_task taken task := by
  simp only [loop, hplace, hbatch]

theorem IOLoop.loop_conserves (h : s.tasks.Conserves) (htidy : s.Tidy) (ready : List Int)
    (taken : Bool) : (s.loop ready taken).tasks.Conserves ∧ (s.loop ready taken).Tidy := by
  cases hplace : s.place with
  | is_quit =>
    simp only [loop, hplace]
    exact ⟨h, fun _ => htidy (by simp [hplace])⟩
  | poll =>
    simp only [loop, hplace]
    split
    · exact ⟨h, fun _ => htidy (by simp [hplace])⟩
    · exact ⟨h, htidy⟩
  | event_callbacks ready =>
    cases ready with
    | nil =>
      simp only [loop, hplace]
      exact ⟨h, fun _ => htidy (by simp [hplace])⟩
    | cons fd rest =>
      simp only [loop, hplace]
      rw [Tidy, (event_callback_tasks _ fd).1]
      exact ⟨h, fun _ => htidy (by simp [hplace])⟩
  | swap =>
    simp only [loop, hplace]
    exact ⟨h.swap (htidy (by simp [hplace])), fun hne => absurd rfl hne⟩
  | tasks =>
    cases hbatch : s.tasks.batch with
    | nil =>
      simp only [loop, hplace, hbatch]
      exact ⟨h, fun _ => hbatch⟩
    | cons task rest =>
      obtain ⟨htasks, hrun⟩ := run_task_tasks { s with tasks := s.tasks.take } taken task
      rw [loop_run_task hplace hbatch, Tidy, htasks, hrun]
      exact ⟨h.take, fun hne => absurd hplace hne⟩
  | ended =>
    simp only [loop, hplace]
    exact ⟨h, htidy⟩

theorem IOLoop.post_conserves (h : s.tasks.Conserves) (htidy : s.Tidy) (capacity k : Nat)
    (call : PostCall D C) :
    (s.post capacity k call).tasks.Conserves ∧ (s.post capacity k call).Tidy := by
  rw [post]
  cases call.place with
  | push_back => exact ⟨h.post _, htidy⟩
  | wakeup =>
    dsimp only
    split <;> exact ⟨h, htidy⟩
  | done => exact ⟨h, htidy⟩

theorem IOLoop.step_conserves (h : s.tasks.Conserves ∧ s.Tidy) {capacity : Nat}
    {event : IOLoopEvent D C} (hstep : s.step capacity event = .ok t) :
    t.tasks.Conserves ∧ t.Tidy := by
  obtain ⟨hconserves, htidy⟩ := h
  cases event with
  | post_task task =>
    cases hstep
    exact ⟨hconserves, htidy⟩
  | post k =>
    rw [step] at hstep
    split at hstep
    · cases hstep
      exact ⟨hconserves, htidy⟩
    · cases hstep
      exact post_conserves hconserves htidy _ _ _
  | loop ready taken =>
    cases hstep
    exact loop_conserves hconserves htidy ready taken
  | join =>
    cases hstep
    exact ⟨hconserves, htidy⟩

end Tasks

/-- However the calls of `PostTask` and the steps of the loop interleave, no task that was posted is
lost, run twice or overtaken. -/
theorem tasks_run_in_order {D C : Type} (capacity : Nat) (pipe_in pipe_out : Int)
    (events : List (IOLoopEvent D C)) :
    StatesSatisfy (IOLoop.step capacity) IOLoop.InOrder (IOLoop.start D C pipe_in pipe_out)
      events := by
  have hstart : (IOLoop.start D C pipe_in pipe_out).tasks.Conserves ∧
      (IOLoop.start D C pipe_in pipe_out).Tidy := ⟨SwapQueue.empty_conserves _, fun _ => rfl⟩
  refine (statesSatisfy_invariant (fun _ _ _ h hstep => IOLoop.step_conserves h hstep) hstart
    events).mono ?_
  rintro s ⟨hconserves, htidy⟩
  exact ⟨hconserves, fun houtside => hconserves.taken_eq (htidy houtside)⟩

section Delegates

variable {D C : Type} {s t : IOLoop D C} {ran : List (IOLoopTask D C)} {sock : Int}
  {delegate : Option D} {data : C}

/-- Among the tasks that have been run is one that adds the delegate, and none after it that removes
the socket. -/
def Registers (ran : List (IOLoopTask D C)) (sock : Int) (delegate : Option D) (data : C) : Prop :=
  ∃ before after, ran = before ++ .add_delegate_async sock delegate data :: after ∧
    .remove_delegate_async sock ∉ after

theorem registers_add (ran : List (IOLoopTask D C)) (sock : Int) (delegate : Option D) (data : C) :
    Registers (ran ++ [.add_delegate_async sock delegate data]) sock delegate data :=
  ⟨ran, [], rfl, List.not_mem_nil⟩

theorem Registers.append (h : Registers ran sock delegate data) {task : IOLoopTask D C}
    (hother : task ≠ .remove_delegate_async sock) :
    Registers (ran ++ [task]) sock delegate data := by
  obtain ⟨before, after, rfl, hkept⟩ := h
  refine ⟨before, after ++ [task], by simp, ?_⟩
  rw [List.mem_append, List.mem_singleton]
  rintro (hmem | heq)
  · exact hkept hmem
  · exact hother heq.symm

/-- The delegate was called for a socket that it was registered for at that time. -/
def Delivery.Meant (call : Delivery D C) (ran : List (IOLoopTask D C)) : Prop :=
  call.tasks_run ≤ ran.length ∧
    Registers (ran.take call.tasks_run) call.sock (some call.delegate) call.data

theorem Delivery.Meant.append {call : Delivery D C} (h : call.Meant ran) (more : List (IOLoopTask D C)) :
    call.Meant (ran ++ more) := by
  obtain ⟨hle, hregisters⟩ := h
  refine ⟨?_, ?_⟩
  · rw [List.length_append]
    omega
  · rw [List.take_append_of_le_length hle]
    exact hregisters

/-- Every callback is that of a delegate that is registered, and was when it has been called. -/
structure IOLoop.Meant (s : IOLoop D C) : Prop where
  callbacks : ∀ sock delegate data, s.callbacks[sock]? = some (.on_data delegate data) →
    Registers s.tasks.taken sock delegate data
  on_data : ∀ call ∈ s.on_data, call.Meant s.tasks.taken

/-- A step that leaves the tasks that have been run and the callbacks alone. -/
theorem IOLoop.Meant.of_eq (h : s.Meant) (htaken : t.tasks.taken = s.tasks.taken)
    (hcallbacks : t.callbacks = s.callbacks) (hdata : t.on_data = s.on_data) : t.Meant where
  callbacks := by
    rw [htaken, hcallbacks]
    exact h.callbacks
  on_data := by
    rw [htaken, hdata]
    exact h.on_data

theorem IOLoop.Meant.event_callback (h : s.Meant) (fd : Int) : (s.event_callback fd).Meant := by
  rw [IOLoop.event_callback]
  split
  case h_4 delegate data hfound =>
    refine ⟨h.callbacks, ?_⟩
    intro call hcall
    rcases List.mem_append.mp hcall with hbefore | hnow
    · exact h.on_data call hbefore
    · obtain rfl := List.mem_singleton.mp hnow
      refine ⟨le_refl _, ?_⟩
      rw [List.take_length]
      exact h.callbacks fd (some delegate) data hfound
  all_goals exact h.of_eq rfl rfl rfl

/-- A task that has been run registers a delegate, or takes the socket away. -/
theorem IOLoop.Meant.run_task (h : s.Meant) {task : IOLoopTask D C} {rest : List (IOLoopTask D C)}
    (hbatch : s.tasks.batch = task :: rest) (taken : Bool) :
    ({ s with tasks := s.tasks.take }.run_task taken task).Meant := by
  have hran : s.tasks.take.taken = s.tasks.taken ++ [task] := by
    simp only [SwapQueue.take, hbatch, List.head?_cons, Option.toList_some]
  have hdata : ∀ call ∈ s.on_data, call.Meant (s.tasks.taken ++ [task]) :=
    fun call hcall => (h.on_data call hcall).append _
  cases task with
  | add_delegate_async sock delegate data =>
    have hkept : ∀ other found data', s.callbacks[other]? = some (.on_data found data') →
        Registers (s.tasks.taken ++ [.add_delegate_async sock delegate data]) other found data' :=
      fun other found data' hfound => (h.callbacks other found data' hfound).append (by simp)
    rw [IOLoop.run_task, IOLoop.add_delegate_async]
    split
    · refine ⟨?_, by rw [hran]; exact hdata⟩
      intro other found data' hfound
      rw [hran]
      dsimp only at hfound
      rw [lookup_insert] at hfound
      split at hfound
      · rename_i hsame
        obtain rfl := hsame
        cases hfound
        exact registers_add _ _ _ _
      · exact hkept other found data' hfound
    · refine ⟨?_, by rw [hran]; exact hdata⟩
      rw [hran]
      exact hkept
  | remove_delegate_async sock =>
    refine ⟨?_, by rw [(run_task_tasks _ taken _).1, hran]; exact hdata⟩
    intro other found data' hfound
    rw [(run_task_tasks _ taken _).1, hran]
    rw [IOLoop.run_task, IOLoop.remove_delegate_async] at hfound
    dsimp only at hfound
    rw [lookup_erase] at hfound
    split at hfound
    · cases hfound
    · rename_i hother
      refine (h.callbacks other found data' hfound).append ?_
      rintro heq
      cases heq
      exact hother rfl

theorem IOLoop.Meant.loop (h : s.Meant) (ready : List Int) (taken : Bool) :
    (s.loop ready taken).Meant := by
  cases hplace : s.place with
  | is_quit =>
    simp only [IOLoop.loop, hplace]
    exact h.of_eq rfl rfl rfl
  | poll =>
    simp only [IOLoop.loop, hplace]
    split <;> exact h.of_eq rfl rfl rfl
  | event_callbacks ready =>
    cases ready with
    | nil =>
      simp only [IOLoop.loop, hplace]
      exact h.of_eq rfl rfl rfl
    | cons fd rest =>
      have hnext : IOLoop.Meant { s with place := .event_callbacks rest } := h.of_eq rfl rfl rfl
      simp only [IOLoop.loop, hplace]
      exact hnext.event_callback fd
  | swap =>
    simp only [IOLoop.loop, hplace]
    exact h.of_eq rfl rfl rfl
  | tasks =>
    cases hbatch : s.tasks.batch with
    | nil =>
      simp only [IOLoop.loop, hplace, hbatch]
      exact h.of_eq rfl rfl rfl
    | cons task rest =>
      rw [IOLoop.loop_run_task hplace hbatch]
      exact h.run_task hbatch taken
  | ended =>
    simp only [IOLoop.loop, hplace]
    exact h

theorem IOLoop.Meant.post (h : s.Meant) (capacity k : Nat) (call : PostCall D C) :
    (s.post capacity k call).Meant := by
  rw [IOLoop.post]
  cases call.place with
  | push_back => exact h.of_eq rfl rfl rfl
  | wakeup =>
    dsimp only
    split <;> exact h.of_eq rfl rfl rfl
  | done => exact h

theorem IOLoop.Meant.step (h : s.Meant) {capacity : Nat} {event : IOLoopEvent D C}
    (hstep : s.step capacity event = .ok t) : t.Meant := by
  cases event with
  | post_task task =>
    cases hstep
    exact h.of_eq rfl rfl rfl
  | post k =>
    rw [IOLoop.step] at hstep
    split at hstep
    · cases hstep
      exact h
    · cases hstep
      exact h.post _ _ _
  | loop ready taken =>
    cases hstep
    exact h.loop ready taken
  | join =>
    cases hstep
    exact h.of_eq rfl rfl rfl

theorem IOLoop.start_meant (pipe_in pipe_out : Int) : (IOLoop.start D C pipe_in pipe_out).Meant where
  callbacks := by
    intro sock delegate data hfound
    rw [IOLoop.start] at hfound
    dsimp only at hfound
    rw [lookup_insert] at hfound
    split at hfound
    · cases hfound
    · simp at hfound
  on_data := by simp [IOLoop.start]

end Delegates

/-- A delegate is called for a socket only between the task that adds it and one that removes the
socket, with the data that it was added with. -/
theorem delegates_called_while_registered {D C : Type} (capacity : Nat) (pipe_in pipe_out : Int)
    (events : List (IOLoopEvent D C)) :
    StatesSatisfy (IOLoop.step capacity)
      (fun s => ∀ call ∈ s.on_data, Registers (s.tasks.posted.take call.tasks_run) call.sock
        (some call.delegate) call.data)
      (IOLoop.start D C pipe_in pipe_out) events := by
  have hstart : (IOLoop.start D C pipe_in pipe_out).Meant ∧
      (IOLoop.start D C pipe_in pipe_out).tasks.Conserves ∧
      (IOLoop.start D C pipe_in pipe_out).Tidy :=
    ⟨IOLoop.start_meant _ _, SwapQueue.empty_conserves _, fun _ => rfl⟩
  have hstep : ∀ (s : IOLoop D C) event t, s.Meant ∧ s.tasks.Conserves ∧ s.Tidy →
      s.step capacity event = .ok t → t.Meant ∧ t.tasks.Conserves ∧ t.Tidy :=
    fun s event t h hstep => ⟨h.1.step hstep, IOLoop.step_conserves h.2 hstep⟩
  refine (statesSatisfy_invariant hstep hstart events).mono ?_
  rintro s ⟨hmeant, hconserves, -⟩ call hcall
  obtain ⟨hle, hregisters⟩ := hmeant.on_data call hcall
  obtain ⟨later, hlater⟩ := hconserves.taken_prefix
  rw [← hlater, List.take_append_of_le_length hle]
  exact hregisters

end io_loop

end livox_lidar
