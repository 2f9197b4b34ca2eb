import Livox.Library.SwapQueue
import Livox.Sdk.MultipleIO.PollSets

open checked swap_queue

namespace livox_lidar

namespace io_loop

/-- The pipe that a loop is woken up through, with the number of bytes in it. A pipe that could not
be created leaves both of its ends zero. -/
structure WakeUpPipe where
  pipe_in : Int
  pipe_out : Int
  bytes : Nat

/-- `WakeUpPipe::WakeUp`; `none` while the caller stays blocked, as the pipe is full. -/
def WakeUpPipe.wake_up (capacity : Nat) (pipe : WakeUpPipe) : Option WakeUpPipe :=
  if pipe.pipe_in > 0 then
    if pipe.bytes < capacity then some { pipe with bytes := pipe.bytes + 1 } else none
  else some pipe

/-- `WakeUpPipe::Drain` reads at most 512 bytes. -/
def WakeUpPipe.drain (pipe : WakeUpPipe) : WakeUpPipe :=
  if pipe.pipe_out > 0 then { pipe with bytes := pipe.bytes - 512 } else pipe

/-- The callback of a descriptor: the one that drains the pipe, or one that hands the socket to a
delegate, which may be null. -/
inductive EventCallback (D C : Type) where
  | drain
  | on_data (delegate : Option D) (data : C)

/-- What `AddDelegate` and `RemoveDelegate` post. -/
inductive IOLoopTask (D C : Type) where
  | add_delegate_async (sock : Int) (delegate : Option D) (data : C)
  | remove_delegate_async (sock : Int)

def IOLoopTask.sock {D C : Type} : IOLoopTask D C → Int
  | .add_delegate_async sock _ _ => sock
  | .remove_delegate_async sock => sock

inductive PostPlace where
  | push_back
  | wakeup
  | done
  deriving DecidableEq, Repr

/-- A call of `PostTask`: it appends the task under the lock, and wakes the loop up after that. -/
structure PostCall (D C : Type) where
  task : IOLoopTask D C
  place : PostPlace

/-- Where `ThreadFunc` stands: before the test of the flag, in the wait of `Poll`, with descriptors
left that were ready, before the swap of `Loop`, in its tasks, or at its end. -/
inductive LoopPlace where
  | is_quit
  | poll
  | event_callbacks (ready : List Int)
  | swap
  | tasks
  | ended

/-- A call of `OnData`, and how many tasks the loop had run by then. -/
structure Delivery (D C : Type) where
  sock : Int
  delegate : D
  data : C
  tasks_run : Nat

/-- `IOLoop` over the back end that the SDK uses on Linux, with its thread and the calls of
`PostTask` in progress. `callbacks` has the callbacks of `descriptors_`, and `on_data` the calls that
have been made to delegates. -/
structure IOLoop (D C : Type) where
  multiple_io_base : MultipleIOEpoll
  callbacks : Std.TreeMap Int (EventCallback D C)
  wake_up_pipe : WakeUpPipe
  tasks : SwapQueue (IOLoopTask D C)
  calls : List (PostCall D C)
  quit : Bool
  place : LoopPlace
  on_data : List (Delivery D C)

/-- Somebody posts a task, a call of `PostTask` makes its next step, the thread of the loop makes its
next step, or `Join` asks it to quit. The kernel answers what is `ready`, and whether it has `taken`
a descriptor. -/
inductive IOLoopEvent (D C : Type) where
  | post_task (task : IOLoopTask D C)
  | post (call : Nat)
  | loop (ready : List Int) (taken : Bool)
  | join

section Step

variable {D C : Type}

/-- The descriptor of a task. -/
def readable (fd : Int) : PollFd := { fd, event := READBLE_EVENT }

def IOLoop.add_delegate_async (s : IOLoop D C) (sock : Int) (delegate : Option D) (data : C)
    (taken : Bool) : IOLoop D C :=
  match s.multiple_io_base.poll_set_add (readable sock) taken with
  | (true, multiple_io_base) =>
    { s with multiple_io_base, callbacks := s.callbacks.insert sock (.on_data delegate data) }
  | (false, multiple_io_base) => { s with multiple_io_base }

def IOLoop.remove_delegate_async (s : IOLoop D C) (sock : Int) : IOLoop D C :=
  { s with
    multiple_io_base := (s.multiple_io_base.poll_set_remove (readable sock)).2
    callbacks := s.callbacks.erase sock }

def IOLoop.run_task (s : IOLoop D C) (taken : Bool) : IOLoopTask D C → IOLoop D C
  | .add_delegate_async sock delegate data => s.add_delegate_async sock delegate data taken
  | .remove_delegate_async sock => s.remove_delegate_async sock

/-- The callback of a descriptor that is ready to be read. One that is not registered has none. -/
def IOLoop.event_callback (s : IOLoop D C) (fd : Int) : IOLoop D C :=
  match s.callbacks[fd]? with
  | none => s
  | some .drain => { s with wake_up_pipe := s.wake_up_pipe.drain }
  | some (.on_data none _) => s
  | some (.on_data (some delegate) data) =>
    { s with
      on_data := s.on_data ++ [{ sock := fd, delegate, data, tasks_run := s.tasks.taken.length }] }

/-- What `epoll_wait` may answer: descriptors of its list, and the end of the pipe just if there is
something in it. It answers nothing only when the wait has timed out. -/
def IOLoop.Answers (s : IOLoop D C) (ready : List Int) : Prop :=
  (∀ fd ∈ ready, fd ∈ s.multiple_io_base.interest) ∧
    (s.wake_up_pipe.pipe_out ∈ ready ↔
      s.wake_up_pipe.pipe_out ∈ s.multiple_io_base.interest ∧ 0 < s.wake_up_pipe.bytes)

instance (s : IOLoop D C) (ready : List Int) : Decidable (s.Answers ready) :=
  inferInstanceAs (Decidable (_ ∧ (_ ↔ _)))

/-- The next step of the thread. -/
def IOLoop.loop (s : IOLoop D C) (ready : List Int) (taken : Bool) : IOLoop D C :=
  match s.place with
  | .is_quit => { s with place := if s.quit then .ended else .poll }
  | .poll => if s.Answers ready then { s with place := .event_callbacks ready } else s
  | .event_callbacks [] => { s with place := .swap }
  | .event_callbacks (fd :: rest) => { s with place := .event_callbacks rest }.event_callback fd
  | .swap => { s with tasks := s.tasks.swap, place := .tasks }
  | .tasks =>
    match s.tasks.batch with
    | [] => { s with place := .is_quit }
    | task :: _ => { s with tasks := s.tasks.take }.run_task taken task
  | .ended => s

/-- The next step of a call. -/
def IOLoop.post (capacity : Nat) (s : IOLoop D C) (k : Nat) (call : PostCall D C) : IOLoop D C :=
  match call.place with
  | .push_back =>
    { s with
      tasks := s.tasks.post [call.task]
      calls := s.calls.set k { call with place := .wakeup } }
  | .wakeup =>
    match s.wake_up_pipe.wake_up capacity with
    | none => s
    | some wake_up_pipe =>
      { s with wake_up_pipe, calls := s.calls.set k { call with place := .done } }
  | .done => s

def IOLoop.step (capacity : Nat) (s : IOLoop D C) : IOLoopEvent D C → Checked (IOLoop D C)
  | .post_task task => .ok { s with calls := s.calls ++ [{ task, place := .push_back }] }
  | .post k =>
    match s.calls[k]? with
    | none => .ok s
    | some call => .ok (s.post capacity k call)
  | .loop ready taken => .ok (s.loop ready taken)
  | .join => .ok { s with quit := true }

/-- `Init` and `Start`, where the kernel takes the pipe's end: `PollCreate` registers it first. -/
def IOLoop.start (D C : Type) (pipe_in pipe_out : Int) : IOLoop D C where
  multiple_io_base := ((MultipleIOEpoll.new OPEN_MAX_POLL).poll_set_add (readable pipe_out) true).2
  callbacks := (∅ : Std.TreeMap Int (EventCallback D C)).insert pipe_out .drain
  wake_up_pipe := { pipe_in, pipe_out, bytes := 0 }
  tasks := SwapQueue.empty _
  calls := []
  quit := false
  place := .is_quit
  on_data := []

end Step

end io_loop

end livox_lidar
