import Livox.Library.Exec
import Livox.Library.OrderedMap

open checked

namespace livox_lidar

def READBLE_EVENT : UInt32 := 1
def WRITABLE_EVENT : UInt32 := 2

/-- A descriptor with the events that it is polled for. -/
structure PollFd where
  fd : Int
  event : UInt32
  deriving DecidableEq, Repr

/-- A call on a back end. With an addition comes the answer of the kernel, which only `epoll` asks
for; `PollCreate` adds the descriptor that it is woken up by before anything else. -/
inductive PollSetEvent where
  | poll_set_add (poll_fd : PollFd) (taken : Bool)
  | poll_set_remove (poll_fd : PollFd)

/-- `GetEvent`, where the back end has its own bits for the events. -/
def get_event (readable writable : UInt32) (event : UInt32) : UInt32 :=
  (if event &&& READBLE_EVENT ≠ 0 then readable else 0) |||
    (if event &&& WRITABLE_EVENT ≠ 0 then writable else 0)

structure Pollfd where
  fd : Int
  events : UInt32
  deriving DecidableEq, Repr

/-- The back end over `poll`; `pollset` is the whole array. -/
structure MultipleIOPoll where
  descriptors : Std.TreeMap Int PollFd
  pollset : List Pollfd
  pollset_num : Nat
  max_poll_size : Nat

namespace MultipleIOPoll

def new (size : Nat) : MultipleIOPoll where
  descriptors := ∅
  pollset := List.replicate (size + 1) { fd := 0, events := 0 }
  pollset_num := 0
  max_poll_size := size + 1

/-- `POLLIN` and `POLLOUT`. -/
def get_event : UInt32 → UInt32 := livox_lidar.get_event 1 4

def poll_set_add (s : MultipleIOPoll) (poll_fd : PollFd) : Checked (Bool × MultipleIOPoll) :=
  if s.max_poll_size ≤ s.descriptors.size then .ok (false, s)
  else do
    let descriptors := s.descriptors.insert poll_fd.fd poll_fd
    let fds : Pollfd := { fd := poll_fd.fd, events := get_event poll_fd.event }
    let pollset ← writeList s.pollset s.pollset_num fds
    .ok (true, { s with descriptors, pollset, pollset_num := s.pollset_num + 1 })

/-- The two loops of `PollSetRemove`, which share the index `i`; there is a `dst` while the inner one
is running. -/
def remove_loop (fd : Int) (pollset : List Pollfd) (pollset_num i : Nat) (dst : Option Nat) :
    Checked (List Pollfd × Nat) :=
  match dst with
  | none =>
    if i < pollset_num then do
      let entry ← readList pollset i
      if entry.fd = fd then remove_loop fd pollset pollset_num (i + 1) (some i)
      else remove_loop fd pollset pollset_num (i + 1) none
    else .ok (pollset, pollset_num)
  | some dst =>
    if i + 1 < pollset_num then do
      let entry ← readList pollset i
      if entry.fd = fd then remove_loop fd pollset (pollset_num - 1) (i + 1) (some dst)
      else do
        let pollset ← writeList pollset dst entry
        remove_loop fd pollset pollset_num (i + 1) (some (dst + 1))
    else remove_loop fd pollset pollset_num (i + 1) none
termination_by 2 * (pollset_num - i) + dst.isSome.toNat
decreasing_by all_goals (simp; omega)

def poll_set_remove (s : MultipleIOPoll) (poll_fd : PollFd) : Checked (Bool × MultipleIOPoll) := do
  let descriptors :=
    if poll_fd.fd ∈ s.descriptors then s.descriptors.erase poll_fd.fd else s.descriptors
  let (pollset, pollset_num) ← remove_loop poll_fd.fd s.pollset s.pollset_num 0 none
  .ok (true, { s with descriptors, pollset, pollset_num })

def step (s : MultipleIOPoll) : PollSetEvent → Checked MultipleIOPoll
  | .poll_set_add poll_fd _ => (s.poll_set_add poll_fd).map Prod.snd
  | .poll_set_remove poll_fd => (s.poll_set_remove poll_fd).map Prod.snd

/-- What `Poll` hands to `poll`. -/
def polled (s : MultipleIOPoll) : List Int := (s.pollset.take s.pollset_num).map Pollfd.fd

end MultipleIOPoll

def FD_SETSIZE : Int := 1024

/-- The bits of an `fd_set` go up to `FD_SETSIZE`. -/
def fd_bit (fd : Int) : Checked Int :=
  if 0 ≤ fd ∧ fd < FD_SETSIZE then .ok fd else .error (.outOfBounds fd.toNat FD_SETSIZE.toNat)

/-- `FD_SET` in the set of an event, for a descriptor that is polled for it. -/
def fd_set (event : UInt32) (poll_fd : PollFd) (fds : Finset Int) : Checked (Finset Int) :=
  if poll_fd.event &&& event ≠ 0 then (fd_bit poll_fd.fd).map fun bit => insert bit fds else .ok fds

/-- The back end over `select`. -/
structure MultipleIOSelect where
  descriptors : Std.TreeMap Int PollFd
  max_fd : Int
  rfds : Finset Int
  wfds : Finset Int
  max_poll_size : Nat

namespace MultipleIOSelect

def new (size : Nat) : MultipleIOSelect where
  descriptors := ∅
  max_fd := -1
  rfds := ∅
  wfds := ∅
  max_poll_size := size + 1

def poll_set_add (s : MultipleIOSelect) (poll_fd : PollFd) : Checked (Bool × MultipleIOSelect) :=
  if s.max_poll_size ≤ s.descriptors.size then .ok (false, s)
  else do
    let fd := poll_fd.fd
    let descriptors := s.descriptors.insert fd poll_fd
    let max_fd := if s.max_fd < fd then fd else s.max_fd
    let rfds ← fd_set READBLE_EVENT poll_fd s.rfds
    let wfds ← fd_set WRITABLE_EVENT poll_fd s.wfds
    .ok (true, { s with descriptors, max_fd, rfds, wfds })

def poll_set_remove (s : MultipleIOSelect) (poll_fd : PollFd) : Checked (Bool × MultipleIOSelect) := do
  let fd := poll_fd.fd
  let descriptors := if fd ∈ s.descriptors then s.descriptors.erase fd else s.descriptors
  let bit ← fd_bit fd
  let max_fd := if s.max_fd ≤ fd then s.max_fd - 1 else s.max_fd
  .ok (true, { s with descriptors, max_fd, rfds := s.rfds.erase bit, wfds := s.wfds.erase bit })

def step (s : MultipleIOSelect) : PollSetEvent → Checked MultipleIOSelect
  | .poll_set_add poll_fd _ => (s.poll_set_add poll_fd).map Prod.snd
  | .poll_set_remove poll_fd => (s.poll_set_remove poll_fd).map Prod.snd

/-- The first argument of `select`. -/
def nfds (s : MultipleIOSelect) : Int := s.max_fd + 1

/-- What `select` looks at: the bits below `nfds`. -/
def polled (s : MultipleIOSelect) : Finset Int := (s.rfds ∪ s.wfds).filter fun fd => fd < s.nfds

end MultipleIOSelect

/-- The back end over `epoll`, with the descriptors that the kernel has on its list and their
events; `pollset_size` is the size of the array that events come to. -/
structure MultipleIOEpoll where
  descriptors : Std.TreeMap Int PollFd
  interest : Std.TreeMap Int UInt32
  pollset_size : Nat
  max_poll_size : Nat

namespace MultipleIOEpoll

def new (size : Nat) : MultipleIOEpoll where
  descriptors := ∅
  interest := ∅
  pollset_size := size
  max_poll_size := size + 1

/-- `EPOLLIN` and `EPOLLOUT`. -/
def get_event : UInt32 → UInt32 := livox_lidar.get_event 1 4

/-- `epoll_ctl` with `EPOLL_CTL_ADD` fails for a descriptor on the list and for one that the kernel
does not take. -/
def poll_set_add (s : MultipleIOEpoll) (poll_fd : PollFd) (taken : Bool) : Bool × MultipleIOEpoll :=
  if s.max_poll_size ≤ s.descriptors.size then (false, s)
  else if taken = false ∨ poll_fd.fd ∈ s.interest then (false, s)
  else
    (true,
      { s with
        interest := s.interest.insert poll_fd.fd (get_event poll_fd.event)
        descriptors := s.descriptors.insert poll_fd.fd poll_fd })

def poll_set_remove (s : MultipleIOEpoll) (poll_fd : PollFd) : Bool × MultipleIOEpoll :=
  let descriptors :=
    if poll_fd.fd ∈ s.descriptors then s.descriptors.erase poll_fd.fd else s.descriptors
  (true, { s with interest := s.interest.erase poll_fd.fd, descriptors })

def step (s : MultipleIOEpoll) : PollSetEvent → Checked MultipleIOEpoll
  | .poll_set_add poll_fd taken => .ok (s.poll_set_add poll_fd taken).2
  | .poll_set_remove poll_fd => .ok (s.poll_set_remove poll_fd).2

/-- How many events `Poll` asks `epoll_wait` for at most. -/
def max_events (s : MultipleIOEpoll) : Nat := s.descriptors.size

end MultipleIOEpoll

end livox_lidar
