import Livox.Library.Exec
import Livox.Library.OrderedMap

open checked ordered_map

namespace livox_lidar

namespace util

/-- What `CreateSocket` has opened a socket with. -/
structure Socket where
  port : UInt16
  is_broadcast : Bool
  netif : List UInt8
  multicast_ip : List UInt8
  deriving DecidableEq, Repr

/-- The calls that can make `CreateSocket` close the new socket again. -/
inductive SocketCall where
  | nonblock
  | reuse_port
  | recv_buff_size
  | bind
  | broadcast
  deriving DecidableEq, Repr

/-- The kernel's answers to the calls of a process, the first of which has number 0: `epoll_ctl` takes a
descriptor or refuses it. A new descriptor is none that is open, nor one of the standard streams. -/
structure Kernel where
  socket : Nat → Std.TreeMap Int Socket → Int
  status : Nat → SocketCall → Socket → Int
  epoll_create : Nat → Int
  epoll_ctl : Nat → Int → Bool
  fresh : ∀ n sockets, 0 ≤ socket n sockets → 0 < socket n sockets ∧ socket n sockets ∉ sockets

/-- The kernel that refuses no socket and no thread. -/
structure Kernel.Grants (kernel : Kernel) : Prop where
  socket : ∀ n sockets, 0 ≤ kernel.socket n sockets
  status : ∀ n call socket, kernel.status n call socket = 0
  epoll_create : ∀ n, 0 ≤ kernel.epoll_create n

/-- The sockets that a process has open, and how many calls it has made. -/
structure Process where
  sockets : Std.TreeMap Int Socket
  calls : Nat

/-- The process after a call that has left nothing open. -/
def Process.called (process : Process) : Process := { process with calls := process.calls + 1 }

/-- The process after a call that has opened a socket. -/
def Process.opened (process : Process) (sock : Int) (socket : Socket) : Process where
  sockets := process.sockets.insert sock socket
  calls := process.calls + 1

/-- `CreateSocket`. The answer to `IP_ADD_MEMBERSHIP` is printed and no more. -/
def create_socket (kernel : Kernel) (process : Process) (port : UInt16)
    (nonblock reuse_port is_broadcast : Bool) (netif multicast_ip : List UInt8) : Int × Process :=
  let socket : Socket := { port, is_broadcast, netif, multicast_ip }
  let sock := kernel.socket process.calls process.sockets
  let status := fun call => kernel.status process.calls call socket
  if sock < 0 then (-1, process.called)
  else if nonblock ∧ status .nonblock ≠ 0 then (-1, process.called)
  else if reuse_port ∧ status .reuse_port ≠ 0 then (-1, process.called)
  else if status .recv_buff_size ≠ 0 then (-1, process.called)
  else if status .bind ≠ 0 then (-1, process.called)
  else if is_broadcast ∧ status .broadcast ≠ 0 then (-1, process.called)
  else (sock, process.opened sock socket)

/-- `CloseSock`. To close a descriptor that is not open would close whatever has been opened under its
number since. -/
def close_sock (process : Process) (sock : Int) : Checked Process :=
  if sock > 0 then
    if sock ∈ process.sockets then .ok { process with sockets := process.sockets.erase sock }
    else .error .precondition
  else .ok process

/-- The thread of a loop, as far as the kernel can refuse it: `IOThread::Init`. -/
def create_io_thread (kernel : Kernel) (process : Process) : Bool × Process :=
  (decide (0 ≤ kernel.epoll_create process.calls), process.called)

section Spec

variable (kernel : Kernel) (process : Process) (port : UInt16) (nonblock reuse_port is_broadcast : Bool)
  (netif multicast_ip : List UInt8)

/-- A socket is opened under a new number, or nothing is left open. -/
theorem create_socket_cases :
    create_socket kernel process port nonblock reuse_port is_broadcast netif multicast_ip =
      (-1, process.called) ∨
    ∃ sock, 0 < sock ∧ sock ∉ process.sockets ∧
      create_socket kernel process port nonblock reuse_port is_broadcast netif multicast_ip =
        (sock, process.opened sock { port, is_broadcast, netif, multicast_ip }) := by
  rw [create_socket]
  dsimp only
  split
  · exact .inl rfl
  case isFalse hsock =>
    obtain ⟨hpositive, hnew⟩ := kernel.fresh process.calls process.sockets (not_lt.mp hsock)
    split
    · exact .inl rfl
    split
    · exact .inl rfl
    split
    · exact .inl rfl
    split
    · exact .inl rfl
    split
    · exact .inl rfl
    · exact .inr ⟨_, hpositive, hnew, rfl⟩

theorem Kernel.Grants.create_socket {kernel : Kernel} (h : kernel.Grants) :
    ∃ sock, 0 < sock ∧ sock ∉ process.sockets ∧
      util.create_socket kernel process port nonblock reuse_port is_broadcast netif multicast_ip =
        (sock, process.opened sock { port, is_broadcast, netif, multicast_ip }) := by
  obtain ⟨hpositive, hnew⟩ := kernel.fresh process.calls process.sockets (h.socket _ _)
  refine ⟨_, hpositive, hnew, ?_⟩
  rw [util.create_socket]
  simp [h.status, not_lt.mpr (h.socket process.calls process.sockets)]

end Spec

end util

end livox_lidar
