import Livox.Library.Exec
import Livox.Library.OrderedMap
import Livox.Sdk.Api
import Livox.Sdk.LivoxLidarDef

open checked

namespace livox_lidar

def kDetectionPort : UInt16 := 56000
def kPaLidarFaultPort : UInt16 := 10001

def kCommandIDLidarSearch : UInt16 := 0x0000

def kCommandTypeCmd : UInt8 := 0
def kCommandTypeAck : UInt8 := 1

/-- `KDefaultTimeOut`, in milliseconds. -/
def KDefaultTimeOut : Nat := 1000

namespace general_command_handler

/-- The classes of command handlers. -/
inductive HandlerType where
  | hap
  | mid360
  | mid360s
  | avia2
  deriving DecidableEq, Repr

/-- The class that is created for a type of device. -/
def handler_type (dev_type : UInt8) : Option HandlerType :=
  if dev_type = kLivoxLidarTypeIndustrialHAP then some .hap
  else if dev_type = kLivoxLidarTypeMid360 then some .mid360
  else if dev_type = kLivoxLidarTypeMid360s then some .mid360s
  else if dev_type = kLivoxLidarTypeAvia2 then some .avia2
  else none

/-- What the sending of a command does to the shared state, one step after the
other: other threads run between them. -/
inductive Op where
  | add_command
  | send_datagram
  deriving DecidableEq, Repr

/-- `SendCommand` of a handler. The HAP registers the command before it sends it. -/
def HandlerType.send_command : HandlerType → List Op
  | hap => [.add_command, .send_datagram]
  | mid360 | mid360s | avia2 => [.send_datagram]

/-- `GeneralCommandHandler::SendCommand` from the handler's `SendCommand` on, whose
result it does not look at. -/
def HandlerType.program (type : HandlerType) : List Op :=
  type.send_command ++ [.add_command]

/-- A command, and whether `GeneralCommandHandler::SendCommand` was called for it or
another function of the SDK. `id` tells the calls apart. -/
structure Command where
  id : Nat
  seq_num : UInt32
  cmd_id : UInt16
  handle : UInt32
  time_out : Nat
  general : Bool
  deriving DecidableEq, Repr

/-- What is looked at of a received packet. -/
structure Packet where
  seq_num : UInt32
  cmd_id : UInt16
  cmd_type : UInt8
  deriving DecidableEq, Repr

/-- A call of a command's callback; one for an ACK has the handle and the packet. -/
structure Callback where
  command : Command
  status : LivoxLidarStatus
  answer : Option (UInt32 × Packet)
  deriving DecidableEq, Repr

/-- The shared state of the handler: the last sequence number, the handlers, the types
of the known devices and the registered commands with their deadlines. Beside it
stand the calls that are still running, with the steps that they still have to do,
and the records of the calls and of the callbacks so far. -/
structure State where
  seq : UInt32
  lidars_command_handler : List UInt8
  device_dev_type : Std.TreeMap UInt32 UInt8
  commands : Std.TreeMap UInt32 (Command × Nat)
  sending : Std.TreeMap Nat (Command × List Op)
  submitted : List Command
  calls : List Callback

/-- The state after `Init`, with the handlers that it creates. -/
def State.start (lidars_command_handler : List UInt8) : State where
  seq := 1
  lidars_command_handler
  device_dev_type := ∅
  commands := ∅
  sending := ∅
  submitted := []
  calls := []

/-- One step of one of the threads. -/
inductive Event where
  | detected (handle : UInt32) (dev_type : UInt8)
  | send_command (handle : UInt32) (cmd_id : UInt16)
  | send_other_command (handle : UInt32) (cmd_id : UInt16) (program : List Op)
  | proceed (id : Nat) (sent : Bool) (now : Nat)
  | handler (handle : UInt32) (lidar_port : UInt16) (packet : Packet)
  | handler_of_type (dev_type : UInt8) (handle : UInt32) (lidar_port : UInt16) (packet : Packet)
  | commands_handle (now : Nat)
  deriving Repr

namespace State

/-- `GenerateSeq::GetSeq`. -/
def get_seq (s : State) : UInt32 :=
  if s.seq = 0xFFFF then 1 else s.seq + 1

/-- `GetLidarCommandHandler` of a type of device. -/
def get_lidar_command_handler (s : State) (dev_type : UInt8) : Option HandlerType :=
  if dev_type ∈ s.lidars_command_handler then handler_type dev_type else none

/-- The first data of a lidar: `CreateCommandHandler`, and the type of the device. -/
def detect (s : State) (handle : UInt32) (dev_type : UInt8) : State :=
  { s with
    lidars_command_handler :=
      if dev_type ∈ s.lidars_command_handler then s.lidars_command_handler
      else if (handler_type dev_type).isSome then dev_type :: s.lidars_command_handler
      else s.lidars_command_handler
    device_dev_type := s.device_dev_type.insertIfNew handle dev_type }

/-- A new command, with its steps to come. -/
def submit (s : State) (handle : UInt32) (cmd_id : UInt16) (general : Bool) (program : List Op) :
    State :=
  let command : Command :=
    { id := s.submitted.length, seq_num := s.get_seq, cmd_id, handle, time_out := KDefaultTimeOut,
      general }
  { s with
    seq := s.get_seq
    sending := if program = [] then s.sending else s.sending.insert command.id (command, program)
    submitted := command :: s.submitted }

/-- `SendCommand` up to the handler's: without a handler it returns `SendFailed` and
nothing is left of the command but the number it has used up. -/
def send_command (s : State) (handle : UInt32) (cmd_id : UInt16) : State :=
  match s.device_dev_type[handle]?.bind s.get_lidar_command_handler with
  | none => { s with seq := s.get_seq }
  | some type => s.submit handle cmd_id true type.program

/-- `AddCommand`. -/
def add_command (s : State) (command : Command) (now : Nat) : State :=
  { s with commands := s.commands.insert command.seq_num (command, now + command.time_out) }

/-- Call the callback of a command. -/
def call (s : State) (command : Command) (status : LivoxLidarStatus)
    (answer : Option (UInt32 × Packet)) : State :=
  { s with calls := ⟨command, status, answer⟩ :: s.calls }

/-- The call goes on to its other steps, or returns. -/
def advance (s : State) (id : Nat) (command : Command) (rest : List Op) : State :=
  { s with
    sending := if rest = [] then s.sending.erase id else s.sending.insert id (command, rest) }

/-- One step of a call that is running, and whether `sendto` succeeded if it sends. -/
def proceed (s : State) (id : Nat) (sent : Bool) (now : Nat) : Checked State :=
  match s.sending[id]? with
  | none | some (_, []) => .error .precondition
  | some (command, op :: rest) =>
    let s := s.advance id command rest
    match op with
    | .add_command => .ok (s.add_command command now)
    | .send_datagram =>
      .ok (if sent then s else s.call command .kLivoxLidarStatusSendFailed none)

/-- Take the command with the number of an ACK, and call its callback. -/
def acknowledge (s : State) (seq : UInt32) (handle : UInt32) (packet : Packet) : State :=
  match s.commands[seq]? with
  | none => s
  | some (command, _) =>
    { s with commands := s.commands.erase seq }.call command .kLivoxLidarStatusSuccess
      (some (handle, packet))

/-- `Handler` of a packet from a handle, and of one from a device of a known type, with
the number that each looks up; none when it does not come to that. -/
def looked_up (s : State) : Event → Option (UInt32 × UInt32 × Packet)
  | .handler handle lidar_port packet =>
    if lidar_port = kDetectionPort ∧ packet.cmd_id = kCommandIDLidarSearch then none
    else if packet.cmd_type = kCommandTypeAck then some (packet.seq_num, handle, packet)
    else none
  | .handler_of_type dev_type handle lidar_port packet =>
    if dev_type = kLivoxLidarTypePA ∧ lidar_port = kPaLidarFaultPort then none
    else if lidar_port = kDetectionPort ∧ packet.cmd_id = kCommandIDLidarSearch then none
    else if s.get_lidar_command_handler dev_type = none then none
    else if packet.cmd_type = kCommandTypeAck then
      some (packet.seq_num.toUInt16.toUInt32, handle, packet)
    else none
  | _ => none

/-- The registered commands whose deadline has passed, in the order of the map. -/
def expired (s : State) (now : Nat) : List Command :=
  (s.commands.toList.filter fun entry => entry.2.2 < now).map fun entry => entry.2.1

/-- `CommandsHandle`. -/
def commands_handle (s : State) (now : Nat) : State :=
  (s.expired now).foldl (fun s command => s.call command .kLivoxLidarStatusTimeout none)
    { s with commands := s.commands.filter fun _ entry => ¬ entry.2 < now }

/-- One step. -/
def step (s : State) (e : Event) : Checked State :=
  match e with
  | .detected handle dev_type => .ok (s.detect handle dev_type)
  | .send_command handle cmd_id => .ok (s.send_command handle cmd_id)
  | .send_other_command handle cmd_id program => .ok (s.submit handle cmd_id false program)
  | .proceed id sent now => s.proceed id sent now
  | .handler .. | .handler_of_type .. =>
    match s.looked_up e with
    | none => .ok s
    | some (seq, handle, packet) => .ok (s.acknowledge seq handle packet)
  | .commands_handle now => .ok (s.commands_handle now)

end State

end general_command_handler

end livox_lidar
