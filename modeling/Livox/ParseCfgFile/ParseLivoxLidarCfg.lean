import Livox.Comm.Types
import Livox.Library.Exec

open checked

namespace livox_ros

/-- A value of the configuration file. A number is an `int` when it is one that
`GetInt` accepts. -/
inductive Value (F : Type) where
  | null
  | bool (value : Bool)
  | int (value : Int32)
  | number (value : F)
  | string (value : String)
  | array (elements : List (Value F))
  | object (members : List (String × Value F))

namespace Value

variable {F : Type}

/-- Only an object may be asked for a member, and the first of a name counts. -/
def find_member (value : Value F) (name : String) : Checked (Option (Value F)) :=
  match value with
  | .object members => .ok ((members.find? fun member => member.1 == name).map Prod.snd)
  | _ => .error .precondition

def has_member (value : Value F) (name : String) : Checked Bool := do
  let found ← value.find_member name
  .ok found.isSome

/-- `value[name]`, which must be there. -/
def member (value : Value F) (name : String) : Checked (Value F) := do
  match ← value.find_member name with
  | some found => .ok found
  | none => .error .precondition

def get_int : Value F → Checked Int32
  | .int value => .ok value
  | _ => .error .precondition

def get_string : Value F → Checked String
  | .string value => .ok value
  | _ => .error .precondition

def get_float [IntCast F] : Value F → Checked F
  | .int value => .ok (value.toInt : F)
  | .number value => .ok value
  | _ => .error .precondition

/-- The integer of a member, if the object has the member. -/
def int_member (value : Value F) (name : String) : Checked (Option Int32) := do
  if ← value.has_member name then
    let found ← value.member name
    let number ← found.get_int
    .ok (some number)
  else .ok none

def float_member [IntCast F] (value : Value F) (name : String) : Checked (Option F) := do
  if ← value.has_member name then
    let found ← value.member name
    let number ← found.get_float
    .ok (some number)
  else .ok none

end Value

section Parse

variable {F : Type} [Zero F] [IntCast F]

/-- Each member that is left out is zero. -/
def parse_extrinsics (value : Value F) : Checked (ExtParameter F) := do
  let roll ← value.float_member "roll"
  let pitch ← value.float_member "pitch"
  let yaw ← value.float_member "yaw"
  let x ← value.int_member "x"
  let y ← value.int_member "y"
  let z ← value.int_member "z"
  .ok
    { roll := roll.getD 0, pitch := pitch.getD 0, yaw := yaw.getD 0
      x := x.getD 0, y := y.getD 0, z := z.getD 0 }

def ExtParameter.zero (F : Type) [Zero F] : ExtParameter F :=
  { roll := 0, pitch := 0, yaw := 0, x := 0, y := 0, z := 0 }

/-- The extrinsics of an entry, which are zero for an entry without them. -/
def extrinsic_parameter (config : Value F) : Checked (ExtParameter F) := do
  if ← config.has_member "extrinsic_parameter" then
    let value ← config.member "extrinsic_parameter"
    parse_extrinsics value
  else .ok (ExtParameter.zero F)

variable (ip_string_to_num : String → UInt32)

/-- One iteration of the loop of `ParseUserConfigs`; an entry without an address
is passed over. Every integer but the address is cast to eight bits on its way
into its field, that of the blind spot included. -/
def parse_user_config (config : Value F) : Checked (Option (UserLivoxLidarConfig F)) := do
  if ← config.has_member "ip" then
    let ip ← config.member "ip"
    let ip ← ip.get_string
    let pcl_data_type ← config.int_member "pcl_data_type"
    let pattern_mode ← config.int_member "pattern_mode"
    let blind_spot_set ← config.int_member "blind_spot_set"
    let dual_emit_en ← config.int_member "dual_emit_en"
    let extrinsic_param ← extrinsic_parameter config
    .ok (some
      { handle := ip_string_to_num ip
        pcl_data_type := (pcl_data_type.map Int32.toInt8).getD (-1)
        pattern_mode := (pattern_mode.map Int32.toInt8).getD (-1)
        blind_spot_set := (blind_spot_set.map fun value => value.toInt8.toInt32).getD (-1)
        dual_emit_en := (dual_emit_en.map fun value => value.toUInt32.toUInt8.toInt8).getD (-1)
        extrinsic_param
        set_bits := 0
        get_bits := 0 })
  else .ok none

/-- `ParseUserConfigs` on the entries of `lidar_configs`, in their order. -/
def parse_user_configs : List (Value F) → Checked (List (UserLivoxLidarConfig F))
  | [] => .ok []
  | config :: lidar_configs => do
    let user_config ← parse_user_config ip_string_to_num config
    let user_configs ← parse_user_configs lidar_configs
    .ok (user_config.toList ++ user_configs)

/-- `Parse` of the document, which is `none` for a file that cannot be read or
parsed. The driver goes on with whatever configurations there are. -/
def parse (doc : Option (Value F)) : Checked (List (UserLivoxLidarConfig F)) :=
  match doc with
  | none => .ok []
  | some doc => do
    match ← doc.find_member "lidar_configs" with
    | some (.array lidar_configs) => parse_user_configs ip_string_to_num lidar_configs
    | _ => .ok []

end Parse

end livox_ros
