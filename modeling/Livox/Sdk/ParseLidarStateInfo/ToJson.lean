import Livox.Library.Json
import Livox.Sdk.ParseLidarStateInfo

open memory checked json

namespace livox_lidar

namespace direct_lidar_state_info

/-- The C types of the fields: integers of a number of bytes, `float`, an array of
`char` and an array of bytes. -/
inductive FieldType where
  | uint (width : Nat)
  | int (width : Nat)
  | float
  | chars
  | octets
  deriving DecidableEq, Repr

/-- A field of the structure: a member or a part of one. -/
structure Field where
  member : Member
  start : Nat
  type : FieldType
  deriving DecidableEq, Repr

namespace Member

variable (member : Member)

def uint : Field := ⟨member, 0, .uint member.size⟩

def int : Field := ⟨member, 0, .int member.size⟩

def uint8 (i : Nat) : Field := ⟨member, i, .uint 1⟩

def uint32 (i : Nat) : Field := ⟨member, 4 * i, .uint 4⟩

def int32 (i : Nat) : Field := ⟨member, 4 * i, .int 4⟩

def float (i : Nat) : Field := ⟨member, 4 * i, .float⟩

def chars : Field := ⟨member, 0, .chars⟩

def octets : Field := ⟨member, 0, .octets⟩

/-- The fields of a member as the structure declares them, without reserved ones. -/
def fields : List Field :=
  match member with
  | .lidar_ipcfg_ip_addr | .lidar_ipcfg_net_mask | .lidar_ipcfg_gw_addr
  | .host_state_info_host_ip_addr | .pointcloud_host_ipcfg_host_ip_addr
  | .imu_host_ipcfg_host_ip_addr | .ctl_host_ipcfg_ip_addr | .log_host_ipcfg_ip_addr
  | .ntp_server_ip_host_ip | .sn | .product_info => [member.chars]
  | .vehicle_speed | .environment_temp | .core_temp | .time_offset => [member.int]
  | .install_attitude => [member.float 0, member.float 1, member.float 2,
      member.int32 3, member.int32 4, member.int32 5]
  | .fov_cfg0 | .fov_cfg1 => [member.int32 0, member.int32 1, member.int32 2, member.int32 3]
  | .imu_range => [member.uint8 0, member.uint8 1, member.uint8 2]
  | .func_io_cfg | .version_app | .version_loader | .version_hardware =>
    [member.uint8 0, member.uint8 1, member.uint8 2, member.uint8 3]
  | .mac => [member.uint8 0, member.uint8 1, member.uint8 2, member.uint8 3, member.uint8 4,
      member.uint8 5]
  | .hms_code => [member.uint32 0, member.uint32 1, member.uint32 2, member.uint32 3,
      member.uint32 4, member.uint32 5, member.uint32 6, member.uint32 7]
  | .status_code => [member.octets]
  | _ => [member.uint]

end Member

namespace Field

variable (info : DirectLidarStateInfo) (field : Field)

/-- The bytes of the field, when it is `width` long. -/
def bytes (width : Nat) : List UInt8 := ((info field.member).1.drop field.start).take width

/-- The number in an integer field, signed or not as its type is. -/
def integer : Int :=
  match field.type with
  | .uint width => value (field.bytes info width)
  | .int width => (value (field.bytes info width) : Int).bmod (2 ^ (8 * width))
  | _ => 0

/-- The bit pattern of a `float`. -/
def bits : UInt32 := UInt32.ofNat (value (field.bytes info 4))

/-- The array that a string is written from. -/
def storage : List UInt8 := (info field.member).1

end Field

end direct_lidar_state_info

namespace parse_lidar_state_info

open direct_lidar_state_info

/-- `std::hex` of a byte. -/
def to_hex (b : UInt8) : List UInt8 :=
  (Nat.toDigits 16 b.toNat).map fun c => UInt8.ofNat c.toNat

/-- The text of `status_code`: its bytes from the last to the first. -/
def status_code_text (status_code : List UInt8) : List UInt8 :=
  List.intercalate [32] (status_code.reverse.map to_hex)

/-- The pattern is that of a number: neither an infinity nor a NaN. -/
def is_finite (bits : UInt32) : Bool := (bits.toNat >>> 23) % 256 ≠ 255

/-- The functions of the writer that write a value, and the block that writes the
status code. -/
inductive Method where
  | Uint
  | Int
  | Uint64
  | Int64
  | Double
  | String
  | status_code
  deriving DecidableEq, Repr

/-- One value that is written: with which function, and from which field. -/
structure Call where
  method : Method
  field : Field
  deriving DecidableEq, Repr

/-- What the call puts out. The argument is converted to the type of the function;
a double that is not finite is not written; a string is read up to its zero. -/
def Call.write (info : DirectLidarStateInfo) (call : Call) : Checked (List (Token UInt32)) :=
  match call.method with
  | .Uint => .ok [.number (call.field.integer info % 2 ^ 32)]
  | .Int => .ok [.number ((call.field.integer info).bmod (2 ^ 32))]
  | .Uint64 => .ok [.number (call.field.integer info % 2 ^ 64)]
  | .Int64 => .ok [.number ((call.field.integer info).bmod (2 ^ 64))]
  | .Double =>
    .ok (if is_finite (call.field.bits info) then [.real (call.field.bits info)] else [])
  | .String => do
    let text ← readString (call.field.storage info)
    pure [.string text]
  | .status_code => .ok [.string (status_code_text (call.field.storage info))]

/-- The value of a member of the report: one call, an object of calls or an array. -/
inductive Shape where
  | value (call : Call)
  | object (members : List (String × Call))
  | array (items : List Call)
  deriving DecidableEq, Repr

/-- Write one after the other. -/
def write_all {α : Type} (write : α → Checked (List (Token UInt32))) :
    List α → Checked (List (Token UInt32))
  | [] => .ok []
  | x :: rest => do
    let first ← write x
    let more ← write_all write rest
    pure (first ++ more)

def Shape.write (info : DirectLidarStateInfo) : Shape → Checked (List (Token UInt32))
  | .value call => call.write info
  | .object members => do
    let tokens ← write_all (fun member => do
      let value ← member.2.write info
      pure (.key member.1 :: value)) members
    pure (.startObject :: tokens ++ [.endObject])
  | .array items => do
    let tokens ← write_all (Call.write info) items
    pure (.startArray :: tokens ++ [.endArray])

/-- The statement that writes one member of the report, when its key is in the set. -/
structure Block where
  key : ParamKeyName
  name : String
  shape : Shape
  deriving DecidableEq, Repr

def Block.write (info : DirectLidarStateInfo) (block : Block) :
    Checked (List (Token UInt32)) := do
  let value ← block.shape.write info
  pure (.key block.name :: value)

/-- A member that is one unsigned number of at most 32 bits. -/
def uint_block (key : ParamKeyName) (name : String) (member : Member) : Block :=
  ⟨key, name, .value ⟨.Uint, member.uint⟩⟩

/-- An address and its two ports. -/
def host_block (key : ParamKeyName) (name : String) (ip dst_port src_port : Member) : Block :=
  ⟨key, name, .object [("ip", ⟨.String, ip.chars⟩), ("dst_port", ⟨.Uint, dst_port.uint⟩),
    ("src_port", ⟨.Uint, src_port.uint⟩)]⟩

def fov_block (key : ParamKeyName) (name : String) (member : Member) : Block :=
  ⟨key, name, .object [("yaw_start", ⟨.Int, member.int32 0⟩), ("yaw_stop", ⟨.Int, member.int32 1⟩),
    ("pitch_start", ⟨.Int, member.int32 2⟩), ("pitch_stop", ⟨.Int, member.int32 3⟩)]⟩

/-- An array of the first `count` of the fields of a member. -/
def array_block (key : ParamKeyName) (name : String) (item : Nat → Field) (count : Nat) : Block :=
  ⟨key, name, .array ((List.range count).map fun i => ⟨.Uint, item i⟩)⟩

def install_attitude_block : Block :=
  ⟨.kKeyInstallAttitude, "install_attitude", .object
    [("roll_deg", ⟨.Double, Member.install_attitude.float 0⟩),
      ("pitch_deg", ⟨.Double, Member.install_attitude.float 1⟩),
      ("yaw_deg", ⟨.Double, Member.install_attitude.float 2⟩),
      ("x_mm", ⟨.Uint, Member.install_attitude.int32 3⟩),
      ("y_mm", ⟨.Uint, Member.install_attitude.int32 4⟩),
      ("z_mm", ⟨.Uint, Member.install_attitude.int32 5⟩)]⟩

/-- The statements of the report, in their order. -/
def blocks : List Block :=
  [uint_block .kKeyPclDataType "pcl_data_type" .pcl_data_type,
    uint_block .kKeyPatternMode "pattern_mode" .pattern_mode,
    uint_block .kKeyDualEmitEn "dual_emit_en" .dual_emit_en,
    uint_block .kKeyPointSendEn "point_send_en" .point_send_en,
    ⟨.kKeyLidarIpCfg, "lidar_ipcfg", .object
      [("lidar_ip", ⟨.String, Member.lidar_ipcfg_ip_addr.chars⟩),
        ("lidar_subnet_mask", ⟨.String, Member.lidar_ipcfg_net_mask.chars⟩),
        ("lidar_gateway", ⟨.String, Member.lidar_ipcfg_gw_addr.chars⟩)]⟩,
    host_block .kKeyStateInfoHostIpCfg "state_info_host_ipcfg" .host_state_info_host_ip_addr
      .host_state_info_host_state_info_port .host_state_info_lidar_state_info_port,
    host_block .kKeyLidarPointDataHostIpCfg "ponitcloud_host_ipcfg"
      .pointcloud_host_ipcfg_host_ip_addr .pointcloud_host_ipcfg_host_point_data_port
      .pointcloud_host_ipcfg_lidar_point_data_port,
    host_block .kKeyLidarImuHostIpCfg "imu_host_ipcfg" .imu_host_ipcfg_host_ip_addr
      .imu_host_ipcfg_host_imu_data_port .imu_host_ipcfg_lidar_imu_data_port,
    host_block .kKeyCtlHostIpCfg "ctl_host_ipcfg" .ctl_host_ipcfg_ip_addr
      .ctl_host_ipcfg_dst_port .ctl_host_ipcfg_src_port,
    host_block .kKeyLogHostIpCfg "log_host_ipcfg" .log_host_ipcfg_ip_addr
      .log_host_ipcfg_dst_port .log_host_ipcfg_src_port,
    ⟨.kKeyVehicleSpeed, "vehicle_speed", .value ⟨.Int, Member.vehicle_speed.int⟩⟩,
    ⟨.kKeyEnvironmentTemp, "environment_temp", .value ⟨.Int, Member.environment_temp.int⟩⟩,
    install_attitude_block,
    uint_block .kKeyBlindSpotSet "blind_spot_set" .blind_spot_set,
    uint_block .kKeyFrameRate "frame_rate" .frame_rate,
    fov_block .kKeyFovCfg0 "fov_cfg0" .fov_cfg0,
    fov_block .kKeyFovCfg1 "fov_cfg1" .fov_cfg1,
    uint_block .kKeyFovCfgEn "fov_cfg_en" .fov_cfg_en,
    uint_block .kKeyDetectMode "detect_mode" .detect_mode,
    ⟨.kKeyFuncIoCfg, "func_io_cfg", .object
      [("IN0", ⟨.Uint, Member.func_io_cfg.uint8 0⟩), ("IN1", ⟨.Uint, Member.func_io_cfg.uint8 1⟩),
        ("OUT0", ⟨.Uint, Member.func_io_cfg.uint8 2⟩),
        ("OUT1", ⟨.Uint, Member.func_io_cfg.uint8 3⟩)]⟩,
    uint_block .kKeyWorkMode "work_tgt_mode" .work_tgt_mode,
    uint_block .kKeyGlassHeat "glass_heat" .glass_heat,
    uint_block .kKeyImuDataEn "imu_data_en" .imu_data_en,
    uint_block .kKeyFusaEn "fusa_en" .fusa_en,
    uint_block .kKeySetEscMode "esc_mode" .esc_mode,
    uint_block .kKeySetFovMode "fov_mode" .fov_mode,
    uint_block .kKeySetEchoMode "echo_mode" .echo_mode,
    ⟨.kKeySetNTPServerIp, "ntp_server_ip",
      .value ⟨.String, Member.ntp_server_ip_host_ip.chars⟩⟩,
    uint_block .kKeySetITOCtrl "ito_mode" .ito_mode,
    uint_block .kKeySetFogNoiseFilter "fog_noise_filter" .fog_noise_filter,
    ⟨.kKeySetImuRange, "imu_range", .object
      [("imu_out_rate", ⟨.Uint, Member.imu_range.uint8 0⟩),
        ("accel_range", ⟨.Uint, Member.imu_range.uint8 1⟩),
        ("gyro_range", ⟨.Uint, Member.imu_range.uint8 2⟩)]⟩,
    ⟨.kKeySn, "sn", .value ⟨.String, Member.sn.chars⟩⟩,
    ⟨.kKeyProductInfo, "product_info", .value ⟨.String, Member.product_info.chars⟩⟩,
    array_block .kKeyVersionApp "version_app" Member.version_app.uint8 4,
    array_block .kKeyVersionLoader "version_loader" Member.version_loader.uint8 4,
    array_block .kKeyVersionHardware "version_hardware" Member.version_hardware.uint8 4,
    array_block .kKeyMac "mac" Member.mac.uint8 6,
    uint_block .kKeyCurWorkState "cur_work_state" .cur_work_state,
    ⟨.kKeyCoreTemp, "core_temp", .value ⟨.Int, Member.core_temp.int⟩⟩,
    uint_block .kKeyPowerUpCnt "powerup_cnt" .powerup_cnt,
    ⟨.kKeyLocalTimeNow, "local_time_now", .value ⟨.Uint64, Member.local_time_now.uint⟩⟩,
    ⟨.kKeyLastSyncTime, "last_sync_time", .value ⟨.Uint64, Member.last_sync_time.uint⟩⟩,
    ⟨.kKeyTimeOffset, "time_offset", .value ⟨.Int64, Member.time_offset.int⟩⟩,
    uint_block .kKeyTimeSyncType "time_sync_type" .time_sync_type,
    ⟨.kKeyStatusCode, "status_code", .value ⟨.status_code, Member.status_code.octets⟩⟩,
    uint_block .kKeyLidarDiagStatus "lidar_diag_status" .lidar_diag_status,
    uint_block .kKeyLidarFlashStatus "lidar_flash_status" .lidar_flash_status,
    uint_block .kKeyFwType "FW_TYPE" .fw_type,
    array_block .kKeyHmsCode "hms_code" Member.hms_code.uint32 8,
    uint_block .kKeyRoiMode "ROI_Mode" .ROI_Mode]

/-- `LivoxLidarStateInfoToJson`. -/
def livox_lidar_state_info_to_json (info : DirectLidarStateInfo)
    (key_mask : Finset ParamKeyName) : Checked (List (Token UInt32)) := do
  let tokens ← write_all (Block.write info) (blocks.filter (·.key ∈ key_mask))
  pure (.startObject :: tokens ++ [.endObject])

end parse_lidar_state_info

end livox_lidar
