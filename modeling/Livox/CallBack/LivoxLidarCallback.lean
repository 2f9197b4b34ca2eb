import Livox.LdsLidar
import Livox.Sdk.Api

open checked livox_lidar

namespace livox_ros

/-- The parameters of a lidar that its configuration may set, each of which has
a bit in `set_bits` while its command is not answered. -/
inductive ConfigParam where
  | pcl_data_type
  | pattern_mode
  | blind_spot_set
  | dual_emit_en
  deriving DecidableEq, Repr

instance : Fintype ConfigParam where
  elems := {.pcl_data_type, .pattern_mode, .blind_spot_set, .dual_emit_en}
  complete := by
    intro param
    cases param <;> decide

/-- `LivoxLidarConfigCodeBit`. -/
def ConfigParam.code_bit : ConfigParam → UInt32
  | pcl_data_type => (1 : UInt32) <<< 0
  | pattern_mode => (1 : UInt32) <<< 1
  | blind_spot_set => (1 : UInt32) <<< 2
  | dual_emit_en => (1 : UInt32) <<< 3

section Commands

variable {F : Type}

/-- A parameter is set when its field is not `-1`. -/
def UserLivoxLidarConfig.sets (config : UserLivoxLidarConfig F) : ConfigParam → Bool
  | .pcl_data_type => config.pcl_data_type != -1
  | .pattern_mode => config.pattern_mode != -1
  | .blind_spot_set => config.blind_spot_set != -1
  | .dual_emit_en => config.dual_emit_en != -1

/-- The call that sends a parameter of the configuration. -/
def UserLivoxLidarConfig.api_call (config : UserLivoxLidarConfig F) : ConfigParam → ApiCall F
  | .pcl_data_type => .set_livox_lidar_pcl_data_type config.pcl_data_type.toInt32
  | .pattern_mode => .set_livox_lidar_scan_pattern config.pattern_mode.toInt32
  | .blind_spot_set => .set_livox_lidar_blind_spot config.blind_spot_set.toUInt32
  | .dual_emit_en => .set_livox_lidar_dual_emit (if config.dual_emit_en = 0 then false else true)

def UserLivoxLidarConfig.attitude (config : UserLivoxLidarConfig F) : LivoxLidarInstallAttitude F where
  roll_deg := config.extrinsic_param.roll
  pitch_deg := config.extrinsic_param.pitch
  yaw_deg := config.extrinsic_param.yaw
  x := config.extrinsic_param.x
  y := config.extrinsic_param.y
  z := config.extrinsic_param.z

def LidarDevice.set_bits_or (device : LidarDevice F) (bit : UInt32) : LidarDevice F :=
  { device with
    livox_config := { device.livox_config with set_bits := device.livox_config.set_bits ||| bit } }

def LidarDevice.set_bits_clear (device : LidarDevice F) (bit : UInt32) : LidarDevice F :=
  { device with
    livox_config := { device.livox_config with set_bits := device.livox_config.set_bits &&& ~~~bit } }

/-- Once no command is waited for, the lidar is sampling. -/
def LidarDevice.check_sampling (device : LidarDevice F) : LidarDevice F :=
  if device.livox_config.set_bits = 0 then { device with connect_state := .kConnectStateSampling }
  else device

/-- One of the four blocks of `LidarInfoChangeCallback`: mark the parameter and
send its command, if the configuration sets it. -/
def send_param (param : ConfigParam) (device : LidarDevice F) :
    LidarDevice F × List (ApiCall F) :=
  if device.livox_config.sets param then
    (device.set_bits_or param.code_bit, [device.livox_config.api_call param])
  else (device, [])

/-- The blocks of these parameters, one after the other. -/
def send_params : List ConfigParam → LidarDevice F → LidarDevice F × List (ApiCall F)
  | [], device => (device, [])
  | param :: params, device =>
    let (device, call) := send_param param device
    let (device, calls) := send_params params device
    (device, call ++ calls)

/-- What `LidarInfoChangeCallback` does under the configuration lock. -/
def send_config (device : LidarDevice F) : LidarDevice F × List (ApiCall F) :=
  let sent := send_params [.pcl_data_type, .pattern_mode, .blind_spot_set, .dual_emit_en] device
  (sent.1.check_sampling, sent.2)

/-- The calls with which every report of a lidar ends. -/
def start_commands (handle : UInt32) : List (ApiCommand F) :=
  [{ handle, call := .set_livox_lidar_work_mode kLivoxLidarNormal },
    { handle, call := .enable_livox_lidar_imu_data }]

/-- The commands of a report of a lidar in the table: its parameters, its
attitude and the start. The attitude goes to the handle of the stored
configuration, not to the reported one. -/
def config_commands (handle : UInt32) (config : UserLivoxLidarConfig F) (calls : List (ApiCall F)) :
    List (ApiCommand F) :=
  calls.map (ApiCommand.mk handle) ++
    [{ handle := config.handle, call := .set_livox_lidar_install_attitude config.attitude }] ++
    start_commands handle

/-- `LidarInfoChangeCallback` with the table as its client data. -/
def lidar_info_change_callback (lds : LdsLidar F) (handle : UInt32) :
    Checked (LdsLidar F × List (ApiCommand F)) := do
  match lds.get_lidar_device handle with
  | none =>
    match lds.cache_index.get_free_index LidarProtoType.kLivoxLidarType.val handle with
    | (none, cache_index) => .ok ({ lds with cache_index }, [])
    | (some index, cache_index) =>
      let lds ← { lds with cache_index }.modify_lidar index fun device =>
        { device with lidar_type := LidarProtoType.kLivoxLidarType.val }
      .ok (lds, start_commands handle)
  | some index =>
    let device ← lds.lidar index
    let (configured, calls) := send_config device
    let lds ← lds.modify_lidar index fun _ => configured
    .ok (lds, config_commands handle device.livox_config calls)

/-- The four parameter callbacks, which differ in their bit and in the call of
a retry. A failure's response is printed, so it must not be null. -/
def set_param_callback (param : ConfigParam) (retry : UserLivoxLidarConfig F → ApiCall F)
    (lds : LdsLidar F) (status : LivoxLidarStatus) (handle : UInt32)
    (response : Option LivoxLidarAsyncControlResponse) :
    Checked (LdsLidar F × List (ApiCommand F)) := do
  match lds.get_lidar_device handle with
  | none => .ok (lds, [])
  | some index =>
    match status with
    | .kLivoxLidarStatusSuccess =>
      let lds ← lds.modify_lidar index fun device =>
        (device.set_bits_clear param.code_bit).check_sampling
      .ok (lds, [])
    | .kLivoxLidarStatusTimeout =>
      let device ← lds.lidar index
      .ok (lds, [{ handle, call := retry device.livox_config }])
    | _ =>
      match response with
      | none => .error .nullDereference
      | some _ => .ok (lds, [])

def set_data_type_callback (lds : LdsLidar F) (status : LivoxLidarStatus) (handle : UInt32)
    (response : Option LivoxLidarAsyncControlResponse) : Checked (LdsLidar F × List (ApiCommand F)) :=
  set_param_callback .pcl_data_type
    (fun config => .set_livox_lidar_pcl_data_type config.pcl_data_type.toInt32) lds status handle
    response

def set_pattern_mode_callback (lds : LdsLidar F) (status : LivoxLidarStatus) (handle : UInt32)
    (response : Option LivoxLidarAsyncControlResponse) : Checked (LdsLidar F × List (ApiCommand F)) :=
  set_param_callback .pattern_mode
    (fun config => .set_livox_lidar_scan_pattern config.pattern_mode.toInt32) lds status handle
    response

def set_blind_spot_callback (lds : LdsLidar F) (status : LivoxLidarStatus) (handle : UInt32)
    (response : Option LivoxLidarAsyncControlResponse) : Checked (LdsLidar F × List (ApiCommand F)) :=
  set_param_callback .blind_spot_set
    (fun config => .set_livox_lidar_blind_spot config.blind_spot_set.toUInt32) lds status handle
    response

/-- The retry converts the stored integer to a truth value by itself. -/
def set_dual_emit_callback (lds : LdsLidar F) (status : LivoxLidarStatus) (handle : UInt32)
    (response : Option LivoxLidarAsyncControlResponse) : Checked (LdsLidar F × List (ApiCommand F)) :=
  set_param_callback .dual_emit_en
    (fun config => .set_livox_lidar_dual_emit (config.dual_emit_en != 0)) lds status handle response

/-- The retry of the attitude goes to the handle of the configuration again. -/
def set_attitude_callback (lds : LdsLidar F) (status : LivoxLidarStatus) (handle : UInt32)
    (_response : Option LivoxLidarAsyncControlResponse) :
    Checked (LdsLidar F × List (ApiCommand F)) := do
  match lds.get_lidar_device handle with
  | none => .ok (lds, [])
  | some index =>
    match status with
    | .kLivoxLidarStatusTimeout =>
      let device ← lds.lidar index
      .ok
        (lds,
          [{ handle := device.livox_config.handle
             call := .set_livox_lidar_install_attitude device.livox_config.attitude }])
    | _ => .ok (lds, [])

/-- Whatever the failure, the work mode is requested again. -/
def work_mode_changed_callback (lds : LdsLidar F) (status : LivoxLidarStatus) (handle : UInt32)
    (_response : Option LivoxLidarAsyncControlResponse) :
    Checked (LdsLidar F × List (ApiCommand F)) :=
  match status with
  | .kLivoxLidarStatusSuccess => .ok (lds, [])
  | _ => .ok (lds, [{ handle, call := .set_livox_lidar_work_mode kLivoxLidarNormal }])

/-- The null response that a timeout comes with ends the attempts. -/
def enable_livox_lidar_imu_data_callback (lds : LdsLidar F) (status : LivoxLidarStatus)
    (handle : UInt32) (response : Option LivoxLidarAsyncControlResponse) :
    Checked (LdsLidar F × List (ApiCommand F)) :=
  match lds.get_lidar_device handle, response with
  | some _, some _ =>
    match status with
    | .kLivoxLidarStatusTimeout => .ok (lds, [{ handle, call := .enable_livox_lidar_imu_data }])
    | _ => .ok (lds, [])
  | _, _ => .ok (lds, [])

/-- The callback that the driver passes along with a call. -/
def callback_of (call : ApiCall F) :
    LdsLidar F → LivoxLidarStatus → UInt32 → Option LivoxLidarAsyncControlResponse →
      Checked (LdsLidar F × List (ApiCommand F)) :=
  match call with
  | .set_livox_lidar_pcl_data_type _ => set_data_type_callback
  | .set_livox_lidar_scan_pattern _ => set_pattern_mode_callback
  | .set_livox_lidar_blind_spot _ => set_blind_spot_callback
  | .set_livox_lidar_dual_emit _ => set_dual_emit_callback
  | .set_livox_lidar_install_attitude _ => set_attitude_callback
  | .set_livox_lidar_work_mode _ => work_mode_changed_callback
  | .enable_livox_lidar_imu_data => enable_livox_lidar_imu_data_callback

end Commands

end livox_ros
