import Livox.Sdk.LivoxLidarDef
import Livox.Sdk.SdkProtocol

open memory checked

namespace livox_lidar

/-- Read bytes of the payload; the payload has no byte at or behind its length. -/
def CommPacket.read (packet : CommPacket) (offset : UInt16) (len : Nat) : Checked (List UInt8) :=
  if offset.toNat + len ≤ packet.data_len.toNat then .ok ((packet.data.add offset.toNat).load len)
  else .error (.outOfBounds (offset.toNat + len) packet.data_len.toNat)

def CommPacket.read_u16 (packet : CommPacket) (offset : UInt16) : Checked UInt16 := do
  let b ← packet.read offset 2
  pure (UInt16.ofNat (value b))

/-- `std::to_string` of a byte. -/
def to_string (b : UInt8) : List UInt8 :=
  (Nat.toDigits 10 b.toNat).map fun c => UInt8.ofNat c.toNat

/-- The bytes of an address in dotted form. -/
def ip_string (ip : List UInt8) : List UInt8 :=
  List.intercalate [46] (ip.map to_string)

namespace parse_lidar_state_info

open direct_lidar_state_info

/-- `sizeof(LivoxLidarKeyValueParam)`, with the one byte that stands for the value. -/
def key_value_param_size : Nat := 5

/-- `ParseLidarIpAddr`. -/
def parse_lidar_ip_addr (packet : CommPacket) (off : UInt16) (info : DirectLidarStateInfo) :
    Checked DirectLidarStateInfo := do
  let lidar_ip ← packet.read off 4
  let info ← info.strcpy .lidar_ipcfg_ip_addr (ip_string lidar_ip)
  let off := off + 4
  let lidar_submask ← packet.read off 4
  let info ← info.strcpy .lidar_ipcfg_net_mask (ip_string lidar_submask)
  let off := off + 4
  let lidar_gateway ← packet.read off 4
  info.strcpy .lidar_ipcfg_gw_addr (ip_string lidar_gateway)

/-- An address and two ports, as the next five decoders read them. -/
def parse_host_ip_cfg (ip_addr first_port second_port : Member) (packet : CommPacket)
    (off : UInt16) (info : DirectLidarStateInfo) : Checked DirectLidarStateInfo := do
  let host_ip ← packet.read off 4
  let info ← info.strcpy ip_addr (ip_string host_ip)
  let off := off + 4
  let port ← packet.read off 2
  let info ← info.memcpy first_port port
  let off := off + 2
  let port ← packet.read off 2
  info.memcpy second_port port

/-- `ParseStateInfoHostIPCfg`. -/
def parse_state_info_host_ip_cfg :=
  parse_host_ip_cfg .host_state_info_host_ip_addr .host_state_info_host_state_info_port
    .host_state_info_lidar_state_info_port

/-- `ParsePointCloudHostIpCfg`. -/
def parse_point_cloud_host_ip_cfg :=
  parse_host_ip_cfg .pointcloud_host_ipcfg_host_ip_addr
    .pointcloud_host_ipcfg_host_point_data_port .pointcloud_host_ipcfg_lidar_point_data_port

/-- `ParseImuDataHostIpCfg`. -/
def parse_imu_data_host_ip_cfg :=
  parse_host_ip_cfg .imu_host_ipcfg_host_ip_addr .imu_host_ipcfg_host_imu_data_port
    .imu_host_ipcfg_lidar_imu_data_port

/-- `ParseIpCfg` into `ctl_host_ipcfg`. -/
def parse_ctl_ip_cfg :=
  parse_host_ip_cfg .ctl_host_ipcfg_ip_addr .ctl_host_ipcfg_dst_port .ctl_host_ipcfg_src_port

/-- `ParseIpCfg` into `log_host_ipcfg`. -/
def parse_log_ip_cfg :=
  parse_host_ip_cfg .log_host_ipcfg_ip_addr .log_host_ipcfg_dst_port .log_host_ipcfg_src_port

/-- The block of `kKeySetNTPServerIp`. -/
def parse_ntp_server_ip (packet : CommPacket) (off : UInt16) (info : DirectLidarStateInfo) :
    Checked DirectLidarStateInfo := do
  let ip ← packet.read off 4
  info.strcpy .ntp_server_ip_host_ip (ip_string ip)

/-- What a case of the switch does with the value of its key. -/
inductive Case where
  | memcpy (member : Member)
  | parse_lidar_ip_addr
  | parse_state_info_host_ip_cfg
  | parse_point_cloud_host_ip_cfg
  | parse_imu_data_host_ip_cfg
  | parse_ctl_ip_cfg
  | parse_log_ip_cfg
  | parse_ntp_server_ip
  deriving DecidableEq, Repr

/-- The cases of the switch, in its order. -/
def cases : List (ParamKeyName × Case) :=
  [(.kKeyPclDataType, .memcpy .pcl_data_type),
    (.kKeyPatternMode, .memcpy .pattern_mode),
    (.kKeyDualEmitEn, .memcpy .dual_emit_en),
    (.kKeyPointSendEn, .memcpy .point_send_en),
    (.kKeyLidarIpCfg, .parse_lidar_ip_addr),
    (.kKeyStateInfoHostIpCfg, .parse_state_info_host_ip_cfg),
    (.kKeyLidarPointDataHostIpCfg, .parse_point_cloud_host_ip_cfg),
    (.kKeyLidarImuHostIpCfg, .parse_imu_data_host_ip_cfg),
    (.kKeyCtlHostIpCfg, .parse_ctl_ip_cfg),
    (.kKeyLogHostIpCfg, .parse_log_ip_cfg),
    (.kKeyVehicleSpeed, .memcpy .vehicle_speed),
    (.kKeyEnvironmentTemp, .memcpy .environment_temp),
    (.kKeyInstallAttitude, .memcpy .install_attitude),
    (.kKeyBlindSpotSet, .memcpy .blind_spot_set),
    (.kKeyFrameRate, .memcpy .frame_rate),
    (.kKeyFovCfg0, .memcpy .fov_cfg0),
    (.kKeyFovCfg1, .memcpy .fov_cfg1),
    (.kKeyFovCfgEn, .memcpy .fov_cfg_en),
    (.kKeyDetectMode, .memcpy .detect_mode),
    (.kKeyFuncIoCfg, .memcpy .func_io_cfg),
    (.kKeyWorkMode, .memcpy .work_tgt_mode),
    (.kKeyGlassHeat, .memcpy .glass_heat),
    (.kKeyImuDataEn, .memcpy .imu_data_en),
    (.kKeyFusaEn, .memcpy .fusa_en),
    (.kKeySn, .memcpy .sn),
    (.kKeyProductInfo, .memcpy .product_info),
    (.kKeyVersionApp, .memcpy .version_app),
    (.kKeyVersionLoader, .memcpy .version_loader),
    (.kKeyVersionHardware, .memcpy .version_hardware),
    (.kKeyMac, .memcpy .mac),
    (.kKeyCurWorkState, .memcpy .cur_work_state),
    (.kKeyCoreTemp, .memcpy .core_temp),
    (.kKeyPowerUpCnt, .memcpy .powerup_cnt),
    (.kKeyLocalTimeNow, .memcpy .local_time_now),
    (.kKeyLastSyncTime, .memcpy .last_sync_time),
    (.kKeyTimeOffset, .memcpy .time_offset),
    (.kKeyTimeSyncType, .memcpy .time_sync_type),
    (.kKeyStatusCode, .memcpy .status_code),
    (.kKeyLidarDiagStatus, .memcpy .lidar_diag_status),
    (.kKeyLidarFlashStatus, .memcpy .lidar_flash_status),
    (.kKeyFwType, .memcpy .fw_type),
    (.kKeyHmsCode, .memcpy .hms_code),
    (.kKeyRoiMode, .memcpy .ROI_Mode),
    (.kKeySetEscMode, .memcpy .esc_mode),
    (.kKeySetFovMode, .memcpy .fov_mode),
    (.kKeySetEchoMode, .memcpy .echo_mode),
    (.kKeySetNTPServerIp, .parse_ntp_server_ip),
    (.kKeySetITOCtrl, .memcpy .ito_mode),
    (.kKeySetFogNoiseFilter, .memcpy .fog_noise_filter),
    (.kKeySetImuRange, .memcpy .imu_range)]

/-- The case that the switch takes for a key on the wire; none is its default. -/
def switch (key : UInt16) : Option (ParamKeyName × Case) :=
  cases.find? fun entry => entry.1.value = key

/-- The body of a case, on the value of `val_len` bytes at `offset`. -/
def Case.decode (packet : CommPacket) (offset val_len : UInt16) (info : DirectLidarStateInfo) :
    Case → Checked DirectLidarStateInfo
  | .memcpy member => do
    let src ← packet.read offset val_len.toNat
    info.memcpy member src
  | .parse_lidar_ip_addr => parse_lidar_state_info.parse_lidar_ip_addr packet offset info
  | .parse_state_info_host_ip_cfg =>
    parse_lidar_state_info.parse_state_info_host_ip_cfg packet offset info
  | .parse_point_cloud_host_ip_cfg =>
    parse_lidar_state_info.parse_point_cloud_host_ip_cfg packet offset info
  | .parse_imu_data_host_ip_cfg =>
    parse_lidar_state_info.parse_imu_data_host_ip_cfg packet offset info
  | .parse_ctl_ip_cfg => parse_lidar_state_info.parse_ctl_ip_cfg packet offset info
  | .parse_log_ip_cfg => parse_lidar_state_info.parse_log_ip_cfg packet offset info
  | .parse_ntp_server_ip => parse_lidar_state_info.parse_ntp_server_ip packet offset info

/-- The structure and the key set that a call fills in, and what it returns. -/
structure Outcome where
  ret : Bool
  info : DirectLidarStateInfo
  key_mask : Finset ParamKeyName

/-- What one turn of the loop does with the record at `offset`: the switch on its
key, and its length. -/
def decode_record (packet : CommPacket) (offset : UInt16) (info : DirectLidarStateInfo)
    (key_mask : Finset ParamKeyName) :
    Checked (UInt16 × DirectLidarStateInfo × Finset ParamKeyName) := do
  let key ← packet.read_u16 offset
  let offset := offset + 2
  let val_len ← packet.read_u16 offset
  let offset := offset + 2
  match switch key with
  | some (name, case) => do
    let info ← case.decode packet offset val_len info
    pure (offset + val_len, info, insert name key_mask)
  | none => pure (offset + val_len, info, key_mask)

/-- The loop over the records that are still to come. The offset has 16 bits. -/
def parse_records (packet : CommPacket) :
    Nat → UInt16 → DirectLidarStateInfo → Finset ParamKeyName → Checked Outcome
  | 0, _, info, key_mask => .ok { ret := true, info, key_mask }
  | rest + 1, offset, info, key_mask =>
    if offset.toNat + key_value_param_size > packet.data_len.toNat then
      .ok { ret := false, info, key_mask }
    else do
      let (offset, info, key_mask) ← decode_record packet offset info key_mask
      parse_records packet rest offset info key_mask

/-- `ParseStateInfo`. -/
def parse_state_info (packet : CommPacket) (info : DirectLidarStateInfo)
    (key_mask : Finset ParamKeyName) : Checked Outcome := do
  let key_num ← packet.read_u16 0
  parse_records packet key_num.toNat 4 info key_mask

end parse_lidar_state_info

end livox_lidar
