import Livox.Library.Object

open memory

namespace livox_lidar

def kLivoxLidarTypeMid360 : UInt8 := 9
def kLivoxLidarTypeIndustrialHAP : UInt8 := 10
def kLivoxLidarTypePA : UInt8 := 16
def kLivoxLidarTypeMid360s : UInt8 := 35
def kLivoxLidarTypeAvia2 : UInt8 := 40

inductive ParamKeyName where
  | kKeyPclDataType
  | kKeyPatternMode
  | kKeyDualEmitEn
  | kKeyPointSendEn
  | kKeyLidarIpCfg
  | kKeyStateInfoHostIpCfg
  | kKeyLidarPointDataHostIpCfg
  | kKeyLidarImuHostIpCfg
  | kKeyCtlHostIpCfg
  | kKeyLogHostIpCfg
  | kKeyVehicleSpeed
  | kKeyEnvironmentTemp
  | kKeyInstallAttitude
  | kKeyBlindSpotSet
  | kKeyFrameRate
  | kKeyFovCfg0
  | kKeyFovCfg1
  | kKeyFovCfgEn
  | kKeyDetectMode
  | kKeyFuncIoCfg
  | kKeyWorkModeAfterBoot
  | kKeyWorkMode
  | kKeyGlassHeat
  | kKeyImuDataEn
  | kKeyFusaEn
  | kKeyForceHeatEn
  | kKeySetEscMode
  | kKeySetFovMode
  | kKeySetEchoMode
  | kKeySetNTPServerIp
  | kKeySetPpsSyncMode
  | kKeySetITOCtrl
  | kKeySetFogNoiseFilter
  | kKeySetImuRange
  | kKeyLogParamSet
  | kKeySn
  | kKeyProductInfo
  | kKeyVersionApp
  | kKeyVersionLoader
  | kKeyVersionHardware
  | kKeyMac
  | kKeyCurWorkState
  | kKeyCoreTemp
  | kKeyPowerUpCnt
  | kKeyLocalTimeNow
  | kKeyLastSyncTime
  | kKeyTimeOffset
  | kKeyTimeSyncType
  | kKeyStatusCode
  | kKeyLidarDiagStatus
  | kKeyLidarFlashStatus
  | kKeyFwType
  | kKeyHmsCode
  | kKeyCurGlassHeatState
  | kKeyRoiMode
  | kKeyLidarDiagInfoQuery
  deriving DecidableEq, Repr

namespace ParamKeyName

/-- The number of the key on the wire. -/
def value : ParamKeyName → UInt16
  | kKeyPclDataType => 0x0000
  | kKeyPatternMode => 0x0001
  | kKeyDualEmitEn => 0x0002
  | kKeyPointSendEn => 0x0003
  | kKeyLidarIpCfg => 0x0004
  | kKeyStateInfoHostIpCfg => 0x0005
  | kKeyLidarPointDataHostIpCfg => 0x0006
  | kKeyLidarImuHostIpCfg => 0x0007
  | kKeyCtlHostIpCfg => 0x0008
  | kKeyLogHostIpCfg => 0x0009
  | kKeyVehicleSpeed => 0x0010
  | kKeyEnvironmentTemp => 0x0011
  | kKeyInstallAttitude => 0x0012
  | kKeyBlindSpotSet => 0x0013
  | kKeyFrameRate => 0x0014
  | kKeyFovCfg0 => 0x0015
  | kKeyFovCfg1 => 0x0016
  | kKeyFovCfgEn => 0x0017
  | kKeyDetectMode => 0x0018
  | kKeyFuncIoCfg => 0x0019
  | kKeyWorkModeAfterBoot => 0x0020
  | kKeyWorkMode => 0x001A
  | kKeyGlassHeat => 0x001B
  | kKeyImuDataEn => 0x001C
  | kKeyFusaEn => 0x001D
  | kKeyForceHeatEn => 0x001E
  | kKeySetEscMode => 0x0021
  | kKeySetFovMode => 0x0022
  | kKeySetEchoMode => 0x0024
  | kKeySetNTPServerIp => 0x0025
  | kKeySetPpsSyncMode => 0x0026
  | kKeySetITOCtrl => 0x0027
  | kKeySetFogNoiseFilter => 0x0028
  | kKeySetImuRange => 0x002B
  | kKeyLogParamSet => 0x7FFF
  | kKeySn => 0x8000
  | kKeyProductInfo => 0x8001
  | kKeyVersionApp => 0x8002
  | kKeyVersionLoader => 0x8003
  | kKeyVersionHardware => 0x8004
  | kKeyMac => 0x8005
  | kKeyCurWorkState => 0x8006
  | kKeyCoreTemp => 0x8007
  | kKeyPowerUpCnt => 0x8008
  | kKeyLocalTimeNow => 0x8009
  | kKeyLastSyncTime => 0x800A
  | kKeyTimeOffset => 0x800B
  | kKeyTimeSyncType => 0x800C
  | kKeyStatusCode => 0x800D
  | kKeyLidarDiagStatus => 0x800E
  | kKeyLidarFlashStatus => 0x800F
  | kKeyFwType => 0x8010
  | kKeyHmsCode => 0x8011
  | kKeyCurGlassHeatState => 0x8012
  | kKeyRoiMode => 0xFFFE
  | kKeyLidarDiagInfoQuery => 0xFFFF

end ParamKeyName

namespace direct_lidar_state_info

/-- The members of `DirectLidarStateInfo`, those of its address structures one by one. -/
inductive Member where
  | pcl_data_type
  | pattern_mode
  | dual_emit_en
  | point_send_en
  | lidar_ipcfg_ip_addr
  | lidar_ipcfg_net_mask
  | lidar_ipcfg_gw_addr
  | host_state_info_host_ip_addr
  | host_state_info_host_state_info_port
  | host_state_info_lidar_state_info_port
  | pointcloud_host_ipcfg_host_ip_addr
  | pointcloud_host_ipcfg_host_point_data_port
  | pointcloud_host_ipcfg_lidar_point_data_port
  | imu_host_ipcfg_host_ip_addr
  | imu_host_ipcfg_host_imu_data_port
  | imu_host_ipcfg_lidar_imu_data_port
  | ctl_host_ipcfg_ip_addr
  | ctl_host_ipcfg_dst_port
  | ctl_host_ipcfg_src_port
  | log_host_ipcfg_ip_addr
  | log_host_ipcfg_dst_port
  | log_host_ipcfg_src_port
  | vehicle_speed
  | environment_temp
  | install_attitude
  | blind_spot_set
  | frame_rate
  | fov_cfg0
  | fov_cfg1
  | fov_cfg_en
  | detect_mode
  | func_io_cfg
  | work_tgt_mode
  | glass_heat
  | imu_data_en
  | fusa_en
  | esc_mode
  | fov_mode
  | echo_mode
  | ntp_server_ip_host_ip
  | ito_mode
  | fog_noise_filter
  | sn
  | product_info
  | version_app
  | version_loader
  | version_hardware
  | mac
  | cur_work_state
  | core_temp
  | powerup_cnt
  | local_time_now
  | last_sync_time
  | time_offset
  | time_sync_type
  | status_code
  | lidar_diag_status
  | lidar_flash_status
  | fw_type
  | hms_code
  | ROI_Mode
  | imu_range
  deriving DecidableEq, Repr

/-- `sizeof` of the member. -/
def Member.size : Member → Nat
  | .pcl_data_type => 1
  | .pattern_mode => 1
  | .dual_emit_en => 1
  | .point_send_en => 1
  | .lidar_ipcfg_ip_addr => 16
  | .lidar_ipcfg_net_mask => 16
  | .lidar_ipcfg_gw_addr => 16
  | .host_state_info_host_ip_addr => 16
  | .host_state_info_host_state_info_port => 2
  | .host_state_info_lidar_state_info_port => 2
  | .pointcloud_host_ipcfg_host_ip_addr => 16
  | .pointcloud_host_ipcfg_host_point_data_port => 2
  | .pointcloud_host_ipcfg_lidar_point_data_port => 2
  | .imu_host_ipcfg_host_ip_addr => 16
  | .imu_host_ipcfg_host_imu_data_port => 2
  | .imu_host_ipcfg_lidar_imu_data_port => 2
  | .ctl_host_ipcfg_ip_addr => 16
  | .ctl_host_ipcfg_dst_port => 2
  | .ctl_host_ipcfg_src_port => 2
  | .log_host_ipcfg_ip_addr => 16
  | .log_host_ipcfg_dst_port => 2
  | .log_host_ipcfg_src_port => 2
  | .vehicle_speed => 4
  | .environment_temp => 4
  | .install_attitude => 24
  | .blind_spot_set => 4
  | .frame_rate => 1
  | .fov_cfg0 => 20
  | .fov_cfg1 => 20
  | .fov_cfg_en => 1
  | .detect_mode => 1
  | .func_io_cfg => 4
  | .work_tgt_mode => 1
  | .glass_heat => 1
  | .imu_data_en => 1
  | .fusa_en => 1
  | .esc_mode => 1
  | .fov_mode => 1
  | .echo_mode => 1
  | .ntp_server_ip_host_ip => 16
  | .ito_mode => 1
  | .fog_noise_filter => 1
  | .sn => 16
  | .product_info => 64
  | .version_app => 4
  | .version_loader => 4
  | .version_hardware => 4
  | .mac => 6
  | .cur_work_state => 1
  | .core_temp => 4
  | .powerup_cnt => 4
  | .local_time_now => 8
  | .last_sync_time => 8
  | .time_offset => 8
  | .time_sync_type => 1
  | .status_code => 32
  | .lidar_diag_status => 2
  | .lidar_flash_status => 1
  | .fw_type => 1
  | .hms_code => 32
  | .ROI_Mode => 1
  | .imu_range => 3

end direct_lidar_state_info

open direct_lidar_state_info

/-- `DirectLidarStateInfo`, as the bytes of its members. -/
abbrev DirectLidarStateInfo := Object Member Member.size

end livox_lidar
