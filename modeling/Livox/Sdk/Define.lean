import Livox.Sdk.BuildRequest

namespace livox_lidar

structure LivoxLidarNetInfo where
  lidar_ipaddr : List UInt8
  cmd_data_port : UInt16
  push_msg_port : UInt16
  point_data_port : UInt16
  imu_data_port : UInt16
  log_data_port : UInt16
  deriving DecidableEq, Repr

namespace define

/-- The whole `HostNetInfo`, with the ports that the builders do not read. -/
structure HostNetInfo extends livox_lidar.HostNetInfo where
  cmd_data_port : UInt16
  log_data_port : UInt16

/-- The whole `LivoxLidarCfg`. -/
structure LivoxLidarCfg where
  device_type : UInt8
  lidar_net_info : LivoxLidarNetInfo
  host_net_info : HostNetInfo

end define

end livox_lidar
