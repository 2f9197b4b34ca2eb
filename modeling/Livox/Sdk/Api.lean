import Mathlib

namespace livox_lidar

inductive LivoxLidarStatus where
  | kLivoxLidarStatusSendFailed
  | kLivoxLidarStatusHandlerImplNotExist
  | kLivoxLidarStatusInvalidHandle
  | kLivoxLidarStatusChannelNotExist
  | kLivoxLidarStatusNotEnoughMemory
  | kLivoxLidarStatusTimeout
  | kLivoxLidarStatusNotSupported
  | kLivoxLidarStatusNotConnected
  | kLivoxLidarStatusFailure
  | kLivoxLidarStatusSuccess
  deriving DecidableEq, Repr

structure LivoxLidarAsyncControlResponse where
  ret_code : UInt8
  error_key : UInt16
  deriving DecidableEq, Repr

structure LivoxLidarInstallAttitude (F : Type) where
  roll_deg : F
  pitch_deg : F
  yaw_deg : F
  x : Int32
  y : Int32
  z : Int32
  deriving DecidableEq

def kLivoxLidarNormal : UInt8 := 0x01

/-- A call of the public interface, with the arguments behind the handle. -/
inductive ApiCall (F : Type) where
  | set_livox_lidar_pcl_data_type (data_type : Int32)
  | set_livox_lidar_scan_pattern (scan_pattern : Int32)
  | set_livox_lidar_blind_spot (blind_spot : UInt32)
  | set_livox_lidar_dual_emit (enable : Bool)
  | set_livox_lidar_install_attitude (install_attitude : LivoxLidarInstallAttitude F)
  | set_livox_lidar_work_mode (work_mode : UInt8)
  | enable_livox_lidar_imu_data
  deriving DecidableEq

/-- A command that has been handed to the library for one lidar. -/
structure ApiCommand (F : Type) where
  handle : UInt32
  call : ApiCall F
  deriving DecidableEq

end livox_lidar
