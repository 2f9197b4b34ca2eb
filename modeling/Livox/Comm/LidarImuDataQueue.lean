import Livox.Lds
import Livox.Comm.CacheIndex

open checked

namespace livox_ros

/-- What a lidar measures at one time. -/
structure ImuData (F : Type) where
  lidar_type : UInt8
  handle : UInt32
  time_stamp : UInt64
  gyro_x : F
  gyro_y : F
  gyro_z : F
  acc_x : F
  acc_y : F
  acc_z : F
  deriving DecidableEq

/-- Each function of the queue is one locked section. -/
structure LidarImuDataQueue (F : Type) where
  imu_data_queue : List (ImuData F)

namespace LidarImuDataQueue

variable {F : Type}

def push (queue : LidarImuDataQueue F) (imu_data : ImuData F) : LidarImuDataQueue F :=
  { imu_data_queue := queue.imu_data_queue ++ [imu_data] }

def pop (queue : LidarImuDataQueue F) : Option (ImuData F × LidarImuDataQueue F) :=
  match queue.imu_data_queue with
  | [] => none
  | imu_data :: rest => some (imu_data, { imu_data_queue := rest })

def empty (queue : LidarImuDataQueue F) : Bool := queue.imu_data_queue.isEmpty

end LidarImuDataQueue

/-- The part of `Lds::StorageImuData` that finds the lidar: data of any other type is refused, and so
is that of a lidar that has no index. -/
def storage_imu_data_index {F : Type} (cache_index : CacheIndex) (imu_data : ImuData F) :
    Option UInt8 :=
  if imu_data.lidar_type = LidarProtoType.kLivoxLidarType.val then
    cache_index.get_index imu_data.lidar_type imu_data.handle
  else none

end livox_ros
