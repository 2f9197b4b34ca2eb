import Livox.Comm.Types

namespace livox_ros

/-- A byte of the address, in the order in which it is stored on the
little-endian machines that the driver runs on. -/
def ip_byte (ip_num : UInt32) (i : UInt32) : UInt8 := (ip_num >>> (8 * i)).toUInt8

/-- `IpNumToString`: the bytes of the address, as `inet_ntoa` writes them. -/
def ip_num_to_string (ip_num : UInt32) : String :=
  ".".intercalate ([ip_byte ip_num 0, ip_byte ip_num 1, ip_byte ip_num 2, ip_byte ip_num 3].map toString)

def replace_period_by_underline (str : String) : String :=
  str.map fun c => if c = '.' then '_' else c

section Publish

variable {F : Type}

/-- The `lidar_id` that `InitCustomMsg` gives the messages of a device. -/
def init_custom_msg_lidar_id (device : LidarDevice F) : UInt8 :=
  if device.lidar_type = LidarProtoType.kLivoxLidarType.val then device.handle.toUInt8 else 0

/-- The topic of a device, where every lidar has its own. -/
def private_pub_topic (device : LidarDevice F) : String :=
  "livox/lidar_" ++ replace_period_by_underline (ip_num_to_string device.handle)

def private_imu_pub_topic (device : LidarDevice F) : String :=
  "livox/imu_" ++ replace_period_by_underline (ip_num_to_string device.handle)

example : private_pub_topic { LidarDevice.zero ℚ with handle := 0x6401A8C0 } =
    "livox/lidar_192_168_1_100" := by
  decide +kernel

end Publish

end livox_ros
