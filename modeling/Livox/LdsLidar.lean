import Livox.Comm.CacheIndex

open checked

namespace livox_ros

/-- The device table and the cache that gives lidars their places in it. -/
structure LdsLidar (F : Type) where
  cache_index : CacheIndex
  lidars : Vector (LidarDevice F) kMaxSourceLidar

namespace LdsLidar

variable {F : Type}

/-- The object before `InitLdsLidar`: every device is reset. -/
def new [Zero F] : LdsLidar F where
  cache_index := CacheIndex.new
  lidars := Vector.replicate kMaxSourceLidar (LidarDevice.zero F)

def lidar (lds : LdsLidar F) (index : UInt8) : Checked (LidarDevice F) :=
  readAt lds.lidars index.toNat

/-- Change the device that an index selects. -/
def modify_lidar (lds : LdsLidar F) (index : UInt8) (change : LidarDevice F → LidarDevice F) :
    Checked (LdsLidar F) := do
  let device ← lds.lidar index
  let lidars ← writeAt lds.lidars index.toNat (change device)
  .ok { lds with lidars }

/-- What `InitLivoxLidar` stores in the device of a configured lidar. -/
def fill_in (config : UserLivoxLidarConfig F) (device : LidarDevice F) : LidarDevice F :=
  { device with
    lidar_type := LidarProtoType.kLivoxLidarType.val
    livox_config := config
    handle := config.handle }

/-- The extrinsic handed to the publisher. The translation of a lidar that
sends low-resolution points is converted to their unit. -/
def lidar_ext_parameter (config : UserLivoxLidarConfig F) : LidarExtParameter F :=
  if config.pcl_data_type.toInt = kLivoxLidarCartesianCoordinateLowData.toNat then
    { handle := config.handle
      lidar_type := .kLivoxLidarType
      param :=
        { config.extrinsic_param with
          x := config.extrinsic_param.x / 10
          y := config.extrinsic_param.y / 10
          z := config.extrinsic_param.z / 10 } }
  else
    { handle := config.handle, lidar_type := .kLivoxLidarType, param := config.extrinsic_param }

/-- One iteration of the loop of `InitLivoxLidar`; a lidar that gets no index
is left out. -/
def register_lidar (lds : LdsLidar F) (config : UserLivoxLidarConfig F) :
    Checked (LdsLidar F × Option (LidarExtParameter F)) :=
  match lds.cache_index.get_free_index LidarProtoType.kLivoxLidarType.val config.handle with
  | (none, cache_index) => .ok ({ lds with cache_index }, none)
  | (some index, cache_index) => do
    let lds ← { lds with cache_index }.modify_lidar index (fill_in config)
    .ok (lds, some (lidar_ext_parameter config))

/-- `InitLivoxLidar` on the parsed configurations, in their order. -/
def init_livox_lidar (lds : LdsLidar F) :
    List (UserLivoxLidarConfig F) → Checked (LdsLidar F × List (LidarExtParameter F))
  | [] => .ok (lds, [])
  | config :: user_configs => do
    let (lds, lidar_param) ← lds.register_lidar config
    let (lds, lidar_params) ← lds.init_livox_lidar user_configs
    .ok (lds, lidar_param.toList ++ lidar_params)

/-- `GetLidarDevice`, which gives the address of the device at this index. -/
def get_lidar_device (lds : LdsLidar F) (handle : UInt32) : Option UInt8 :=
  lds.cache_index.get_index LidarProtoType.kLivoxLidarType.val handle

end LdsLidar

end livox_ros
