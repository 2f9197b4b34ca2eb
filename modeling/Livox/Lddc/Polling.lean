import Livox.Library.Loop
import Livox.Lddc.CustomMsg
import Livox.Lddc.Distribution

open checked loop

namespace livox_ros

def kOutputToRos : UInt8 := 0

def kMinEthPacketQueueSize : UInt32 := 32

/-- `lddc.h` and `comm.h` have no names for these; they are those of `PointField`. -/
def FLOAT32 : UInt8 := 7
def FLOAT64 : UInt8 := 8
def UINT8 : UInt8 := 2

structure PointField where
  name : String
  offset : UInt32
  datatype : UInt8
  count : UInt32
  deriving DecidableEq, Repr

/-- A point of the data; its time is the number that the double is made of. -/
structure LivoxPointXyzrtlt (F : Type) where
  x : F
  y : F
  z : F
  reflectivity : F
  tag : UInt8
  line : UInt8
  timestamp : UInt64

/-- `sizeof(LivoxPointXyzrtlt)`: four floats, two bytes and a double, packed. -/
def point_size : UInt32 := 26

/-- The stamp is the number of nanoseconds that the header's time is made of,
and the data are the points whose bytes are copied to it. -/
structure PointCloud2 (F : Type) where
  frame_id : String
  stamp : UInt64
  height : UInt32
  width : UInt32
  fields : List PointField
  point_step : UInt32
  row_step : UInt32
  is_bigendian : Bool
  is_dense : Bool
  data : List (LivoxPointXyzrtlt F)

structure PointXYZI (F : Type) where
  x : F
  y : F
  z : F
  intensity : F

/-- The message of the `pcl` format. -/
structure PointCloud (F : Type) where
  frame_id : String
  stamp : UInt64
  height : UInt32
  width : UInt32
  points : List (PointXYZI F)

inductive Message (F : Type) where
  | point_cloud2 (cloud : PointCloud2 F)
  | custom (livox_msg : CustomMsg F)
  | pcl (cloud : PointCloud F)

/-- A publisher. All of them are made for the messages of `transfer_format_`,
which never changes. -/
structure Publisher where
  topic_name : String
  queue_size : UInt32
  deriving DecidableEq, Repr

/-- What the constructor of `Lddc` keeps of its arguments, each in a byte. -/
structure Lddc where
  building_ros2 : Bool
  transfer_format : UInt8
  use_multi_topic : UInt8
  output_type : UInt8
  frame_id : String

def Lddc.new (building_ros2 : Bool) (format multi_topic output_type : Int32) (frame_id : String) :
    Lddc where
  building_ros2 := building_ros2
  transfer_format := format.toUInt32.toUInt8
  use_multi_topic := multi_topic.toUInt32.toUInt8
  output_type := output_type.toUInt32.toUInt8
  frame_id := frame_id

/-- The publishers made so far and what they have published. -/
structure Publications (F : Type) where
  private_pub : Vector (Option Publisher) kMaxSourceLidar
  global_pub : Option Publisher
  published : List (Publisher × Message F)

namespace Lddc

section Messages

variable {F : Type}

/-- Every point that the packet says it has, converted. -/
def convert_points {β : Type} (convert : PointXyzlt F → β) (pkg : StoragePacket F) :
    Checked (List β) :=
  (List.range pkg.points_num.toNat).mapM fun i => do
    let point ← readList pkg.points i
    .ok (convert point)

def pointcloud2_fields : List PointField :=
  [{ name := "x", offset := 0, datatype := FLOAT32, count := 1 },
    { name := "y", offset := 4, datatype := FLOAT32, count := 1 },
    { name := "z", offset := 8, datatype := FLOAT32, count := 1 },
    { name := "intensity", offset := 12, datatype := FLOAT32, count := 1 },
    { name := "tag", offset := 16, datatype := UINT8, count := 1 },
    { name := "line", offset := 17, datatype := UINT8, count := 1 },
    { name := "timestamp", offset := 18, datatype := FLOAT64, count := 1 }]

def pointcloud2_point (point : PointXyzlt F) : LivoxPointXyzrtlt F where
  x := point.x
  y := point.y
  z := point.z
  reflectivity := point.intensity
  tag := point.tag
  line := point.line
  timestamp := point.offset_time

def init_pointcloud2_msg (lddc : Lddc) (pkg : StoragePacket F) : Checked (PointCloud2 F) := do
  let timestamp := if pkg.points.isEmpty then 0 else pkg.base_time
  let data ← convert_points pointcloud2_point pkg
  .ok
    { frame_id := lddc.frame_id
      stamp := timestamp
      height := 1
      width := pkg.points_num
      fields := pointcloud2_fields
      point_step := point_size
      row_step := pkg.points_num * point_size
      is_bigendian := false
      is_dense := true
      data }

def pcl_point (point : PointXyzlt F) : PointXYZI F where
  x := point.x
  y := point.y
  z := point.z
  intensity := point.intensity

/-- `InitPclMsg` and `FillPointsToPclMsg` of the ROS 1 build. -/
def init_pcl_msg (lddc : Lddc) (pkg : StoragePacket F) : Checked (PointCloud F) := do
  let points ← convert_points pcl_point pkg
  .ok
    { frame_id := lddc.frame_id
      stamp := if pkg.points.isEmpty then 0 else pkg.base_time
      height := 1
      width := pkg.points_num
      points }

end Messages

section Publish

variable {F : Type}

def private_queue_size (lddc : Lddc) : UInt32 :=
  if lddc.building_ros2 then kMinEthPacketQueueSize * 2 else kMinEthPacketQueueSize / 8

/-- `GetCurrentPublisher`, which makes the publisher at its first use. -/
def get_current_publisher (lddc : Lddc) (device : LidarDevice F) (index : Fin kMaxSourceLidar)
    (publications : Publications F) : Publisher × Publications F :=
  if lddc.use_multi_topic != 0 then
    let publisher := (publications.private_pub.get index).getD
      { topic_name := private_pub_topic device, queue_size := lddc.private_queue_size }
    (publisher,
      { publications with
        private_pub := publications.private_pub.set index (some publisher) index.isLt })
  else
    let publisher := publications.global_pub.getD
      { topic_name := "livox/lidar", queue_size := kMinEthPacketQueueSize * 8 }
    (publisher, { publications with global_pub := some publisher })

/-- What `PublishPointcloud2Data` and its siblings do with a message; any other
output than to ROS goes to a bag, which is not modelled. -/
def publish_data (lddc : Lddc) (device : LidarDevice F) (index : Fin kMaxSourceLidar)
    (message : Message F) (publications : Publications F) : Publications F :=
  let (publisher, publications) := lddc.get_current_publisher device index publications
  if lddc.output_type = kOutputToRos then
    { publications with published := publications.published ++ [(publisher, message)] }
  else publications

/-- The message that the publisher of the transfer format makes of a packet. -/
def message (lddc : Lddc) (to_uint8 : F → UInt8) (device : LidarDevice F) (pkg : StoragePacket F) :
    Checked (Message F) :=
  if lddc.transfer_format = kPointCloud2Msg then do
    let cloud ← lddc.init_pointcloud2_msg pkg
    .ok (.point_cloud2 cloud)
  else if lddc.transfer_format = kLivoxCustomMsg then do
    let livox_msg ← publish_custom_pointcloud to_uint8 lddc.frame_id device pkg
    .ok (.custom livox_msg)
  else do
    let cloud ← lddc.init_pcl_msg pkg
    .ok (.pcl cloud)

/-- Where `PollingLidarPointCloudData` stands: before its test of the storage,
before the test of its loop, or before the test of the loop of a publisher. -/
inductive Place where
  | storage_test
  | polling_loop
  | publish_loop
  deriving DecidableEq, Repr

structure Polling (F : Type) where
  place : Place
  request_exit : Bool
  queue : LidarDataQueue F
  publications : Publications F

/-- The body of the loop that `PublishPointcloud2`, `PublishCustomPointcloud`
and `PublishPclMsg` have: a packet without points is dropped. -/
def publish_turn (lddc : Lddc) (to_uint8 : F → UInt8) (device : LidarDevice F)
    (index : Fin kMaxSourceLidar) (s : Polling F) : Checked (Polling F) := do
  match ← queue_pop s.queue with
  | (none, queue) => .ok { s with queue }
  | (some pkg, queue) =>
    if pkg.points.isEmpty then
      .ok { s with queue }
    else
      let message ← lddc.message to_uint8 device pkg
      .ok { s with queue, publications := lddc.publish_data device index message s.publications }

/-- One iteration of `PollingLidarPointCloudData`, whose loop runs the loop of a
publisher inside: `PublishPclMsg` of the ROS 2 build returns before its loop, and
in a format that has no publisher nothing is called. -/
def polling_turn (lddc : Lddc) (to_uint8 : F → UInt8) (device : LidarDevice F)
    (index : Fin kMaxSourceLidar) (s : Polling F) : Checked (Turn (Polling F) (Polling F)) :=
  match s.place with
  | .storage_test =>
    match s.queue.storage_packet with
    | .null => .ok (.leave s)
    | _ => .ok (.next { s with place := .polling_loop })
  | .polling_loop =>
    if !s.request_exit && !queue_is_empty s.queue then
      if publishes lddc.building_ros2 lddc.transfer_format then
        .ok (.next { s with place := .publish_loop })
      else .ok (.next s)
    else .ok (.leave s)
  | .publish_loop =>
    if !queue_is_empty s.queue then do
      let t ← lddc.publish_turn to_uint8 device index s
      .ok (.next t)
    else .ok (.next { s with place := .polling_loop })

/-- A call of `PollingLidarPointCloudData` for a device, while no exit is requested. -/
def polling_start (device : LidarDevice F) (publications : Publications F) : Polling F :=
  { place := .storage_test, request_exit := false, queue := device.data, publications }

end Publish

end Lddc

end livox_ros
