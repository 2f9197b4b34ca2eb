import Livox.Comm.LidarImuDataQueue
import Livox.Lddc.Polling

open checked execution

namespace livox_ros

structure Vector3 (F : Type) where
  x : F
  y : F
  z : F
  deriving DecidableEq

/-- The message; the stamp is the number of nanoseconds that the header's time is made of. -/
structure ImuMsg (F : Type) where
  frame_id : String
  stamp : UInt64
  angular_velocity : Vector3 F
  linear_acceleration : Vector3 F
  deriving DecidableEq

def init_imu_msg {F : Type} (imu_data : ImuData F) : ImuMsg F where
  frame_id := "livox_frame"
  stamp := imu_data.time_stamp
  angular_velocity := { x := imu_data.gyro_x, y := imu_data.gyro_y, z := imu_data.gyro_z }
  linear_acceleration := { x := imu_data.acc_x, y := imu_data.acc_y, z := imu_data.acc_z }

/-- A device of the table with its queue. `stored` and `popped` remember what has gone in and come
out, and `sampled` is set while the lidar keeps sampling after a push has found it so. -/
structure ImuDevice (F : Type) where
  device : LidarDevice F
  imu_data : LidarImuDataQueue F
  stored : List (ImuData F)
  popped : List (ImuData F)
  sampled : Bool

section ImuDevice

variable {F : Type}

def ImuDevice.new (device : LidarDevice F) : ImuDevice F :=
  { device, imu_data := { imu_data_queue := [] }, stored := [], popped := [], sampled := false }

def ImuDevice.push (lidar : ImuDevice F) (imu_data : ImuData F) : ImuDevice F :=
  { lidar with
    imu_data := lidar.imu_data.push imu_data
    stored := lidar.stored ++ [imu_data]
    sampled := lidar.sampled || lidar.device.connect_state = .kConnectStateSampling }

/-- The callbacks of the SDK write to the device as they like. -/
def ImuDevice.set_device (lidar : ImuDevice F) (device : LidarDevice F) : ImuDevice F :=
  { lidar with
    device
    sampled := lidar.sampled && device.connect_state = .kConnectStateSampling }

end ImuDevice

/-- Where a call of `StorageImuData` stands. -/
inductive StoragePlace where
  | get_index
  | refused
  | push (index : UInt8)
  | empty_test (index : UInt8)
  | count_test
  | signal
  | done
  deriving DecidableEq, Repr

structure StorageCall (F : Type) where
  imu_data : ImuData F
  place : StoragePlace

/-- The call has pushed its data. -/
def StorageCall.pushed {F : Type} (call : StorageCall F) : Bool :=
  match call.place with
  | .get_index => false
  | .refused => false
  | .push _ => false
  | _ => true

/-- Where the thread that calls `DistributeImuData` over and over stands: before the exit test, in
`Wait`, before the test of a lidar of the scan, or in the loop of `PollingLidarImuData` for one. -/
inductive ImuConsumer where
  | distribute
  | wait
  | scan (i : Nat)
  | polling_loop (i : Fin kMaxSourceLidar)
  | publish (i : Fin kMaxSourceLidar)
  deriving DecidableEq, Repr

/-- What has been published: the lidar that the message was popped for, the publisher, and the
message. -/
structure ImuPublication (F : Type) where
  index : Fin kMaxSourceLidar
  publisher : Publisher
  imu_msg : ImuMsg F

structure ImuDistribution (F : Type) where
  lidars : Vector (ImuDevice F) kMaxSourceLidar
  cache_index : CacheIndex
  imu_semaphore : Semaphore
  request_exit : Bool
  calls : List (StorageCall F)
  consumer : ImuConsumer
  private_imu_pub : Vector (Option Publisher) kMaxSourceLidar
  global_imu_pub : Option Publisher
  published : List (ImuPublication F)

/-- Imu data arrives, a call of `StorageImuData` or the consumer makes its next step, a lidar is given
an index (both sections of `GetFreeIndex` are one step), the callbacks of the SDK write to a device, or
the exit is requested. -/
inductive ImuEvent (F : Type) where
  | storage_imu_data (imu_data : ImuData F)
  | producer (call : Nat)
  | consumer
  | get_free_index (lidar_type : UInt8) (handle : UInt32)
  | set_device (index : Fin kMaxSourceLidar) (device : LidarDevice F)
  | request_exit

namespace ImuDistribution

section Steps

variable {F : Type}

/-- Before the first data, with the polling thread started. -/
def start (devices : Vector (LidarDevice F) kMaxSourceLidar) : ImuDistribution F where
  lidars := devices.map ImuDevice.new
  cache_index := CacheIndex.new
  imu_semaphore := { count := 0 }
  request_exit := false
  calls := []
  consumer := .distribute
  private_imu_pub := Vector.replicate kMaxSourceLidar none
  global_imu_pub := none
  published := []

/-- The next step of a call: what it leaves of the table and the semaphore, and its next place. -/
def store (s : ImuDistribution F) (call : StorageCall F) :
    Checked (Vector (ImuDevice F) kMaxSourceLidar × Semaphore × StoragePlace) :=
  match call.place with
  | .get_index =>
    match storage_imu_data_index s.cache_index call.imu_data with
    | none => .ok (s.lidars, s.imu_semaphore, .refused)
    | some index => .ok (s.lidars, s.imu_semaphore, .push index)
  | .refused => .ok (s.lidars, s.imu_semaphore, .refused)
  | .push index => do
    let lidar ← readAt s.lidars index.toNat
    let lidars ← writeAt s.lidars index.toNat (lidar.push call.imu_data)
    .ok (lidars, s.imu_semaphore, .empty_test index)
  | .empty_test index => do
    let lidar ← readAt s.lidars index.toNat
    .ok (s.lidars, s.imu_semaphore, if lidar.imu_data.empty then .done else .count_test)
  | .count_test =>
    .ok (s.lidars, s.imu_semaphore, if s.imu_semaphore.get_count ≤ 0 then .signal else .done)
  | .signal => .ok (s.lidars, s.imu_semaphore.signal, .done)
  | .done => .ok (s.lidars, s.imu_semaphore, .done)

/-- `GetCurrentImuPublisher`, which makes the publisher at its first use. -/
def get_current_imu_publisher (lddc : Lddc) (index : Fin kMaxSourceLidar) (s : ImuDistribution F) :
    Publisher × ImuDistribution F :=
  if lddc.use_multi_topic != 0 then
    let publisher := (s.private_imu_pub.get index).getD
      { topic_name := private_imu_pub_topic (s.lidars.get index).device
        queue_size := kMinEthPacketQueueSize * 2 }
    (publisher,
      { s with private_imu_pub := s.private_imu_pub.set index (some publisher) index.isLt })
  else
    let publisher := s.global_imu_pub.getD
      { topic_name := "livox/imu", queue_size := kMinEthPacketQueueSize * 8 }
    (publisher, { s with global_imu_pub := some publisher })

/-- The rest of `PublishImuData`, once the data has been popped; any other output than to ROS goes to
a bag, which is not modelled. -/
def publish (lddc : Lddc) (index : Fin kMaxSourceLidar) (imu_data : ImuData F)
    (s : ImuDistribution F) : ImuDistribution F :=
  let (publisher, s) := get_current_imu_publisher lddc index s
  if lddc.output_type = kOutputToRos then
    { s with published := s.published ++ [{ index, publisher, imu_msg := init_imu_msg imu_data }] }
  else s

/-- `PublishImuData`, of which only the pop touches what the producers touch. -/
def publish_imu_data (lddc : Lddc) (index : Fin kMaxSourceLidar) (s : ImuDistribution F) :
    ImuDistribution F :=
  let lidar := s.lidars.get index
  match lidar.imu_data.pop with
  | none => s
  | some (imu_data, queue) =>
    let lidar := { lidar with imu_data := queue, popped := lidar.popped ++ [imu_data] }
    publish lddc index imu_data { s with lidars := s.lidars.set index lidar index.isLt }

/-- The next step of the consumer; in `Wait` it is blocked while the count is not positive. -/
def consume (lddc : Lddc) (s : ImuDistribution F) : ImuDistribution F :=
  match s.consumer with
  | .distribute => if s.request_exit then s else { s with consumer := .wait }
  | .wait =>
    match s.imu_semaphore.wait with
    | none => s
    | some imu_semaphore => { s with imu_semaphore, consumer := .scan 0 }
  | .scan i =>
    if h : i < kMaxSourceLidar then
      if (s.lidars.get ⟨i, h⟩).device.connect_state = .kConnectStateSampling then
        { s with consumer := .polling_loop ⟨i, h⟩ }
      else { s with consumer := .scan (i + 1) }
    else { s with consumer := .distribute }
  | .polling_loop i =>
    if !s.request_exit && !(s.lidars.get i).imu_data.empty then { s with consumer := .publish i }
    else { s with consumer := .scan (i + 1) }
  | .publish i => { publish_imu_data lddc i s with consumer := .polling_loop i }

def step (lddc : Lddc) (s : ImuDistribution F) : ImuEvent F → Checked (ImuDistribution F)
  | .storage_imu_data imu_data =>
    .ok { s with calls := s.calls ++ [{ imu_data, place := .get_index }] }
  | .producer k =>
    match s.calls[k]? with
    | none => .ok s
    | some call => do
      let (lidars, imu_semaphore, place) ← s.store call
      .ok { s with lidars, imu_semaphore, calls := s.calls.set k { call with place } }
  | .consumer => .ok (s.consume lddc)
  | .get_free_index lidar_type handle =>
    .ok { s with cache_index := (s.cache_index.get_free_index lidar_type handle).2 }
  | .set_device index device =>
    .ok { s with
      lidars := s.lidars.set index ((s.lidars.get index).set_device device) index.isLt }
  | .request_exit => .ok { s with request_exit := true }

end Steps

end ImuDistribution

end livox_ros
