import Livox.Lddc.ImuDistribution

open checked

namespace livox_ros

/-- Where a polling thread stands: in its first sleep, in a call of its `Distribute` function,
before the test of the future, or at its end. -/
inductive PollPlace where
  | sleep_for
  | distributing
  | wait_for
  | ended
  deriving DecidableEq, Repr

structure PollThread (σ : Type) where
  place : PollPlace
  lddc : σ

/-- The next step of a polling thread; `returns` tells whether it is the last step of the call of
the `Distribute` function. -/
def PollThread.step {σ : Type} (distribute : σ → Checked σ) (returns : σ → Bool)
    (exit_signal : Bool) (thread : PollThread σ) : Checked (PollThread σ) :=
  match thread.place with
  | .sleep_for => .ok { thread with place := .distributing }
  | .distributing => do
    let lddc ← distribute thread.lddc
    .ok { lddc, place := if returns thread.lddc then .wait_for else .distributing }
  | .wait_for => .ok { thread with place := if exit_signal then .ended else .distributing }
  | .ended => .ok thread

/-- The next step of `DistributePointCloudData` is to return: the exit is requested, or the scan has
been through all lidars. -/
def Distribution.returns {F : Type} (s : Distribution F) : Bool :=
  match s.consumer with
  | .distribute => s.request_exit
  | .scan i => kMaxSourceLidar ≤ i
  | _ => false

def ImuDistribution.returns {F : Type} (s : ImuDistribution F) : Bool :=
  match s.consumer with
  | .distribute => s.request_exit
  | .scan i => kMaxSourceLidar ≤ i
  | _ => false

/-- Where `~DriverNode` stands: not called, or before the statement of that name. -/
inductive DestructorPlace where
  | running
  | set_value
  | join_pointclouddata
  | join_imudata
  | returned
  deriving DecidableEq, Repr

/-- A node whose `Lddc` has the data source registered. The two threads see the same lidars; each
has its own queues and semaphore. -/
structure DriverNode (F : Type) where
  pointclouddata_poll_thread : PollThread (Distribution F)
  imudata_poll_thread : PollThread (ImuDistribution F)
  exit_signal : Bool
  destructor : DestructorPlace

/-- Who takes a step once nothing more is stored. -/
inductive Party where
  | pointclouddata_poll_thread
  | imudata_poll_thread
  | destructor
  deriving DecidableEq, Repr

/-- The SDK hands over a packet or imu data, a call that stores them makes its next step, a lidar is
given an index, a lidar starts sampling, or a party makes its next step. -/
inductive DriverEvent (F : Type) where
  | push_lidar_data (index : Fin kMaxSourceLidar) (lidar_data : ReadablePacket F)
      (base_time : UInt64)
  | push_step (call : Nat)
  | storage_imu_data (imu_data : ImuData F)
  | storage_step (call : Nat)
  | get_free_index (lidar_type : UInt8) (handle : UInt32)
  | sampling (index : Fin kMaxSourceLidar)
  | party (party : Party)

namespace DriverNode

section Steps

variable {F : Type}

/-- Both threads have been started. -/
def start (F : Type) [Zero F] : DriverNode F where
  pointclouddata_poll_thread := { place := .sleep_for, lddc := Distribution.start F }
  imudata_poll_thread :=
    { place := .sleep_for
      lddc := ImuDistribution.start (Vector.replicate kMaxSourceLidar (LidarDevice.zero F)) }
  exit_signal := false
  destructor := .running

def point_clouds (node : DriverNode F) : Distribution F := node.pointclouddata_poll_thread.lddc

def imu (node : DriverNode F) : ImuDistribution F := node.imudata_poll_thread.lddc

def with_point_clouds (node : DriverNode F) (lddc : Distribution F) : DriverNode F :=
  { node with pointclouddata_poll_thread := { node.pointclouddata_poll_thread with lddc } }

def with_imu (node : DriverNode F) (lddc : ImuDistribution F) : DriverNode F :=
  { node with imudata_poll_thread := { node.imudata_poll_thread with lddc } }

/-- `RequestExit` sets the flag that both threads read, and signals no semaphore. -/
def request_exit (node : DriverNode F) : DriverNode F :=
  (node.with_point_clouds { node.point_clouds with request_exit := true }).with_imu
    { node.imu with request_exit := true }

/-- `PointCloudDataPollThread`. -/
def point_cloud_data_poll_thread (lddc : Lddc) (node : DriverNode F) : Checked (DriverNode F) := do
  let pointclouddata_poll_thread ← node.pointclouddata_poll_thread.step
    (Distribution.consume (publishes lddc.building_ros2 lddc.transfer_format))
    Distribution.returns node.exit_signal
  .ok { node with pointclouddata_poll_thread }

/-- `ImuDataPollThread`. -/
def imu_data_poll_thread (lddc : Lddc) (node : DriverNode F) : Checked (DriverNode F) := do
  let imudata_poll_thread ← node.imudata_poll_thread.step
    (fun s => .ok (s.consume lddc)) ImuDistribution.returns node.exit_signal
  .ok { node with imudata_poll_thread }

/-- The next step of `~DriverNode`; a `join` is blocked until the thread has ended. -/
def destroy (node : DriverNode F) : DriverNode F :=
  match node.destructor with
  | .running => { node.request_exit with destructor := .set_value }
  | .set_value => { node with exit_signal := true, destructor := .join_pointclouddata }
  | .join_pointclouddata =>
    if node.pointclouddata_poll_thread.place = .ended then { node with destructor := .join_imudata }
    else node
  | .join_imudata =>
    if node.imudata_poll_thread.place = .ended then { node with destructor := .returned } else node
  | .returned => node

def take_turn (lddc : Lddc) (node : DriverNode F) : Party → Checked (DriverNode F)
  | .pointclouddata_poll_thread => node.point_cloud_data_poll_thread lddc
  | .imudata_poll_thread => node.imu_data_poll_thread lddc
  | .destructor => .ok node.destroy

def point_clouds_step (lddc : Lddc) (publish_freq : ℚ) (node : DriverNode F)
    (event : DistributionEvent F) : Checked (DriverNode F) := do
  let s ← node.point_clouds.step publish_freq (publishes lddc.building_ros2 lddc.transfer_format)
    event
  .ok (node.with_point_clouds s)

def imu_step (lddc : Lddc) (node : DriverNode F) (event : ImuEvent F) :
    Checked (DriverNode F) := do
  let s ← node.imu.step lddc event
  .ok (node.with_imu s)

def step (lddc : Lddc) (publish_freq : ℚ) (node : DriverNode F) :
    DriverEvent F → Checked (DriverNode F)
  | .push_lidar_data index lidar_data base_time =>
    node.point_clouds_step lddc publish_freq (.push_lidar_data index lidar_data base_time)
  | .push_step call => node.point_clouds_step lddc publish_freq (.producer call)
  | .storage_imu_data imu_data => node.imu_step lddc (.storage_imu_data imu_data)
  | .storage_step call => node.imu_step lddc (.producer call)
  | .get_free_index lidar_type handle => node.imu_step lddc (.get_free_index lidar_type handle)
  | .sampling index => do
    let node ← node.point_clouds_step lddc publish_freq (.sampling index)
    let device := (node.imu.lidars.get index).device
    node.imu_step lddc
      (.set_device index { device with connect_state := .kConnectStateSampling })
  | .party party => node.take_turn lddc party

end Steps

end DriverNode

end livox_ros
