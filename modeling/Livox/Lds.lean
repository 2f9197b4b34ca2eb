import Livox.Comm.Ldq

open checked execution

namespace livox_ros

structure Semaphore where
  count : Int
  deriving DecidableEq, Repr

def Semaphore.get_count (semaphore : Semaphore) : Int := semaphore.count

def Semaphore.signal (semaphore : Semaphore) : Semaphore := { count := semaphore.count + 1 }

/-- The semaphore after `Wait`; `none` while the caller stays blocked. -/
def Semaphore.wait (semaphore : Semaphore) : Option Semaphore :=
  if semaphore.count > 0 then some { count := semaphore.count - 1 } else none

/-- A frequency is a finite double, hence a rational; the cast truncates. -/
def calculate_packet_queue_size (publish_freq : ℚ) : UInt32 :=
  if publish_freq > 10 then UInt32.ofNat ⌊publish_freq⌋.toNat + 1 else 10

/-- `PushLidarData` allocates the queue of a lidar on its first packet. -/
def ensure_storage {F : Type} (publish_freq : ℚ) (queue : LidarDataQueue F) :
    Checked (LidarDataQueue F) :=
  match queue.storage_packet with
  | .null => init_queue queue (calculate_packet_queue_size publish_freq)
  | _ => .ok queue

/-- The signal is given only to a consumer that may be about to sleep. -/
def signal_if_needed (pcd_semaphore : Semaphore) : Semaphore :=
  if pcd_semaphore.get_count ≤ 0 then pcd_semaphore.signal else pcd_semaphore

/-- `Lds::PushLidarData` on the queue of the lidar that the index selects. -/
def push_lidar_data {F : Type} (publish_freq : ℚ) (queue : LidarDataQueue F)
    (pcd_semaphore : Semaphore) (lidar_data : ReadablePacket F) (base_time : UInt64) :
    Checked (LidarDataQueue F × Semaphore) := do
  let queue ← ensure_storage publish_freq queue
  if !queue_is_full queue then
    let queue ← queue_push_any queue lidar_data base_time
    if !queue_is_empty queue then
      .ok (queue, signal_if_needed pcd_semaphore)
    else
      .ok (queue, pcd_semaphore)
  else
    .ok (queue, signal_if_needed pcd_semaphore)

/-- `Lds::ResetLidar`, with the imu queue and the data source left out. -/
def reset_lidar {F : Type} (lidar : LidarDevice F) : Checked (LidarDevice F) := do
  let data ← deinit_queue lidar.data
  .ok { lidar with data, connect_state := .kConnectStateOff }

/-- One iteration of the loop of `Lds::ResetLds`. -/
def reset_lidar_at {F : Type} (lidars : Vector (LidarDevice F) kMaxSourceLidar)
    (i : Fin kMaxSourceLidar) : Checked (Vector (LidarDevice F) kMaxSourceLidar) := do
  let lidar ← reset_lidar (lidars.get i)
  .ok (lidars.set i lidar i.isLt)

def reset_lds {F : Type} (lidars : Vector (LidarDevice F) kMaxSourceLidar) :
    Checked (Vector (LidarDevice F) kMaxSourceLidar) :=
  exec reset_lidar_at lidars (List.finRange kMaxSourceLidar)

end livox_ros
