import Livox.CallBack.LivoxLidarCallback
import Livox.Comm.PubHandler.Datagram
import Livox.Lddc.Polling
import Livox.Lds.Lifecycle

open checked fifo

namespace livox_ros

/-- The storage cell that a packet of a frame is copied to. -/
def PublishedPacket.storage_packet {F : Type} (packet : PublishedPacket F) : StoragePacket F where
  base_time := packet.base_time
  points_num := packet.packet.points_num
  points := packet.packet.points.take packet.packet.points_num.toNat

/-- The driver between the observer of the SDK and the topics: the publisher thread, which is inside
the callback while it has packets of a frame to store, the device table with its queues, and what
the polling thread has published. `stored` has the packets that `StoragePointData` is through with
and the index of each, `calls` what has been done to each queue, and `taken` what the polling thread
has taken out of the queues. -/
structure Pipeline (F : Type) where
  pub : PubRun F
  storing : List (PublishedPacket F)
  lds : LdsLidar F
  pcd_semaphore : Semaphore
  publications : Publications F
  stored : List (PublishedPacket F × Option UInt8)
  calls : Fin kMaxSourceLidar → List (Operation (StoragePacket F))
  taken : List (Fin kMaxSourceLidar × StoragePacket F)

/-- A configured lidar is registered, a lidar is reported, the receiver or the publisher thread makes
a step, the publisher thread stores the next packet of its frame, or the polling thread goes once
through the loop of a publisher for a device. -/
inductive PipelineEvent (F : Type) where
  | register_lidar (config : UserLivoxLidarConfig F)
  | lidar_info_change (handle : UInt32)
  | pub (event : PubEvent)
  | storage_point_data
  | publish (index : Fin kMaxSourceLidar)

namespace Pipeline

section Step

variable {F : Type}

/-- The publisher thread is inside the callback. -/
def busy (s : Pipeline F) : PubEvent → Bool
  | .process => !s.storing.isEmpty
  | .timer _ => !s.storing.isEmpty
  | _ => false

/-- The decoder reads the raw points of the packet that the publisher thread takes out of its queue,
as many as the packet counts. -/
def read_raw_points (s : Pipeline F) : PubEvent → Checked Unit
  | .process =>
    match s.pub.pending, s.pub.handler.raw_packet_queue with
    | none, raw_data :: _ =>
      let finish := raw_point_size raw_data.data_type * raw_data.point_num.toNat
      if finish ≤ raw_data.raw_data.length then .ok ()
      else .error (.outOfBounds finish raw_data.raw_data.length)
    | _, _ => .ok ()
  | _ => .ok ()

/-- A step of the receiver or of the publisher thread. A frame that it publishes is handed to the
callback. -/
def pub_step [Coordinate F] (s : Pipeline F) (event : PubEvent) : Checked (Pipeline F) :=
  if s.busy event then .ok s
  else do
    s.read_raw_points event
    let pub ← s.pub.step event
    let frames := pub.published.drop s.pub.published.length
    .ok { s with pub, storing := s.storing ++ frames.flatten }

/-- `PushLidarData` on the queue of the device at this index. -/
def push (publish_freq : ℚ) (s : Pipeline F) (index : UInt8) (packet : PublishedPacket F) :
    Checked (Pipeline F) :=
  if hindex : index.toNat < kMaxSourceLidar then
    if hreadable : packet.packet.points_num.toNat ≤ packet.packet.points.length then do
      let i : Fin kMaxSourceLidar := ⟨index.toNat, hindex⟩
      let (data, pcd_semaphore) ← push_lidar_data publish_freq (s.lds.lidars.get i).data
        s.pcd_semaphore ⟨packet.packet, hreadable⟩ packet.base_time
      let lds ← s.lds.modify_lidar index fun device => { device with data }
      .ok
        { s with
          lds, pcd_semaphore
          calls := Function.update s.calls i (s.calls i ++ [.push packet.storage_packet]) }
    else .error (.outOfBounds packet.packet.points_num.toNat packet.packet.points.length)
  else .error (.outOfBounds index.toNat kMaxSourceLidar)

/-- The next iteration of the loop of `StoragePointData`: a packet of a lidar without an index is
left out. -/
def storage_point_data (publish_freq : ℚ) (s : Pipeline F) : Checked (Pipeline F) :=
  match s.storing with
  | [] => .ok s
  | packet :: storing => do
    let index := s.lds.cache_index.get_index packet.packet.lidar_type packet.packet.handle
    let s : Pipeline F := { s with storing, stored := s.stored ++ [(packet, index)] }
    match index with
    | none => .ok s
    | some index => s.push publish_freq index packet

/-- An iteration of the loop of `PublishPointcloud2` or of one of its siblings for a device. -/
def publish (lddc : Lddc) (to_uint8 : F → UInt8) (s : Pipeline F) (i : Fin kMaxSourceLidar) :
    Checked (Pipeline F) :=
  let device := s.lds.lidars.get i
  if publishes lddc.building_ros2 lddc.transfer_format && !queue_is_empty device.data then do
    let (popped, _) ← queue_pop device.data
    let t ← lddc.publish_turn to_uint8 device i
      { place := .publish_loop, request_exit := false, queue := device.data
        publications := s.publications }
    .ok
      { s with
        lds :=
          { s.lds with lidars := s.lds.lidars.set i { device with data := t.queue } i.isLt }
        publications := t.publications
        calls := Function.update s.calls i (s.calls i ++ [.pop])
        taken := s.taken ++ popped.toList.map (i, ·) }
  else .ok s

def step [Coordinate F] (publish_freq : ℚ) (lddc : Lddc) (to_uint8 : F → UInt8) (s : Pipeline F) :
    PipelineEvent F → Checked (Pipeline F)
  | .register_lidar config => do
    let (lds, _) ← s.lds.register_lidar config
    .ok { s with lds }
  | .lidar_info_change handle => do
    let (lds, _) ← lidar_info_change_callback s.lds handle
    .ok { s with lds }
  | .pub event => s.pub_step event
  | .storage_point_data => s.storage_point_data publish_freq
  | .publish i => s.publish lddc to_uint8 i

def start [Coordinate F] (publish_interval : PublishInterval)
    (lidar_extrinsics : Std.TreeMap UInt32 (LidarExtParameter F)) : Pipeline F where
  pub := PubRun.start publish_interval lidar_extrinsics
  storing := []
  lds := LdsLidar.new
  pcd_semaphore := { count := 0 }
  publications := { private_pub := Vector.replicate kMaxSourceLidar none, global_pub := none
                    published := [] }
  stored := []
  calls := fun _ => []
  taken := []

end Step

end Pipeline

end livox_ros
