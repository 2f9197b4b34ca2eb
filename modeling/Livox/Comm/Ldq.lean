import Livox.Comm.Types
import Livox.Library.Exec

open checked

namespace livox_ros

def is_power_of_2 (size : UInt32) : Bool :=
  size != 0 && (size &&& (size - 1)) == 0

/-- The loop of `RoundupPowerOf2` with `remaining` iterations to go. -/
def roundup_loop (size : UInt32) : Nat → UInt32 → UInt32 → UInt32
  | 0, _, power2_val => power2_val
  | remaining + 1, i, _ =>
    let power2_val := (1 : UInt32) <<< i
    if size ≤ power2_val then power2_val else roundup_loop size remaining (i + 1) power2_val

def roundup_power_of_2 (size : UInt32) : UInt32 :=
  roundup_loop size 32 0 0

/-- The size that `InitQueue` allocates for a requested size. -/
def real_queue_size (queue_size : UInt32) : UInt32 :=
  if is_power_of_2 queue_size then queue_size else roundup_power_of_2 queue_size

/-- Giving back storage twice is undefined; giving back null does nothing. -/
def StoragePointer.delete {α : Type} : StoragePointer α → Checked Unit
  | .null => .ok ()
  | .live _ => .ok ()
  | .freed => .error .freedStorage

/-- The cells that a storage pointer addresses. -/
def StoragePointer.cells {α : Type} : StoragePointer α → Checked (List α)
  | .null => .error .nullDereference
  | .live cells => .ok cells
  | .freed => .error .freedStorage

/-- A default-constructed cell of the storage array. -/
def StoragePacket.default (F : Type) : StoragePacket F :=
  { base_time := 0, points_num := 0, points := [] }

def init_queue {F : Type} (queue : LidarDataQueue F) (queue_size : UInt32) :
    Checked (LidarDataQueue F) := do
  let queue_size := real_queue_size queue_size
  queue.storage_packet.delete
  .ok
    { storage_packet := .live (List.replicate queue_size.toNat (StoragePacket.default F))
      rd_idx := 0
      wr_idx := 0
      size := queue_size
      mask := queue_size - 1 }

/-- `DeInitQueue` gives the storage back and leaves the pointer as it is. -/
def deinit_queue {F : Type} (queue : LidarDataQueue F) : Checked (LidarDataQueue F) := do
  queue.storage_packet.delete
  .ok
    { storage_packet := match queue.storage_packet with
        | .null => .null
        | _ => .freed
      rd_idx := 0
      wr_idx := 0
      size := 0
      mask := 0 }

def queue_used_size {F : Type} (queue : LidarDataQueue F) : UInt32 :=
  queue.wr_idx - queue.rd_idx

def queue_is_full {F : Type} (queue : LidarDataQueue F) : Bool :=
  queue.wr_idx - queue.rd_idx > queue.mask

def queue_is_empty {F : Type} (queue : LidarDataQueue F) : Bool :=
  queue.rd_idx == queue.wr_idx

/-- Copy the oldest packet out; `none` when the queue is empty. -/
def queue_pre_pop {F : Type} (queue : LidarDataQueue F) : Checked (Option (StoragePacket F)) := do
  if queue_is_empty queue then
    .ok none
  else
    let rd_idx := queue.rd_idx &&& queue.mask
    let cells ← queue.storage_packet.cells
    let packet ← readList cells rd_idx.toNat
    .ok (some { packet with points := packet.points.take packet.points_num.toNat })

def queue_pop_update {F : Type} (queue : LidarDataQueue F) : LidarDataQueue F :=
  { queue with rd_idx := queue.rd_idx + 1 }

def queue_pop {F : Type} (queue : LidarDataQueue F) :
    Checked (Option (StoragePacket F) × LidarDataQueue F) := do
  match ← queue_pre_pop queue with
  | none => .ok (none, queue)
  | some packet => .ok (some packet, queue_pop_update queue)

/-- The cell that `QueuePushAny` fills from a point packet. -/
def StoragePacket.of_point_packet {F : Type} (data : ReadablePacket F) (base_time : UInt64) :
    StoragePacket F where
  base_time := base_time
  points_num := data.val.points_num
  points := data.val.points.take data.val.points_num.toNat

def queue_push_any {F : Type} (queue : LidarDataQueue F) (data : ReadablePacket F)
    (base_time : UInt64) : Checked (LidarDataQueue F) := do
  let wr_idx := queue.wr_idx &&& queue.mask
  let cells ← queue.storage_packet.cells
  let cells ← writeList cells wr_idx.toNat (StoragePacket.of_point_packet data base_time)
  .ok { queue with storage_packet := .live cells, wr_idx := queue.wr_idx + 1 }

end livox_ros
