import Mathlib

namespace livox_ros

/-- Max lidar data source num. -/
def kMaxSourceLidar : Nat := 32

def kNsPerSecond : Nat := 1000000000

def kRatioOfMsToNs : UInt64 := 1000000

def kNsTolerantFrameTimeDeviation : UInt64 := 1000000

inductive LidarProtoType where
  | kIndustryLidarType
  | kVehicleLidarType
  | kDirectLidarType
  | kLivoxLidarType
  deriving DecidableEq, Repr

/-- The enumerator as the `uint8_t` that the tables and packets store. -/
def LidarProtoType.val : LidarProtoType → UInt8
  | kIndustryLidarType => 1
  | kVehicleLidarType => 2
  | kDirectLidarType => 4
  | kLivoxLidarType => 8

def kLivoxLidarCartesianCoordinateHighData : UInt8 := 0x01
def kLivoxLidarCartesianCoordinateLowData : UInt8 := 0x02
def kLivoxLidarSphericalCoordinateData : UInt8 := 0x03
def kLivoxLidarDoubleEchoData : UInt8 := 0x11

/-- Lidar connect state. -/
inductive LidarConnectState where
  | kConnectStateOff
  | kConnectStateOn
  | kConnectStateConfig
  | kConnectStateSampling
  deriving DecidableEq, Repr

/-- The carrier of the point coordinates, with the operations that the decoders
apply to it. Nothing is assumed about them here: the results about frames and
queues hold for every rounding, and exact arithmetic is one instance. -/
class Coordinate (F : Type) extends Zero F, One F, Add F, Sub F, Neg F, Mul F, Div F, IntCast F where
  sin : F → F
  cos : F → F
  PI : F

/-- Exact arithmetic. The constant is the literal of the source, which is not `Real.pi`. -/
noncomputable instance : Coordinate ℝ where
  sin := Real.sin
  cos := Real.cos
  PI := 3.14159265358979323846

structure PointXyzlt (F : Type) where
  x : F
  y : F
  z : F
  intensity : F
  tag : UInt8
  line : UInt8
  offset_time : UInt64
  deriving DecidableEq

/-- A point packet, over the representation `P` of its `points` pointer: the
frame keeps an address, and what a receiver reads through it is a list. -/
structure PointPacket (P : Type) where
  handle : UInt32
  lidar_type : UInt8
  points_num : UInt32
  points : P
  deriving DecidableEq

/-- A packet whose pointer can be read for `points_num` points, as every
function that copies the points relies on. -/
def ReadablePacket (F : Type) : Type :=
  { packet : PointPacket (List (PointXyzlt F)) // packet.points_num.toNat ≤ packet.points.length }

/-- The address of a vector of `points_`, named by its key; `none` is null. -/
abbrev PointsAddress := Option UInt32

structure PointFrame where
  base_time : Vector UInt64 kMaxSourceLidar
  lidar_num : UInt8
  lidar_point : Vector (PointPacket PointsAddress) kMaxSourceLidar

/-- The value-initialised frame. -/
def PointFrame.zero : PointFrame where
  base_time := Vector.replicate kMaxSourceLidar 0
  lidar_num := 0
  lidar_point := Vector.replicate kMaxSourceLidar
    { handle := 0, lidar_type := 0, points_num := 0, points := none }

structure StoragePacket (F : Type) where
  base_time : UInt64
  points_num : UInt32
  points : List (PointXyzlt F)
  deriving DecidableEq

/-- A raw packet. `raw_data` is the vector and `past_end` is whatever the heap
holds behind its buffer, so that a decoder that reads on past the vector still
reads some bytes, about which nothing is known. Every device type that fills a
packet in gives it a positive number of lines. -/
structure RawPacket where
  lidar_type : LidarProtoType
  handle : UInt32
  extrinsic_enable : Bool
  point_num : UInt32
  data_type : UInt8
  line_num : UInt8
  time_stamp : UInt64
  point_interval : UInt64
  raw_data : List UInt8
  past_end : Nat → UInt8
  line_num_ne : line_num ≠ 0

/-- A Mid360 fills four lines in. -/
theorem four_lines_ne : (4 : UInt8) ≠ 0 := by decide

/-- A `new[]` pointer: null, the address of live cells, or of cells that have
been given back. -/
inductive StoragePointer (α : Type) where
  | null
  | live (cells : List α)
  | freed
  deriving DecidableEq

structure LidarDataQueue (F : Type) where
  storage_packet : StoragePointer (StoragePacket F)
  rd_idx : UInt32
  wr_idx : UInt32
  mask : UInt32
  size : UInt32
  deriving DecidableEq

/-- A queue in zeroed memory, before any storage is allocated for it. -/
def LidarDataQueue.zero (F : Type) : LidarDataQueue F :=
  { storage_packet := .null, rd_idx := 0, wr_idx := 0, mask := 0, size := 0 }

/-- Extrinsic parameter: angles in degrees and a translation in millimetres. -/
structure ExtParameter (F : Type) where
  roll : F
  pitch : F
  yaw : F
  x : Int32
  y : Int32
  z : Int32
  deriving DecidableEq

structure ExtParameterDetailed (F : Type) where
  trans : Fin 3 → F
  rotation : Fin 3 → Fin 3 → F

structure LidarExtParameter (F : Type) where
  lidar_type : LidarProtoType
  handle : UInt32
  param : ExtParameter F
  deriving DecidableEq

/-- The user's configuration of one lidar; `-1` stands for a parameter that the
configuration file leaves out. -/
structure UserLivoxLidarConfig (F : Type) where
  handle : UInt32
  pcl_data_type : Int8
  pattern_mode : Int8
  blind_spot_set : Int32
  dual_emit_en : Int8
  extrinsic_param : ExtParameter F
  set_bits : UInt32
  get_bits : UInt32
  deriving DecidableEq

structure LidarDevice (F : Type) where
  lidar_type : UInt8
  handle : UInt32
  connect_state : LidarConnectState
  data : LidarDataQueue F
  livox_config : UserLivoxLidarConfig F
  deriving DecidableEq

/-- A device of the static table before anything has been stored in it: zeroed
memory, on which `ResetLidar` has set the connect state. -/
def LidarDevice.zero (F : Type) [Zero F] : LidarDevice F where
  lidar_type := 0
  handle := 0
  connect_state := .kConnectStateOff
  data := LidarDataQueue.zero F
  livox_config :=
    { handle := 0, pcl_data_type := 0, pattern_mode := 0, blind_spot_set := 0, dual_emit_en := 0
      extrinsic_param := { roll := 0, pitch := 0, yaw := 0, x := 0, y := 0, z := 0 }
      set_bits := 0, get_bits := 0 }

end livox_ros
