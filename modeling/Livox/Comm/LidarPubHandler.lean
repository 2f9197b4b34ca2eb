import Livox.Comm.Types

namespace livox_ros

/-- The byte at an offset from `raw_data.data()`. -/
def RawPacket.byte (pkt : RawPacket) (offset : Nat) : UInt8 :=
  (pkt.raw_data[offset]?).getD (pkt.past_end offset)

def RawPacket.read_u16 (pkt : RawPacket) (offset : Nat) : UInt16 :=
  (pkt.byte offset).toUInt16 ||| (pkt.byte (offset + 1)).toUInt16 <<< 8

def RawPacket.read_u32 (pkt : RawPacket) (offset : Nat) : UInt32 :=
  (pkt.read_u16 offset).toUInt32 ||| (pkt.read_u16 (offset + 2)).toUInt32 <<< 16

def RawPacket.read_i16 (pkt : RawPacket) (offset : Nat) : Int16 :=
  (pkt.read_u16 offset).toInt16

def RawPacket.read_i32 (pkt : RawPacket) (offset : Nat) : Int32 :=
  (pkt.read_u32 offset).toInt32

/-- The fields that the raw points of every layout have in common: a position
in the units of the layout, and what is copied to the point as it is. -/
structure LivoxLidarRawPoint where
  x : Int
  y : Int
  z : Int
  reflectivity : UInt8
  tag : UInt8

/-- The packed `LivoxLidarCartesianHighRawPoint` at a byte offset. -/
def RawPacket.cartesian_high_raw_point (pkt : RawPacket) (offset : Nat) : LivoxLidarRawPoint where
  x := (pkt.read_i32 offset).toInt
  y := (pkt.read_i32 (offset + 4)).toInt
  z := (pkt.read_i32 (offset + 8)).toInt
  reflectivity := pkt.byte (offset + 12)
  tag := pkt.byte (offset + 13)

/-- The packed `LivoxLidarCartesianLowRawPoint` at a byte offset. -/
def RawPacket.cartesian_low_raw_point (pkt : RawPacket) (offset : Nat) : LivoxLidarRawPoint where
  x := (pkt.read_i16 offset).toInt
  y := (pkt.read_i16 (offset + 2)).toInt
  z := (pkt.read_i16 (offset + 4)).toInt
  reflectivity := pkt.byte (offset + 6)
  tag := pkt.byte (offset + 7)

structure LivoxLidarSpherPoint where
  depth : UInt32
  theta : UInt16
  phi : UInt16
  reflectivity : UInt8
  tag : UInt8

def RawPacket.spher_point (pkt : RawPacket) (offset : Nat) : LivoxLidarSpherPoint where
  depth := pkt.read_u32 offset
  theta := pkt.read_u16 (offset + 4)
  phi := pkt.read_u16 (offset + 6)
  reflectivity := pkt.byte (offset + 8)
  tag := pkt.byte (offset + 9)

section Decode

variable {F : Type} [Coordinate F]

/-- The number a literal or an integer field converts to. -/
def number (n : Int) : F := (n : F)

def ExtParameterDetailed.rotate (extrinsic : ExtParameterDetailed F) (row : Fin 3) (x y z : F) : F :=
  x * extrinsic.rotation row 0 + y * extrinsic.rotation row 1 + z * extrinsic.rotation row 2

/-- The initialiser of `extrinsic_`. -/
def ExtParameterDetailed.initial : ExtParameterDetailed F where
  trans := ![number 0, number 0, number 0]
  rotation := ![![number 1, number 0, number 0], ![number 0, number 1, number 1],
    ![number 0, number 0, number 1]]

/-- The extrinsic that `SetLidarsExtParam` stores for a configured parameter. -/
def ExtParameterDetailed.of_param (param : ExtParameter F) : ExtParameterDetailed F :=
  let cos_roll := Coordinate.cos (param.roll * Coordinate.PI / number 180)
  let cos_pitch := Coordinate.cos (param.pitch * Coordinate.PI / number 180)
  let cos_yaw := Coordinate.cos (param.yaw * Coordinate.PI / number 180)
  let sin_roll := Coordinate.sin (param.roll * Coordinate.PI / number 180)
  let sin_pitch := Coordinate.sin (param.pitch * Coordinate.PI / number 180)
  let sin_yaw := Coordinate.sin (param.yaw * Coordinate.PI / number 180)
  { trans := ![number param.x.toInt, number param.y.toInt, number param.z.toInt]
    rotation :=
      ![![cos_pitch * cos_yaw,
          sin_roll * sin_pitch * cos_yaw - cos_roll * sin_yaw,
          cos_roll * sin_pitch * cos_yaw + sin_roll * sin_yaw],
        ![cos_pitch * sin_yaw,
          sin_roll * sin_pitch * sin_yaw + cos_roll * cos_yaw,
          cos_roll * sin_pitch * sin_yaw - sin_roll * cos_yaw],
        ![-sin_pitch, sin_roll * cos_pitch, cos_roll * cos_pitch]] }

/-- One Cartesian coordinate: the raw integers scaled to metres, after the
extrinsic unless the packet says that the lidar has applied it. -/
def cartesian_coordinate (extrinsic : ExtParameterDetailed F) (pkt : RawPacket) (scale : Int)
    (raw : LivoxLidarRawPoint) (row : Fin 3) : F :=
  if pkt.extrinsic_enable then
    number (![raw.x, raw.y, raw.z] row) / number scale
  else
    (extrinsic.rotate row (number raw.x) (number raw.y) (number raw.z) + extrinsic.trans row) /
      number scale

def point_line (pkt : RawPacket) (i : UInt32) : UInt8 := (i % pkt.line_num.toUInt32).toUInt8

def point_offset_time (pkt : RawPacket) (i : UInt32) : UInt64 :=
  pkt.time_stamp + i.toUInt64 * pkt.point_interval

def cartesian_point (extrinsic : ExtParameterDetailed F) (pkt : RawPacket) (scale : Int) (i : UInt32)
    (raw : LivoxLidarRawPoint) : PointXyzlt F where
  x := cartesian_coordinate extrinsic pkt scale raw 0
  y := cartesian_coordinate extrinsic pkt scale raw 1
  z := cartesian_coordinate extrinsic pkt scale raw 2
  intensity := number raw.reflectivity.toNat
  tag := raw.tag
  line := point_line pkt i
  offset_time := point_offset_time pkt i

def spherical_coordinate (extrinsic : ExtParameterDetailed F) (pkt : RawPacket)
    (src : Fin 3 → F) (row : Fin 3) : F :=
  if pkt.extrinsic_enable then src row
  else extrinsic.rotate row (src 0) (src 1) (src 2) + extrinsic.trans row / number 1000

def spherical_point (extrinsic : ExtParameterDetailed F) (pkt : RawPacket) (i : UInt32)
    (raw : LivoxLidarSpherPoint) : PointXyzlt F :=
  let radius := number raw.depth.toNat / number 1000
  let theta := number raw.theta.toNat / number 100 / number 180 * Coordinate.PI
  let phi := number raw.phi.toNat / number 100 / number 180 * Coordinate.PI
  let src := ![radius * Coordinate.sin theta * Coordinate.cos phi,
    radius * Coordinate.sin theta * Coordinate.sin phi, radius * Coordinate.cos theta]
  { x := spherical_coordinate extrinsic pkt src 0
    y := spherical_coordinate extrinsic pkt src 1
    z := spherical_coordinate extrinsic pkt src 2
    intensity := number raw.reflectivity.toNat
    tag := raw.tag
    line := point_line pkt i
    offset_time := point_offset_time pkt i }

end Decode

/-- The publisher's accumulator of one lidar. -/
structure LidarPubHandler (F : Type) where
  points_clouds : List (PointXyzlt F)
  extrinsic : ExtParameterDetailed F
  is_set_extrinsic_params : Bool

namespace LidarPubHandler

variable {F : Type} [Coordinate F]

def new : LidarPubHandler F :=
  { points_clouds := [], extrinsic := ExtParameterDetailed.initial, is_set_extrinsic_params := false }

def get_lidar_base_time (handler : LidarPubHandler F) : UInt64 :=
  match handler.points_clouds.head? with
  | none => 0
  | some point => point.offset_time

def get_recent_time_stamp (handler : LidarPubHandler F) : UInt64 :=
  match handler.points_clouds.getLast? with
  | none => 0
  | some point => point.offset_time

/-- Swap the accumulator with the caller's vector, which is returned. -/
def get_lidar_point_clouds (handler : LidarPubHandler F) (points_clouds : List (PointXyzlt F)) :
    LidarPubHandler F × List (PointXyzlt F) :=
  ({ handler with points_clouds := points_clouds }, handler.points_clouds)

/-- Only the first call sets anything. -/
def set_lidars_ext_param (handler : LidarPubHandler F) (lidar_param : LidarExtParameter F) :
    LidarPubHandler F :=
  if handler.is_set_extrinsic_params then handler
  else
    { handler with
      extrinsic := ExtParameterDetailed.of_param lidar_param.param
      is_set_extrinsic_params := true }

/-- The loop over the points of a packet that every decoder has: `decode` gives
the points that the body pushes in one iteration. -/
def process_points (handler : LidarPubHandler F) (pkt : RawPacket)
    (decode : UInt32 → List (PointXyzlt F)) : LidarPubHandler F :=
  (List.range pkt.point_num.toNat).foldl (fun handler i =>
    { handler with points_clouds := handler.points_clouds ++ decode (UInt32.ofNat i) }) handler

def process_cartesian_high_point (handler : LidarPubHandler F) (pkt : RawPacket) :
    LidarPubHandler F :=
  handler.process_points pkt fun i =>
    [cartesian_point handler.extrinsic pkt 1000 i (pkt.cartesian_high_raw_point (14 * i.toNat))]

def process_cartesian_low_point (handler : LidarPubHandler F) (pkt : RawPacket) :
    LidarPubHandler F :=
  handler.process_points pkt fun i =>
    [cartesian_point handler.extrinsic pkt 100 i (pkt.cartesian_low_raw_point (8 * i.toNat))]

def process_spherical_point (handler : LidarPubHandler F) (pkt : RawPacket) : LidarPubHandler F :=
  handler.process_points pkt fun i =>
    [spherical_point handler.extrinsic pkt i (pkt.spher_point (10 * i.toNat))]

/-- A double-echo raw point is two Cartesian ones, one behind the other. -/
def process_double_echo_point (handler : LidarPubHandler F) (pkt : RawPacket) :
    LidarPubHandler F :=
  handler.process_points pkt fun i =>
    [cartesian_point handler.extrinsic pkt 1000 i (pkt.cartesian_high_raw_point (28 * i.toNat)),
      cartesian_point handler.extrinsic pkt 1000 i
        (pkt.cartesian_high_raw_point (28 * i.toNat + 14))]

/-- A packet of an unknown data type is dropped. -/
def livox_lidar_point_cloud_process (handler : LidarPubHandler F) (pkt : RawPacket) :
    LidarPubHandler F :=
  if pkt.data_type = kLivoxLidarCartesianCoordinateHighData then
    handler.process_cartesian_high_point pkt
  else if pkt.data_type = kLivoxLidarCartesianCoordinateLowData then
    handler.process_cartesian_low_point pkt
  else if pkt.data_type = kLivoxLidarSphericalCoordinateData then
    handler.process_spherical_point pkt
  else if pkt.data_type = kLivoxLidarDoubleEchoData then
    handler.process_double_echo_point pkt
  else handler

def point_cloud_process (handler : LidarPubHandler F) (pkt : RawPacket) : LidarPubHandler F :=
  if pkt.lidar_type = .kLivoxLidarType then handler.livox_lidar_point_cloud_process pkt else handler

omit [Coordinate F] in
theorem process_points_eq (handler : LidarPubHandler F) (pkt : RawPacket)
    (decode : UInt32 → List (PointXyzlt F)) :
    handler.process_points pkt decode =
      { handler with
        points_clouds := handler.points_clouds ++
          (List.range pkt.point_num.toNat).flatMap fun i => decode (UInt32.ofNat i) } := by
  unfold process_points
  induction List.range pkt.point_num.toNat generalizing handler with
  | nil => simp
  | cons i rest ih => rw [List.foldl_cons, ih, List.flatMap_cons, ← List.append_assoc]

/-- The points that a packet decodes to, as an accumulator with the extrinsic
and nothing else in it collects them. -/
def decoded_points (extrinsic : ExtParameterDetailed F) (pkt : RawPacket) : List (PointXyzlt F) :=
  (point_cloud_process { points_clouds := [], extrinsic, is_set_extrinsic_params := true }
    pkt).points_clouds

/-- Processing a packet appends its points and changes nothing else. -/
theorem point_cloud_process_eq (handler : LidarPubHandler F) (pkt : RawPacket) :
    handler.point_cloud_process pkt =
      { handler with
        points_clouds := handler.points_clouds ++ decoded_points handler.extrinsic pkt } := by
  unfold decoded_points point_cloud_process livox_lidar_point_cloud_process
    process_cartesian_high_point process_cartesian_low_point process_spherical_point
    process_double_echo_point
  split_ifs <;> simp only [process_points_eq, List.nil_append, List.append_nil]

/-- The points that the body of the decoders' loop pushes in one iteration. -/
def decode_point (extrinsic : ExtParameterDetailed F) (pkt : RawPacket) (i : UInt32) :
    List (PointXyzlt F) :=
  if pkt.data_type = kLivoxLidarCartesianCoordinateHighData then
    [cartesian_point extrinsic pkt 1000 i (pkt.cartesian_high_raw_point (14 * i.toNat))]
  else if pkt.data_type = kLivoxLidarCartesianCoordinateLowData then
    [cartesian_point extrinsic pkt 100 i (pkt.cartesian_low_raw_point (8 * i.toNat))]
  else if pkt.data_type = kLivoxLidarSphericalCoordinateData then
    [spherical_point extrinsic pkt i (pkt.spher_point (10 * i.toNat))]
  else if pkt.data_type = kLivoxLidarDoubleEchoData then
    [cartesian_point extrinsic pkt 1000 i (pkt.cartesian_high_raw_point (28 * i.toNat)),
      cartesian_point extrinsic pkt 1000 i (pkt.cartesian_high_raw_point (28 * i.toNat + 14))]
  else []

omit [Coordinate F] in
theorem index_toNat {pkt : RawPacket} {i : Nat} (hi : i < pkt.point_num.toNat) :
    (UInt32.ofNat i).toNat = i := by
  have hpoint_num := pkt.point_num.toNat_lt
  rw [UInt32.toNat_ofNat', Nat.mod_eq_of_lt (by omega)]

theorem decoded_points_eq (extrinsic : ExtParameterDetailed F) {pkt : RawPacket}
    (hlidar : pkt.lidar_type = .kLivoxLidarType) :
    decoded_points extrinsic pkt =
      (List.range pkt.point_num.toNat).flatMap fun i => decode_point extrinsic pkt (UInt32.ofNat i) := by
  unfold decoded_points point_cloud_process livox_lidar_point_cloud_process decode_point
    process_cartesian_high_point process_cartesian_low_point process_spherical_point
    process_double_echo_point
  rw [if_pos hlidar]
  split_ifs <;> simp [process_points_eq]

@[simp] theorem set_lidars_ext_param_points_clouds (handler : LidarPubHandler F)
    (lidar_param : LidarExtParameter F) :
    (handler.set_lidars_ext_param lidar_param).points_clouds = handler.points_clouds := by
  unfold set_lidars_ext_param
  split <;> rfl

end LidarPubHandler

end livox_ros
