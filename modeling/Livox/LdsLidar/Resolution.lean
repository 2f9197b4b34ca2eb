import Livox.LdsLidar
import Livox.Comm.LidarPubHandler

namespace livox_ros

open LidarPubHandler LdsLidar

/-- Dividing by ten and multiplying back loses what is left of the last ten. -/
theorem tdiv_ten_mul_eq_iff (a : Int) : a.tdiv 10 * 10 = a ↔ 10 ∣ a :=
  ⟨fun h => ⟨a.tdiv 10, by rw [mul_comm, h]⟩, Int.tdiv_mul_cancel⟩

theorem Int32.toInt_div_ten (a : Int32) : (a / 10).toInt = a.toInt.tdiv 10 := by
  rw [Int32.toInt_div_of_ne_right a 10 (by decide)]
  rfl

/-- The position that a decoder gives a point. -/
def PointXyzlt.position (point : PointXyzlt ℝ) : ℝ × ℝ × ℝ := (point.x, point.y, point.z)

/-- The translation in millimetres of a configured extrinsic, by row. -/
def ExtParameter.translation (param : ExtParameter ℝ) : Fin 3 → Int32 := ![param.x, param.y, param.z]

/-- The decoder of a configured lidar. The rotation is left open: the configured one is the one of
the Euler angles, which both resolutions hand over as they are. -/
noncomputable def configured (rotation : Fin 3 → Fin 3 → ℝ) (config : UserLivoxLidarConfig ℝ) :
    LidarPubHandler ℝ :=
  let handler := LidarPubHandler.new.set_lidars_ext_param (lidar_ext_parameter config)
  { handler with extrinsic := { handler.extrinsic with rotation } }

/-- One extrinsic, configured for a lidar of each resolution. -/
structure SameExtrinsic (low high : UserLivoxLidarConfig ℝ) : Prop where
  low_pcl_data_type : low.pcl_data_type = 2
  high_pcl_data_type : high.pcl_data_type = 1
  extrinsic_param : low.extrinsic_param = high.extrinsic_param

/-- The raw points of one point in centimetres and in millimetres. -/
def LivoxLidarRawPoint.TenTimes (low high : LivoxLidarRawPoint) : Prop :=
  high.x = 10 * low.x ∧ high.y = 10 * low.y ∧ high.z = 10 * low.z

/-- Packets of the same points, in centimetres and in millimetres. -/
structure SamePoints (low high : RawPacket) : Prop where
  point_num : low.point_num = high.point_num
  extrinsic_enable : low.extrinsic_enable = high.extrinsic_enable
  raw : ∀ i < low.point_num.toNat,
    (low.cartesian_low_raw_point (8 * i)).TenTimes (high.cartesian_high_raw_point (14 * i))

section Configured

variable {rotation : Fin 3 → Fin 3 → ℝ} {config low high : UserLivoxLidarConfig ℝ}

/-- The rotation that is configured does not depend on the resolution. -/
theorem SameExtrinsic.rotation_eq (h : SameExtrinsic low high) :
    (ExtParameterDetailed.of_param (lidar_ext_parameter low).param).rotation =
      (ExtParameterDetailed.of_param (lidar_ext_parameter high).param).rotation := by
  unfold lidar_ext_parameter
  rw [h.extrinsic_param]
  split <;> split <;> rfl

theorem configured_rotation :
    configured (ExtParameterDetailed.of_param (lidar_ext_parameter config).param).rotation config =
      LidarPubHandler.new.set_lidars_ext_param (lidar_ext_parameter config) := rfl

theorem configured_points_clouds : (configured rotation config).points_clouds = [] := by
  unfold configured
  simp [LidarPubHandler.new]

theorem configured_rotate (row : Fin 3) (x y z : ℝ) :
    (configured rotation config).extrinsic.rotate row x y z =
      x * rotation row 0 + y * rotation row 1 + z * rotation row 2 := rfl

theorem configured_trans_high (h : config.pcl_data_type = 1) (row : Fin 3) :
    (configured rotation config).extrinsic.trans row =
      ((config.extrinsic_param.translation row).toInt : ℝ) := by
  have htype : config.pcl_data_type.toInt ≠ kLivoxLidarCartesianCoordinateLowData.toNat := by
    rw [h]
    decide
  unfold configured lidar_ext_parameter
  rw [if_neg htype]
  fin_cases row <;> rfl

/-- The translation of a low-resolution lidar is rounded to whole centimetres, towards zero. -/
theorem configured_trans_low (h : config.pcl_data_type = 2) (row : Fin 3) :
    (configured rotation config).extrinsic.trans row =
      (((config.extrinsic_param.translation row).toInt.tdiv 10 : Int) : ℝ) := by
  have htype : config.pcl_data_type.toInt = kLivoxLidarCartesianCoordinateLowData.toNat := by
    rw [h]
    decide
  rw [← Int32.toInt_div_ten]
  unfold configured lidar_ext_parameter
  rw [if_pos htype]
  fin_cases row <;> rfl

end Configured

section Agreement

variable {rotation : Fin 3 → Fin 3 → ℝ} {low high : UserLivoxLidarConfig ℝ}
  {low_pkt high_pkt : RawPacket} {low_raw high_raw : LivoxLidarRawPoint}

theorem cartesian_coordinate_agree_iff (hconfig : SameExtrinsic low high)
    (henable : low_pkt.extrinsic_enable = high_pkt.extrinsic_enable)
    (hraw : low_raw.TenTimes high_raw) (row : Fin 3) :
    cartesian_coordinate (configured rotation low).extrinsic low_pkt 100 low_raw row =
        cartesian_coordinate (configured rotation high).extrinsic high_pkt 1000 high_raw row ↔
      low_pkt.extrinsic_enable = true ∨
        10 ∣ (low.extrinsic_param.translation row).toInt := by
  obtain ⟨hx, hy, hz⟩ := hraw
  unfold cartesian_coordinate
  rw [configured_rotate, configured_rotate, configured_trans_low hconfig.low_pcl_data_type,
    configured_trans_high hconfig.high_pcl_data_type, ← hconfig.extrinsic_param, ← henable]
  cases low_pkt.extrinsic_enable with
  | true =>
    have hscaled : ![high_raw.x, high_raw.y, high_raw.z] row =
        10 * ![low_raw.x, low_raw.y, low_raw.z] row := by
      fin_cases row <;> simp [hx, hy, hz]
    simp only [if_true, true_or, iff_true, hscaled, number]
    push_cast
    ring
  | false =>
    generalize (low.extrinsic_param.translation row).toInt = trans
    rw [← tdiv_ten_mul_eq_iff]
    simp only [Bool.false_eq_true, if_false, false_or, hx, hy, hz, number]
    generalize trans.tdiv 10 = quotient
    push_cast
    constructor
    · intro h
      have hreal : (quotient : ℝ) * 10 = trans := by linarith
      exact_mod_cast hreal
    · intro h
      have hreal : (quotient : ℝ) * 10 = trans := by exact_mod_cast h
      rw [← hreal]
      ring

theorem cartesian_position (extrinsic : ExtParameterDetailed ℝ) (pkt : RawPacket) (scale : Int)
    (i : UInt32) (raw : LivoxLidarRawPoint) :
    (cartesian_point extrinsic pkt scale i raw).position =
      (cartesian_coordinate extrinsic pkt scale raw 0, cartesian_coordinate extrinsic pkt scale raw 1,
        cartesian_coordinate extrinsic pkt scale raw 2) := rfl

theorem cartesian_position_agree_iff (hconfig : SameExtrinsic low high)
    (henable : low_pkt.extrinsic_enable = high_pkt.extrinsic_enable)
    (hraw : low_raw.TenTimes high_raw) (i : UInt32) :
    (cartesian_point (configured rotation low).extrinsic low_pkt 100 i low_raw).position =
        (cartesian_point (configured rotation high).extrinsic high_pkt 1000 i high_raw).position ↔
      low_pkt.extrinsic_enable = true ∨
        ∀ row, 10 ∣ (low.extrinsic_param.translation row).toInt := by
  simp only [cartesian_position, Prod.mk.injEq, cartesian_coordinate_agree_iff hconfig henable hraw,
    ← or_and_left, Fin.forall_fin_succ, Fin.forall_fin_zero, and_true]
  rfl

theorem positions_process_points (config : UserLivoxLidarConfig ℝ) (pkt : RawPacket)
    (decode : UInt32 → PointXyzlt ℝ) :
    ((configured rotation config).process_points pkt fun i =>
          [decode i]).points_clouds.map PointXyzlt.position =
      (List.range pkt.point_num.toNat).map fun i => (decode (UInt32.ofNat i)).position := by
  rw [process_points_eq, configured_points_clouds, List.nil_append, ← List.map_eq_flatMap,
    List.map_map]
  rfl

/-- The two resolutions give every point the same position exactly where the extrinsic is not
applied, or its translation is in whole centimetres. -/
theorem resolutions_agree_iff (hconfig : SameExtrinsic low high)
    (hpoints : SamePoints low_pkt high_pkt) :
    ((configured rotation low).process_cartesian_low_point
          low_pkt).points_clouds.map PointXyzlt.position =
        ((configured rotation high).process_cartesian_high_point
          high_pkt).points_clouds.map PointXyzlt.position ↔
      low_pkt.point_num = 0 ∨ low_pkt.extrinsic_enable = true ∨
        ∀ row, 10 ∣ (low.extrinsic_param.translation row).toInt := by
  have hpoint : ∀ i < low_pkt.point_num.toNat, ((cartesian_point (configured rotation low).extrinsic
        low_pkt 100 (UInt32.ofNat i)
        (low_pkt.cartesian_low_raw_point (8 * (UInt32.ofNat i).toNat))).position =
      (cartesian_point (configured rotation high).extrinsic high_pkt 1000 (UInt32.ofNat i)
        (high_pkt.cartesian_high_raw_point (14 * (UInt32.ofNat i).toNat))).position ↔
      low_pkt.extrinsic_enable = true ∨
        ∀ row, 10 ∣ (low.extrinsic_param.translation row).toInt) := by
    intro i hi
    rw [index_toNat hi]
    exact cartesian_position_agree_iff hconfig hpoints.extrinsic_enable (hpoints.raw i hi) _
  unfold process_cartesian_low_point process_cartesian_high_point
  rw [positions_process_points, positions_process_points, ← hpoints.point_num, List.map_inj_left]
  simp only [List.mem_range]
  rw [forall₂_congr hpoint]
  constructor
  · intro h
    by_cases hzero : low_pkt.point_num = 0
    · exact .inl hzero
    · exact .inr (h 0 (Nat.pos_of_ne_zero fun h0 => hzero (UInt32.toNat_inj.1 h0)))
  · rintro (hzero | hagree) i hi
    · rw [hzero] at hi
      exact absurd hi (Nat.not_lt_zero i)
    · exact hagree

/-- A lidar mounted this many millimetres ahead. -/
def ahead_config (x : Int32) (pcl_data_type : Int8) : UserLivoxLidarConfig ℝ where
  handle := 7
  pcl_data_type := pcl_data_type
  pattern_mode := -1
  blind_spot_set := -1
  dual_emit_en := -1
  extrinsic_param := { roll := 0, pitch := 0, yaw := 0, x, y := 0, z := 0 }
  set_bits := 0
  get_bits := 0

/-- A packet of one point at the origin, in either resolution. -/
def origin_packet (data_type : UInt8) : RawPacket where
  lidar_type := .kLivoxLidarType
  handle := 7
  extrinsic_enable := false
  point_num := 1
  data_type := data_type
  line_num := 4
  time_stamp := 0
  point_interval := 0
  raw_data := List.replicate 14 0
  past_end := fun _ => 0
  line_num_ne := four_lines_ne

theorem ahead_config_same (x : Int32) : SameExtrinsic (ahead_config x 2) (ahead_config x 1) :=
  ⟨rfl, rfl, rfl⟩

theorem origin_packet_same : SamePoints (origin_packet 2) (origin_packet 1) where
  point_num := rfl
  extrinsic_enable := rfl
  raw := by
    intro i hi
    obtain rfl : i = 0 := Nat.lt_one_iff.1 hi
    exact ⟨by decide, by decide, by decide⟩

theorem resolutions_agree_iff_centimetre :
    ((configured (fun _ _ => 0) (ahead_config 10 2)).process_cartesian_low_point
          (origin_packet 2)).points_clouds.map PointXyzlt.position =
      ((configured (fun _ _ => 0) (ahead_config 10 1)).process_cartesian_high_point
          (origin_packet 1)).points_clouds.map PointXyzlt.position := by
  refine (resolutions_agree_iff (ahead_config_same 10) origin_packet_same).2 (.inr (.inr ?_))
  show ∀ row, 10 ∣ ((![10, 0, 0] : Fin 3 → Int32) row).toInt
  decide

theorem resolutions_agree_five_false :
    ¬ ∀ (rotation : Fin 3 → Fin 3 → ℝ) (low high : UserLivoxLidarConfig ℝ)
        (low_pkt high_pkt : RawPacket), SameExtrinsic low high → SamePoints low_pkt high_pkt →
      ((configured rotation low).process_cartesian_low_point
          low_pkt).points_clouds.map PointXyzlt.position =
        ((configured rotation high).process_cartesian_high_point
          high_pkt).points_clouds.map PointXyzlt.position := by
  intro h
  have heq := h (fun _ _ => 0) (ahead_config 5 2) (ahead_config 5 1) (origin_packet 2)
    (origin_packet 1) (ahead_config_same 5) origin_packet_same
  unfold process_cartesian_low_point process_cartesian_high_point at heq
  rw [positions_process_points, positions_process_points, ← origin_packet_same.point_num,
    List.map_inj_left] at heq
  have hpoint := heq 0 (by decide)
  rcases (cartesian_position_agree_iff (ahead_config_same 5) rfl
    (origin_packet_same.raw 0 (by decide)) 0).1 hpoint with henable | hwhole
  · exact absurd henable (by decide)
  · have hfive : (10 : Int) ∣ (5 : Int32).toInt := hwhole 0
    exact absurd hfive (by decide)

end Agreement

end livox_ros
