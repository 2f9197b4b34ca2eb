import Livox.Comm.LidarPubHandler
import Livox.ParseCfgFile.ParseLivoxLidarCfg

namespace livox_ros

namespace LidarPubHandler

section Flatten

variable {α β : Type} {f g : α → List β}

/-- Lists of pieces of the same lengths are the same when the pieces are. -/
theorem flatMap_eq_iff_of_length (hlength : ∀ a, (f a).length = (g a).length) {xs : List α} :
    xs.flatMap f = xs.flatMap g ↔ ∀ a ∈ xs, f a = g a := by
  induction xs with
  | nil => simp
  | cons a xs ih =>
    rw [List.flatMap_cons, List.flatMap_cons, List.forall_mem_cons, ← ih]
    constructor
    · exact fun h => List.append_inj h (hlength a)
    · rintro ⟨hfirst, hrest⟩
      rw [hfirst, hrest]

end Flatten

/-- No extrinsic has been set: as the handler was made, whatever packets have been decoded
since. -/
def Unconfigured {F : Type} [Coordinate F] (handler : LidarPubHandler F) : Prop :=
  handler.is_set_extrinsic_params = false ∧ handler.extrinsic = ExtParameterDetailed.initial

section Unconfigured

variable {F : Type} [Coordinate F]

theorem new_unconfigured : (new : LidarPubHandler F).Unconfigured := ⟨rfl, rfl⟩

theorem Unconfigured.point_cloud_process {handler : LidarPubHandler F} (h : handler.Unconfigured)
    (pkt : RawPacket) : (handler.point_cloud_process pkt).Unconfigured := by
  rw [point_cloud_process_eq]
  exact h

end Unconfigured

end LidarPubHandler

open LidarPubHandler

/-- No rotation and no translation. -/
def ExtParameterDetailed.identity : ExtParameterDetailed ℝ where
  trans := fun _ => 0
  rotation := fun row column => if row = column then 1 else 0

@[simp] theorem ExtParameterDetailed.identity_trans (row : Fin 3) : identity.trans row = 0 := rfl

@[simp] theorem ExtParameterDetailed.initial_trans (row : Fin 3) :
    (initial : ExtParameterDetailed ℝ).trans row = 0 := by
  fin_cases row <;> simp [initial, number]

/-- The extrinsic of a configuration entry that has none. -/
theorem ExtParameterDetailed.of_param_zero : of_param (ExtParameter.zero ℝ) = identity := by
  have htrans : (of_param (ExtParameter.zero ℝ)).trans = identity.trans := by
    funext row
    fin_cases row <;> simp [of_param, identity, ExtParameter.zero, number]
  have hrotation : (of_param (ExtParameter.zero ℝ)).rotation = identity.rotation := by
    funext row column
    fin_cases row <;> fin_cases column <;>
      simp [of_param, identity, ExtParameter.zero, Coordinate.sin, Coordinate.cos]
  calc of_param (ExtParameter.zero ℝ)
      = ⟨(of_param (ExtParameter.zero ℝ)).trans, (of_param (ExtParameter.zero ℝ)).rotation⟩ := rfl
    _ = identity := by rw [htrans, hrotation]

section Rotate

variable (x y z : ℝ)

theorem rotate_identity (row : Fin 3) :
    ExtParameterDetailed.identity.rotate row x y z = ![x, y, z] row := by
  fin_cases row <;> simp [ExtParameterDetailed.rotate, ExtParameterDetailed.identity]

/-- The default rotation adds the height to the second coordinate. -/
theorem rotate_initial (row : Fin 3) :
    (ExtParameterDetailed.initial : ExtParameterDetailed ℝ).rotate row x y z =
      ![x, y + z, z] row := by
  fin_cases row <;> simp [ExtParameterDetailed.rotate, ExtParameterDetailed.initial, number]

end Rotate

section Points

variable {pkt : RawPacket} {i : UInt32}

theorem cartesian_point_identity (scale : Int) (raw : LivoxLidarRawPoint) :
    cartesian_point ExtParameterDetailed.identity pkt scale i raw =
      cartesian_point ExtParameterDetailed.identity { pkt with extrinsic_enable := true } scale i
        raw := by
  have hcoordinate : ∀ row, cartesian_coordinate ExtParameterDetailed.identity pkt scale raw row =
      cartesian_coordinate ExtParameterDetailed.identity { pkt with extrinsic_enable := true } scale
        raw row := by
    intro row
    simp only [cartesian_coordinate, if_true]
    split
    · rfl
    · rw [rotate_identity]
      fin_cases row <;> simp
  simp only [cartesian_point, hcoordinate]
  rfl

theorem spherical_point_identity (raw : LivoxLidarSpherPoint) :
    spherical_point ExtParameterDetailed.identity pkt i raw =
      spherical_point ExtParameterDetailed.identity { pkt with extrinsic_enable := true } i raw := by
  have hcoordinate : ∀ src row, spherical_coordinate ExtParameterDetailed.identity pkt src row =
      spherical_coordinate ExtParameterDetailed.identity { pkt with extrinsic_enable := true } src
        row := by
    intro src row
    simp only [spherical_coordinate, if_true]
    split
    · rfl
    · rw [rotate_identity]
      fin_cases row <;> simp
  simp only [spherical_point, hcoordinate]
  rfl

/-- The defaults agree with the identity on the points without a height. -/
theorem cartesian_point_initial_iff {scale : Int} (hscale : scale ≠ 0) (raw : LivoxLidarRawPoint) :
    cartesian_point ExtParameterDetailed.initial pkt scale i raw =
        cartesian_point ExtParameterDetailed.identity pkt scale i raw ↔
      pkt.extrinsic_enable = true ∨ raw.z = 0 := by
  have hscale' : (scale : ℝ) ≠ 0 := by exact_mod_cast hscale
  cases henable : pkt.extrinsic_enable with
  | true => simp [cartesian_point, cartesian_coordinate, henable]
  | false =>
    simp [cartesian_point, cartesian_coordinate, henable, rotate_initial, rotate_identity,
      number, div_left_inj' hscale']

/-- The height of a spherical point is its depth times the cosine of its zenith angle. -/
theorem spherical_point_initial_iff (raw : LivoxLidarSpherPoint) :
    spherical_point ExtParameterDetailed.initial pkt i raw =
        spherical_point ExtParameterDetailed.identity pkt i raw ↔
      pkt.extrinsic_enable = true ∨
        (raw.depth.toNat : ℝ) / 1000 *
          Real.cos (raw.theta.toNat / 100 / 180 * Coordinate.PI) = 0 := by
  cases henable : pkt.extrinsic_enable with
  | true => simp [spherical_point, spherical_coordinate, henable]
  | false =>
    simp [spherical_point, spherical_coordinate, henable, rotate_initial, rotate_identity,
      number, Coordinate.cos]

end Points

/-- No zenith angle has the cosine zero: an angle of the decoder is rational, since its constant is,
and the zeros of the cosine are not. -/
theorem cos_theta_ne_zero (theta : Nat) :
    Real.cos ((theta : ℝ) / 100 / 180 * Coordinate.PI) ≠ 0 := by
  intro hzero
  obtain ⟨k, hk⟩ := Real.cos_eq_zero_iff.mp hzero
  have hodd : (2 * k + 1 : ℝ) ≠ 0 := by
    have hint : (2 * k + 1 : ℤ) ≠ 0 := by omega
    exact_mod_cast hint
  apply irrational_pi
  refine ⟨(theta : ℚ) / 100 / 180 * 3.14159265358979323846 * 2 / (2 * k + 1), ?_⟩
  have hangle : (theta : ℝ) / 100 / 180 * 3.14159265358979323846 = (2 * k + 1) * Real.pi / 2 := hk
  push_cast
  rw [hangle]
  field_simp

/-- The point that the decoder reads at this index has no height before any extrinsic: both
points, where the raw point is a double echo. -/
def RawPacket.flat (pkt : RawPacket) (i : Nat) : Prop :=
  if pkt.data_type = kLivoxLidarCartesianCoordinateHighData then
    (pkt.cartesian_high_raw_point (14 * i)).z = 0
  else if pkt.data_type = kLivoxLidarCartesianCoordinateLowData then
    (pkt.cartesian_low_raw_point (8 * i)).z = 0
  else if pkt.data_type = kLivoxLidarSphericalCoordinateData then
    (pkt.spher_point (10 * i)).depth = 0
  else if pkt.data_type = kLivoxLidarDoubleEchoData then
    (pkt.cartesian_high_raw_point (28 * i)).z = 0 ∧
      (pkt.cartesian_high_raw_point (28 * i + 14)).z = 0
  else True

theorem decode_point_identity (pkt : RawPacket) (i : UInt32) :
    decode_point ExtParameterDetailed.identity pkt i =
      decode_point ExtParameterDetailed.identity { pkt with extrinsic_enable := true } i := by
  unfold decode_point
  simp only [@cartesian_point_identity pkt i, @spherical_point_identity pkt i]
  rfl

theorem decode_point_initial_iff (pkt : RawPacket) (i : UInt32) :
    decode_point ExtParameterDetailed.initial pkt i =
        decode_point ExtParameterDetailed.identity pkt i ↔
      pkt.extrinsic_enable = true ∨ pkt.flat i.toNat := by
  unfold decode_point RawPacket.flat
  split_ifs
  · rw [List.singleton_inj, cartesian_point_initial_iff (by decide)]
  · rw [List.singleton_inj, cartesian_point_initial_iff (by decide)]
  · rw [List.singleton_inj, spherical_point_initial_iff, mul_eq_zero,
      or_iff_left (cos_theta_ne_zero _)]
    simp [← UInt32.toNat_inj]
  · rw [List.cons_eq_cons, List.singleton_inj, cartesian_point_initial_iff (by decide),
      cartesian_point_initial_iff (by decide), ← or_and_left]
  · simp

theorem length_decode_point (extrinsic extrinsic' : ExtParameterDetailed ℝ) (pkt : RawPacket)
    (i : UInt32) :
    (decode_point extrinsic pkt i).length = (decode_point extrinsic' pkt i).length := by
  unfold decode_point
  split_ifs <;> rfl

theorem decoded_points_identity (pkt : RawPacket) :
    decoded_points ExtParameterDetailed.identity pkt =
      decoded_points ExtParameterDetailed.identity { pkt with extrinsic_enable := true } := by
  by_cases hlidar : pkt.lidar_type = .kLivoxLidarType
  · have hlidar' : { pkt with extrinsic_enable := true }.lidar_type = .kLivoxLidarType := hlidar
    simp only [decoded_points_eq _ hlidar, decoded_points_eq _ hlidar', decode_point_identity pkt]
  · simp [decoded_points, point_cloud_process, hlidar]

theorem decoded_points_initial_iff (pkt : RawPacket) :
    decoded_points ExtParameterDetailed.initial pkt =
        decoded_points ExtParameterDetailed.identity pkt ↔
      pkt.lidar_type ≠ .kLivoxLidarType ∨ pkt.extrinsic_enable = true ∨
        ∀ i < pkt.point_num.toNat, pkt.flat i := by
  by_cases hlidar : pkt.lidar_type = .kLivoxLidarType
  · rw [decoded_points_eq _ hlidar, decoded_points_eq _ hlidar,
      flatMap_eq_iff_of_length fun _ => length_decode_point _ _ pkt _]
    simp only [decode_point_initial_iff, List.mem_range, ne_eq, hlidar, not_true_eq_false, false_or]
    calc (∀ i < pkt.point_num.toNat, pkt.extrinsic_enable = true ∨ pkt.flat (UInt32.ofNat i).toNat)
        ↔ ∀ i < pkt.point_num.toNat, pkt.extrinsic_enable = true ∨ pkt.flat i :=
          forall₂_congr fun i hi => by rw [index_toNat hi]
      _ ↔ pkt.extrinsic_enable = true ∨ ∀ i < pkt.point_num.toNat, pkt.flat i := by
          simp only [forall_or_left]
  · simp [decoded_points, point_cloud_process, hlidar]

/-- An extrinsic that was never set, one that is all zero and one that the lidar has applied itself
all give the same points. -/
structure LidarPubHandler.IdentityDecoding (handler : LidarPubHandler ℝ)
    (lidar_param : LidarExtParameter ℝ) (pkt : RawPacket) : Prop where
  unset_eq_zero : (handler.point_cloud_process pkt).points_clouds =
    ((handler.set_lidars_ext_param lidar_param).point_cloud_process pkt).points_clouds
  zero_eq_enabled : ((handler.set_lidars_ext_param lidar_param).point_cloud_process
      pkt).points_clouds =
    (handler.point_cloud_process { pkt with extrinsic_enable := true }).points_clouds

section Identity

variable {handler : LidarPubHandler ℝ} {lidar_param : LidarExtParameter ℝ} {pkt : RawPacket}

theorem LidarPubHandler.Unconfigured.points_clouds (h : handler.Unconfigured) :
    (handler.point_cloud_process pkt).points_clouds =
      handler.points_clouds ++ decoded_points ExtParameterDetailed.initial pkt := by
  rw [point_cloud_process_eq, h.2]

theorem LidarPubHandler.Unconfigured.points_clouds_zero (h : handler.Unconfigured)
    (hzero : lidar_param.param = ExtParameter.zero ℝ) :
    ((handler.set_lidars_ext_param lidar_param).point_cloud_process pkt).points_clouds =
      handler.points_clouds ++ decoded_points ExtParameterDetailed.identity pkt := by
  have hset : (handler.set_lidars_ext_param lidar_param).extrinsic =
      ExtParameterDetailed.identity := by
    rw [← ExtParameterDetailed.of_param_zero, ← hzero]
    simp [set_lidars_ext_param, h.1]
  rw [point_cloud_process_eq, hset, set_lidars_ext_param_points_clouds]

/-- A handler without an extrinsic decodes as one with a zero extrinsic exactly the packets whose
points it does not rotate: the default rotation adds the height to the second coordinate. -/
theorem identity_decoding_iff (h : handler.Unconfigured)
    (hzero : lidar_param.param = ExtParameter.zero ℝ) :
    handler.IdentityDecoding lidar_param pkt ↔
      pkt.lidar_type ≠ .kLivoxLidarType ∨ pkt.extrinsic_enable = true ∨
        ∀ i < pkt.point_num.toNat, pkt.flat i := by
  rw [← decoded_points_initial_iff]
  constructor
  · intro hdecoding
    have heq := hdecoding.unset_eq_zero
    rw [h.points_clouds, h.points_clouds_zero hzero] at heq
    exact List.append_cancel_left heq
  · intro heq
    have henabled : decoded_points ExtParameterDetailed.initial
        { pkt with extrinsic_enable := true } =
          decoded_points ExtParameterDetailed.identity { pkt with extrinsic_enable := true } :=
      (decoded_points_initial_iff _).2 (.inr (.inl rfl))
    constructor
    · rw [h.points_clouds, h.points_clouds_zero hzero, heq]
    · rw [h.points_clouds, h.points_clouds_zero hzero, henabled, decoded_points_identity]

/-- A packet of one high-resolution point, a metre above the lidar or level with it. -/
def height_packet (level : Bool) : RawPacket where
  lidar_type := .kLivoxLidarType
  handle := 7
  extrinsic_enable := false
  point_num := 1
  data_type := kLivoxLidarCartesianCoordinateHighData
  line_num := 4
  time_stamp := 0
  point_interval := 0
  raw_data := [0, 0, 0, 0, 0, 0, 0, 0, if level then 0 else 0xe8, if level then 0 else 0x03, 0, 0, 0, 0]
  past_end := fun _ => 0
  line_num_ne := four_lines_ne

theorem height_packet_z (level : Bool) :
    ((height_packet level).cartesian_high_raw_point 0).z = if level then 0 else 1000 := by
  cases level <;> decide

theorem identity_decoding_iff_level :
    (new : LidarPubHandler ℝ).IdentityDecoding
      { lidar_type := .kLivoxLidarType, handle := 7, param := ExtParameter.zero ℝ }
      (height_packet true) := by
  refine (identity_decoding_iff new_unconfigured rfl).2 (.inr (.inr fun i hi => ?_))
  obtain rfl : i = 0 := Nat.lt_one_iff.1 hi
  exact height_packet_z true

theorem identity_decoding_height_false :
    ¬ ∀ (handler : LidarPubHandler ℝ) (lidar_param : LidarExtParameter ℝ) (pkt : RawPacket),
      handler.Unconfigured → lidar_param.param = ExtParameter.zero ℝ →
      handler.IdentityDecoding lidar_param pkt := by
  intro h
  have hdecoding := (h new
    { lidar_type := .kLivoxLidarType, handle := 7, param := ExtParameter.zero ℝ }
    (height_packet false) new_unconfigured rfl).unset_eq_zero
  rw [new_unconfigured.points_clouds, new_unconfigured.points_clouds_zero rfl] at hdecoding
  obtain hother | henable | hflat :=
    (decoded_points_initial_iff _).1 (List.append_cancel_left hdecoding)
  · exact hother rfl
  · exact absurd henable (by decide)
  · have hz : ((height_packet false).cartesian_high_raw_point 0).z = 0 := hflat 0 (by decide)
    rw [height_packet_z false] at hz
    exact absurd hz (by decide)

end Identity

end livox_ros
