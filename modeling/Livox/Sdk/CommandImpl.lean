import Livox.Sdk.Api

namespace livox_lidar

/-- One key with its value, as it stands behind the head of a request. -/
structure LivoxLidarKeyValueParam where
  key : UInt16
  length : UInt16
  value : List UInt8
  deriving DecidableEq, Repr

def kKeyPclDataType : UInt16 := 0x0000
def kKeyPatternMode : UInt16 := 0x0001
def kKeyDualEmitEn : UInt16 := 0x0002
def kKeyInstallAttitude : UInt16 := 0x0012
def kKeyBlindSpotSet : UInt16 := 0x0013
def kKeyWorkMode : UInt16 := 0x001A
def kKeyImuDataEn : UInt16 := 0x001C

def kLivoxLidarImuData : Int32 := 0

/-- The bytes of a 32-bit value in memory, lowest first. -/
def memory_bytes (value : UInt32) : List UInt8 :=
  [value.toUInt8, (value >>> 8).toUInt8, (value >>> 16).toUInt8, (value >>> 24).toUInt8]

/-- The number that bytes in memory stand for. -/
def memory_value (bytes : List UInt8) : Nat := Nat.ofDigits 256 (bytes.map UInt8.toNat)

theorem memory_value_bytes (value : UInt32) : memory_value (memory_bytes value) = value.toNat := by
  have hlt := value.toNat_lt
  simp only [memory_value, memory_bytes, List.map_cons, List.map_nil, Nat.ofDigits_cons,
    Nat.ofDigits_nil, UInt32.toNat_toUInt8, UInt32.toNat_shiftRight, Nat.shiftRight_eq_div_pow,
    UInt32.reduceToNat, Nat.reduceMod, Nat.reducePow]
  omega

/-- The request has the key, and the bytes of the value behind it. -/
def LivoxLidarKeyValueParam.Carries (kv : LivoxLidarKeyValueParam) (key : UInt16) (value : Int32) :
    Prop :=
  kv.key = key ∧ kv.length.toNat = kv.value.length ∧ (memory_value kv.value : Int) = value.toInt

instance (kv : LivoxLidarKeyValueParam) (key : UInt16) (value : Int32) :
    Decidable (kv.Carries key value) :=
  inferInstanceAs (Decidable (_ ∧ _ ∧ _))

theorem uint32_toNat_of_nonneg {value : Int32} (h : 0 ≤ value.toInt) :
    (value.toUInt32.toNat : Int) = value.toInt := by
  have hle : (0 : Int32) ≤ value := Int32.le_iff_toInt_le.mpr h
  rw [Int32.toNat_toUInt32_of_le hle]
  exact Int.toNat_of_nonneg h

/-- A value of one byte. -/
theorem carries_byte {key : UInt16} {value : Int32} (h : 0 ≤ value.toInt ∧ value.toInt ≤ 127) :
    LivoxLidarKeyValueParam.Carries { key, length := 1, value := [value.toUInt32.toUInt8] } key
      value := by
  have hvalue := uint32_toNat_of_nonneg h.1
  have hbyte : memory_value [value.toUInt32.toUInt8] = value.toUInt32.toNat % 256 := by
    simp [memory_value]
  refine ⟨rfl, rfl, ?_⟩
  rw [hbyte]
  omega

/-- A value of four bytes. -/
theorem carries_memory {key : UInt16} {value : Int32} (h : 0 ≤ value.toInt) :
    LivoxLidarKeyValueParam.Carries { key, length := 4, value := memory_bytes value.toUInt32 } key
      value :=
  ⟨rfl, rfl, by rw [memory_value_bytes, uint32_toNat_of_nonneg h]⟩

/-- `CommandImpl::EnableLivoxLidarImuData`. -/
def enable_livox_lidar_imu_data : LivoxLidarKeyValueParam :=
  { key := kKeyImuDataEn, length := 1, value := [0x01] }

/-- `SetLivoxLidarPclDataType` of the public interface, which takes the data
type of the IMU for a request to switch the IMU on. -/
def set_livox_lidar_pcl_data_type (data_type : Int32) : LivoxLidarKeyValueParam :=
  if data_type = kLivoxLidarImuData then enable_livox_lidar_imu_data
  else { key := kKeyPclDataType, length := 1, value := [data_type.toUInt32.toUInt8] }

def set_livox_lidar_scan_pattern (scan_pattern : Int32) : LivoxLidarKeyValueParam :=
  { key := kKeyPatternMode, length := 1, value := [scan_pattern.toUInt32.toUInt8] }

def set_livox_lidar_dual_emit (enable : Bool) : LivoxLidarKeyValueParam :=
  { key := kKeyDualEmitEn, length := 1, value := [if enable then 0x01 else 0x00] }

def set_livox_lidar_blind_spot (blind_spot : UInt32) : LivoxLidarKeyValueParam :=
  { key := kKeyBlindSpotSet, length := 4, value := memory_bytes blind_spot }

def set_livox_lidar_work_mode (work_mode : UInt8) : LivoxLidarKeyValueParam :=
  { key := kKeyWorkMode, length := 1, value := [work_mode] }

section Attitude

variable {F : Type} (float_bytes : F → List UInt8)

/-- The attitude is copied as it lies in memory, with the bytes of its floats. -/
def set_livox_lidar_install_attitude (install_attitude : LivoxLidarInstallAttitude F) :
    LivoxLidarKeyValueParam where
  key := kKeyInstallAttitude
  length := 24
  value :=
    float_bytes install_attitude.roll_deg ++ float_bytes install_attitude.pitch_deg ++
      float_bytes install_attitude.yaw_deg ++ memory_bytes install_attitude.x.toUInt32 ++
      memory_bytes install_attitude.y.toUInt32 ++ memory_bytes install_attitude.z.toUInt32

/-- The one key and value in the request of a call. -/
def ApiCall.key_value : ApiCall F → LivoxLidarKeyValueParam
  | .set_livox_lidar_pcl_data_type data_type => livox_lidar.set_livox_lidar_pcl_data_type data_type
  | .set_livox_lidar_scan_pattern scan_pattern =>
    livox_lidar.set_livox_lidar_scan_pattern scan_pattern
  | .set_livox_lidar_blind_spot blind_spot => livox_lidar.set_livox_lidar_blind_spot blind_spot
  | .set_livox_lidar_dual_emit enable => livox_lidar.set_livox_lidar_dual_emit enable
  | .set_livox_lidar_install_attitude install_attitude =>
    livox_lidar.set_livox_lidar_install_attitude float_bytes install_attitude
  | .set_livox_lidar_work_mode work_mode => livox_lidar.set_livox_lidar_work_mode work_mode
  | .enable_livox_lidar_imu_data => livox_lidar.enable_livox_lidar_imu_data

end Attitude

end livox_lidar
