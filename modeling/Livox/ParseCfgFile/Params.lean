import Livox.CallBack.Spec
import Livox.ParseCfgFile.ParseLivoxLidarCfg
import Livox.Sdk.CommandImpl

open checked livox_lidar

namespace livox_ros

/-- The member of a `lidar_configs` entry that sets the parameter. -/
def ConfigParam.member_name : ConfigParam → String
  | pcl_data_type => "pcl_data_type"
  | pattern_mode => "pattern_mode"
  | blind_spot_set => "blind_spot_set"
  | dual_emit_en => "dual_emit_en"

/-- The key under which the parameter is sent. -/
def ConfigParam.key : ConfigParam → UInt16
  | pcl_data_type => kKeyPclDataType
  | pattern_mode => kKeyPatternMode
  | blind_spot_set => kKeyBlindSpotSet
  | dual_emit_en => kKeyDualEmitEn

/-- The integer that an entry configures, if it has the member. -/
def Value.param_value {F : Type} (entry : Value F) (param : ConfigParam) : Option Int32 :=
  match entry.find_member param.member_name with
  | .ok (some (.int value)) => some value
  | _ => none

/-- The handle of an entry, if it has an address. -/
def Value.handle {F : Type} (ip_string_to_num : String → UInt32) (entry : Value F) : Option UInt32 :=
  match entry.find_member "ip" with
  | .ok (some (.string ip)) => some (ip_string_to_num ip)
  | _ => none

section Members

variable {F : Type} {value : Value F} {name : String}

theorem has_member_eq_ok_iff {found : Bool} :
    value.has_member name = .ok found ↔
      ∃ member, value.find_member name = .ok member ∧ member.isSome = found := by
  rw [Value.has_member, bind_eq_ok_iff]
  simp

theorem int_member_eq_some {number : Int32} (h : value.int_member name = .ok (some number)) :
    value.find_member name = .ok (some (.int number)) := by
  obtain ⟨found, hhas, hrest⟩ := bind_eq_ok_iff.mp h
  obtain ⟨member, hfind, rfl⟩ := has_member_eq_ok_iff.mp hhas
  cases member with
  | none => simp at hrest
  | some member =>
    simp only [Option.isSome_some, if_true, Value.member, hfind, ok_bind] at hrest
    obtain ⟨read, hread, hnumber⟩ := bind_eq_ok_iff.mp hrest
    cases member <;> simp_all [Value.get_int]

theorem int_member_eq_none (h : value.int_member name = .ok none) :
    value.find_member name = .ok none := by
  obtain ⟨found, hhas, hrest⟩ := bind_eq_ok_iff.mp h
  obtain ⟨member, hfind, rfl⟩ := has_member_eq_ok_iff.mp hhas
  cases member with
  | none => exact hfind
  | some member =>
    simp only [Option.isSome_some, if_true] at hrest
    obtain ⟨_, _, hrest⟩ := bind_eq_ok_iff.mp hrest
    obtain ⟨_, _, hnumber⟩ := bind_eq_ok_iff.mp hrest
    cases hnumber

theorem param_value_of_int_member (param : ConfigParam) {number : Option Int32}
    (h : value.int_member param.member_name = .ok number) : value.param_value param = number := by
  cases number with
  | none => simp [Value.param_value, int_member_eq_none h]
  | some number => simp [Value.param_value, int_member_eq_some h]

end Members

section Parse

variable {F : Type} [Zero F] [IntCast F] {ip_string_to_num : String → UInt32} {entry : Value F}
  {config : UserLivoxLidarConfig F}

/-- The field of a parameter, with the sign it is stored with. -/
def UserLivoxLidarConfig.field (config : UserLivoxLidarConfig F) : ConfigParam → Int32
  | .pcl_data_type => config.pcl_data_type.toInt32
  | .pattern_mode => config.pattern_mode.toInt32
  | .blind_spot_set => config.blind_spot_set
  | .dual_emit_en => config.dual_emit_en.toInt32

/-- The cast to eight bits takes the lowest ones, with a sign or without. -/
theorem toInt8_toUInt8_toUInt32 (value : Int32) :
    value.toUInt32.toUInt8.toInt8 = value.toInt8 := by
  apply Int8.toBitVec_inj.mp
  rw [Int32.toBitVec_toInt8, BitVec.signExtend_eq_setWidth_of_le _ (by omega)]
  rfl

/-- The parser stores the integer of the entry, cast to eight bits, or -1. -/
theorem parse_user_config_field
    (h : parse_user_config ip_string_to_num entry = .ok (some config)) (param : ConfigParam) :
    config.field param =
      ((entry.param_value param).map fun value => value.toInt8.toInt32).getD (-1) := by
  obtain ⟨has_ip, _, hentry⟩ := bind_eq_ok_iff.mp h
  cases has_ip with
  | false => cases hentry
  | true =>
    simp only [if_true] at hentry
    obtain ⟨_, _, hentry⟩ := bind_eq_ok_iff.mp hentry
    obtain ⟨_, _, hentry⟩ := bind_eq_ok_iff.mp hentry
    obtain ⟨pcl_data_type, hpcl, hentry⟩ := bind_eq_ok_iff.mp hentry
    obtain ⟨pattern_mode, hpattern, hentry⟩ := bind_eq_ok_iff.mp hentry
    obtain ⟨blind_spot_set, hblind, hentry⟩ := bind_eq_ok_iff.mp hentry
    obtain ⟨dual_emit_en, hdual, hentry⟩ := bind_eq_ok_iff.mp hentry
    obtain ⟨_, _, hentry⟩ := bind_eq_ok_iff.mp hentry
    cases hentry
    cases param with
    | pcl_data_type =>
      rw [param_value_of_int_member .pcl_data_type hpcl]
      cases pcl_data_type <;> rfl
    | pattern_mode =>
      rw [param_value_of_int_member .pattern_mode hpattern]
      cases pattern_mode <;> rfl
    | blind_spot_set =>
      rw [param_value_of_int_member .blind_spot_set hblind]
      rfl
    | dual_emit_en =>
      rw [param_value_of_int_member .dual_emit_en hdual]
      simp only [UserLivoxLidarConfig.field, toInt8_toUInt8_toUInt32]
      cases dual_emit_en <;> rfl

end Parse

section Request

variable {F : Type} {config : UserLivoxLidarConfig F} {param : ConfigParam} {value : Int32}

/-- The values that a byte holds beside the -1 of a parameter that is not set. -/
def ConfigParam.InRange (param : ConfigParam) (value : Int32) : Prop :=
  0 ≤ value.toInt ∧ value.toInt ≤ if param = dual_emit_en then 1 else 127

instance (param : ConfigParam) (value : Int32) : Decidable (param.InRange value) :=
  inferInstanceAs (Decidable (_ ∧ _))

theorem ConfigParam.InRange.le (h : param.InRange value) :
    0 ≤ value.toInt ∧ value.toInt ≤ 127 := by
  obtain ⟨hpos, hle⟩ := h
  split at hle <;> omega

/-- Eight bits hold the value. -/
theorem toInt32_toInt8_of_le (h : 0 ≤ value.toInt ∧ value.toInt ≤ 127) :
    value.toInt8.toInt32 = value := by
  have hbits : value.toInt8.toInt = value.toInt := by
    rw [Int32.toInt_toInt8]
    exact Int.bmod_eq_of_le_mul_two (by omega) (by omega)
  exact Int32.toInt_inj.mp ((Int8.toInt_toInt32 _).trans hbits)

theorem ne_neg_one_of_nonneg (h : 0 ≤ value.toInt) : value ≠ -1 := by
  rintro rfl
  exact absurd h (by decide)

theorem sets_eq_field (param : ConfigParam) : config.sets param = (config.field param != -1) := by
  have hbyte : ∀ byte : Int8, (byte != -1) = (byte.toInt32 != -1) := by
    intro byte
    have hiff : byte = -1 ↔ byte.toInt32 = -1 := by
      rw [← Int8.toInt_inj, ← Int32.toInt_inj, Int8.toInt_toInt32]
      rfl
    exact Bool.eq_iff_iff.mpr (by rw [bne_iff_ne, bne_iff_ne, Ne, Ne, hiff])
  cases param with
  | pcl_data_type => exact hbyte _
  | pattern_mode => exact hbyte _
  | blind_spot_set => rfl
  | dual_emit_en => exact hbyte _

/-- The request of the command that sends the parameter with this value. -/
def ConfigParam.request : ConfigParam → Int32 → LivoxLidarKeyValueParam
  | pcl_data_type, value => set_livox_lidar_pcl_data_type value
  | pattern_mode, value => set_livox_lidar_scan_pattern value
  | blind_spot_set, value => set_livox_lidar_blind_spot value.toUInt32
  | dual_emit_en, value => set_livox_lidar_dual_emit (value != 0)

theorem key_value_api_call (float_bytes : F → List UInt8) (param : ConfigParam) :
    (config.api_call param).key_value float_bytes = param.request (config.field param) := by
  cases param with
  | pcl_data_type => rfl
  | pattern_mode => rfl
  | blind_spot_set => rfl
  | dual_emit_en =>
    have hiff : config.dual_emit_en = 0 ↔ config.dual_emit_en.toInt32 = 0 := by
      rw [← Int8.toInt_inj, ← Int32.toInt_inj, Int8.toInt_toInt32]
      rfl
    have henable : (if config.dual_emit_en = 0 then false else true) =
        (config.dual_emit_en.toInt32 != 0) := by
      by_cases hzero : config.dual_emit_en = 0
      · simp [hzero]
      · simp [hzero, mt hiff.mpr hzero]
    simp only [UserLivoxLidarConfig.api_call, ApiCall.key_value, ConfigParam.request,
      UserLivoxLidarConfig.field, henable]

/-- The key and the value that are sent for a configured value. The data type
of the IMU is sent as the request to switch the IMU on. -/
def ConfigParam.delivered (param : ConfigParam) (value : Int32) : UInt16 × Int32 :=
  if param = pcl_data_type ∧ value = kLivoxLidarImuData then (kKeyImuDataEn, 1)
  else (param.key, value)

theorem ConfigParam.InRange.request (h : param.InRange value) :
    (param.request value).Carries (param.delivered value).1 (param.delivered value).2 := by
  have hle := h.le
  cases param with
  | pcl_data_type =>
    by_cases himu : value = kLivoxLidarImuData
    · subst himu
      decide
    · simp only [ConfigParam.request, set_livox_lidar_pcl_data_type, ConfigParam.delivered, himu,
        and_false, if_false]
      exact carries_byte hle
  | pattern_mode => exact carries_byte hle
  | blind_spot_set => exact carries_memory hle.1
  | dual_emit_en =>
    have hbool : value.toInt = 0 ∨ value.toInt = 1 := by
      have hone : value.toInt ≤ 1 := h.2
      omega
    rcases hbool with hzero | hone
    · obtain rfl : value = 0 := Int32.toInt_inj.mp hzero
      decide
    · obtain rfl : value = 1 := Int32.toInt_inj.mp hone
      decide

end Request

section Entry

variable {F : Type} [Zero F] [IntCast F] {ip_string_to_num : String → UInt32} {entry : Value F}
  {config : UserLivoxLidarConfig F} {param : ConfigParam}
  (h : parse_user_config ip_string_to_num entry = .ok (some config))
  (hrange : ∀ value ∈ entry.param_value param, param.InRange value)
include h hrange

/-- Within the range, a parameter is set when the entry has its member. -/
theorem sets_iff_param_value : config.sets param = (entry.param_value param).isSome := by
  rw [sets_eq_field, parse_user_config_field h]
  cases hvalue : entry.param_value param with
  | none => rfl
  | some value =>
    have hle := (hrange value hvalue).le
    simp [toInt32_toInt8_of_le hle, ne_neg_one_of_nonneg hle.1]

/-- Within the range, what is sent is the value of the entry. -/
theorem request_carries_param_value (float_bytes : F → List UInt8) {value : Int32}
    (hvalue : entry.param_value param = some value) :
    ((config.api_call param).key_value float_bytes).Carries (param.delivered value).1
      (param.delivered value).2 := by
  have hin := hrange value hvalue
  have hfield : config.field param = value := by
    rw [parse_user_config_field h, hvalue]
    exact toInt32_toInt8_of_le hin.le
  rw [key_value_api_call, hfield]
  exact hin.request

end Entry

section Entries

variable {F : Type} [Zero F] [IntCast F] {ip_string_to_num : String → UInt32}

theorem parse_user_config_handle {entry : Value F} {found : Option (UserLivoxLidarConfig F)}
    (h : parse_user_config ip_string_to_num entry = .ok found) :
    found.map UserLivoxLidarConfig.handle = entry.handle ip_string_to_num := by
  obtain ⟨has_ip, hhas, hentry⟩ := bind_eq_ok_iff.mp h
  obtain ⟨member, hfind, rfl⟩ := has_member_eq_ok_iff.mp hhas
  cases member with
  | none =>
    cases hentry
    simp [Value.handle, hfind]
  | some member =>
    simp only [Option.isSome_some, if_true] at hentry
    obtain ⟨value, hvalue, hentry⟩ := bind_eq_ok_iff.mp hentry
    obtain ⟨ip, hip, hentry⟩ := bind_eq_ok_iff.mp hentry
    obtain ⟨_, _, hentry⟩ := bind_eq_ok_iff.mp hentry
    obtain ⟨_, _, hentry⟩ := bind_eq_ok_iff.mp hentry
    obtain ⟨_, _, hentry⟩ := bind_eq_ok_iff.mp hentry
    obtain ⟨_, _, hentry⟩ := bind_eq_ok_iff.mp hentry
    obtain ⟨_, _, hentry⟩ := bind_eq_ok_iff.mp hentry
    cases hentry
    simp only [Value.member, hfind, ok_bind] at hvalue
    cases hvalue
    cases member <;> cases hip
    simp [Value.handle, hfind]

theorem parse_user_configs_cons {entry : Value F} {entries : List (Value F)}
    {user_configs : List (UserLivoxLidarConfig F)}
    (h : parse_user_configs ip_string_to_num (entry :: entries) = .ok user_configs) :
    ∃ found rest, parse_user_config ip_string_to_num entry = .ok found ∧
      parse_user_configs ip_string_to_num entries = .ok rest ∧
      user_configs = found.toList ++ rest := by
  obtain ⟨found, hfound, h⟩ := bind_eq_ok_iff.mp h
  obtain ⟨rest, hrest, h⟩ := bind_eq_ok_iff.mp h
  cases h
  exact ⟨found, rest, hfound, hrest, rfl⟩

/-- An entry of another address leaves the configuration of a lidar alone. -/
theorem last_config_other {entry : Value F} {found : Option (UserLivoxLidarConfig F)}
    (h : parse_user_config ip_string_to_num entry = .ok found) {handle : UInt32}
    (hother : entry.handle ip_string_to_num ≠ some handle) :
    LdsLidar.last_config found.toList handle = none := by
  rw [← parse_user_config_handle h] at hother
  cases found with
  | none => rfl
  | some config => simpa [LdsLidar.last_config] using hother

theorem last_config_none {entries : List (Value F)} {user_configs : List (UserLivoxLidarConfig F)}
    {handle : UInt32} (h : parse_user_configs ip_string_to_num entries = .ok user_configs)
    (hothers : ∀ other ∈ entries, other.handle ip_string_to_num ≠ some handle) :
    LdsLidar.last_config user_configs handle = none := by
  induction entries generalizing user_configs with
  | nil =>
    cases h
    rfl
  | cons entry entries ih =>
    obtain ⟨found, rest, hfound, hrest, rfl⟩ := parse_user_configs_cons h
    rw [LdsLidar.last_config_append, ih hrest fun other hmem => hothers other (by simp [hmem]),
      last_config_other hfound (hothers entry (by simp))]
    rfl

/-- The last entry with the address of a lidar is the lidar's configuration. -/
theorem last_config_entry {earlier later : List (Value F)} {entry : Value F}
    {user_configs : List (UserLivoxLidarConfig F)} {handle : UInt32}
    (h : parse_user_configs ip_string_to_num (earlier ++ entry :: later) = .ok user_configs)
    (hhandle : entry.handle ip_string_to_num = some handle)
    (hlast : ∀ other ∈ later, other.handle ip_string_to_num ≠ some handle) :
    ∃ config, parse_user_config ip_string_to_num entry = .ok (some config) ∧
      LdsLidar.last_config user_configs handle = some config := by
  induction earlier generalizing user_configs with
  | nil =>
    obtain ⟨found, rest, hfound, hrest, rfl⟩ := parse_user_configs_cons h
    have hown := parse_user_config_handle hfound
    rw [hhandle] at hown
    obtain ⟨config, rfl, hconfig⟩ := Option.map_eq_some_iff.mp hown
    refine ⟨config, hfound, ?_⟩
    rw [LdsLidar.last_config_append, last_config_none hrest hlast]
    simp [LdsLidar.last_config, hconfig]
  | cons other earlier ih =>
    obtain ⟨found, rest, hfound, hrest, rfl⟩ := parse_user_configs_cons h
    obtain ⟨config, hentry, hconfig⟩ := ih hrest
    exact ⟨config, hentry, by rw [LdsLidar.last_config_append, hconfig]; rfl⟩

end Entries

end livox_ros
