import Livox.Library.RapidJson
import Livox.ParseCfgFile.ParseLivoxLidarCfg
import Livox.Sdk.ParseCfgFile.Shapes

open checked

namespace livox_ros

section Document

variable {F : Type} [IntCast F]

mutual

/-- A document as the parser of the user configurations reads it. The bytes of a string are the
characters of its text. -/
def Value.of_document : rapidjson.Value F → Value F
  | .null => .null
  | .bool value => .bool value
  | .integer value =>
    if -(2 ^ 31) ≤ value ∧ value < 2 ^ 31 then .int (Int32.ofInt value) else .number value
  | .real value => .number value
  | .string text => .string (String.ofList (text.map fun b => Char.ofNat b.toNat))
  | .array elements => .array (of_elements elements)
  | .object members => .object (of_members members)

def Value.of_elements : List (rapidjson.Value F) → List (Value F)
  | [] => []
  | element :: elements => of_document element :: of_elements elements

def Value.of_members : List (String × rapidjson.Value F) → List (String × Value F)
  | [] => []
  | (name, value) :: members => (name, of_document value) :: of_members members

end

/-- `ParseSummaryInfo`: the type of the lidars, or none when it returns false. -/
def parse_summary_info (doc : rapidjson.Value F) : Checked (Option UInt8) := do
  if ← doc.has_member "lidar_summary_info" then do
    let object ← doc.member "lidar_summary_info"
    if object.is_object then do
      if ← object.has_member "lidar_type" then do
        let lidar_type ← object.member "lidar_type"
        if lidar_type.is_uint then do
          let number ← lidar_type.get_uint
          .ok (some number.toUInt8)
        else .ok none
      else .ok none
    else .ok none
  else .ok none

theorem of_elements_eq (elements : List (rapidjson.Value F)) :
    Value.of_elements elements = elements.map Value.of_document := by
  induction elements with
  | nil => rfl
  | cons element elements ih => rw [Value.of_elements, ih, List.map_cons]

theorem find_of_members (name : String) (members : List (String × rapidjson.Value F)) :
    ((Value.of_members members).find? fun member => member.1 == name).map Prod.snd =
      ((members.find? fun member => member.1 == name).map Prod.snd).map Value.of_document := by
  induction members with
  | nil => rfl
  | cons member members ih =>
    obtain ⟨other, value⟩ := member
    rw [Value.of_members, List.find?_cons, List.find?_cons]
    cases other == name with
    | true => rfl
    | false => exact ih

variable {doc : rapidjson.Value F}

theorem find_member_of_object (hdoc : doc.is_object = true) (name : String) :
    (Value.of_document doc).find_member name = .ok ((doc.lookup name).map Value.of_document) := by
  cases doc with
  | object members =>
    rw [Value.of_document, Value.find_member, find_of_members]
    rfl
  | _ => cases hdoc

theorem find_member_of_not_object (hdoc : doc.is_object = false) (name : String) :
    (Value.of_document doc).find_member name = .error .precondition := by
  cases doc with
  | object members => cases hdoc
  | integer value =>
    rw [Value.of_document]
    split <;> rfl
  | _ =>
    rw [Value.of_document]
    rfl

theorem get_int_completes_iff :
    (∃ number, (Value.of_document doc).get_int = .ok number) ↔ doc.is_int = true := by
  cases doc with
  | integer value =>
    rw [Value.of_document]
    by_cases hrange : -(2 ^ 31) ≤ value ∧ value < 2 ^ 31
    · rw [if_pos hrange]
      exact iff_of_true ⟨_, rfl⟩ (decide_eq_true hrange)
    · rw [if_neg hrange]
      exact iff_of_false (by rintro ⟨_, h⟩; cases h)
        (by rw [rapidjson.Value.is_int, decide_eq_false hrange]; simp)
  | _ =>
    rw [Value.of_document]
    exact iff_of_false (by rintro ⟨_, h⟩; cases h) (by simp [rapidjson.Value.is_int])

theorem get_float_completes_iff :
    (∃ number, (Value.of_document doc).get_float = .ok number) ↔ doc.is_number = true := by
  cases doc with
  | integer value =>
    rw [Value.of_document]
    split <;> exact iff_of_true ⟨_, rfl⟩ rfl
  | real value =>
    rw [Value.of_document]
    exact iff_of_true ⟨_, rfl⟩ rfl
  | _ =>
    rw [Value.of_document]
    exact iff_of_false (by rintro ⟨_, h⟩; cases h) (by simp [rapidjson.Value.is_number])

theorem get_string_completes_iff :
    (∃ text, (Value.of_document doc).get_string = .ok text) ↔ doc.is_string = true := by
  cases doc with
  | string text =>
    rw [Value.of_document]
    exact iff_of_true ⟨_, rfl⟩ rfl
  | integer value =>
    rw [Value.of_document]
    split <;> exact iff_of_false (by rintro ⟨_, h⟩; cases h)
      (by simp [rapidjson.Value.is_string, rapidjson.Value.string?])
  | _ =>
    rw [Value.of_document]
    exact iff_of_false (by rintro ⟨_, h⟩; cases h)
      (by simp [rapidjson.Value.is_string, rapidjson.Value.string?])

/-! The shapes that the driver's parsers take for granted. -/

def IntOrAbsent (doc : rapidjson.Value F) (name : String) : Prop :=
  ∀ value, doc.lookup name = some value → value.is_int = true

def NumberOrAbsent (doc : rapidjson.Value F) (name : String) : Prop :=
  ∀ value, doc.lookup name = some value → value.is_number = true

structure ExtrinsicsShape (value : rapidjson.Value F) : Prop where
  is_object : value.is_object = true
  angles : ∀ name ∈ ["roll", "pitch", "yaw"], NumberOrAbsent value name
  lengths : ∀ name ∈ ["x", "y", "z"], IntOrAbsent value name

/-- An entry of `lidar_configs` is an object; when it has an address, that is a string and the other
members are what they should be. -/
def UserConfigShape (config : rapidjson.Value F) : Prop :=
  config.is_object = true ∧ ∀ ip, config.lookup "ip" = some ip → ip.is_string = true ∧
    (∀ name ∈ ["pcl_data_type", "pattern_mode", "blind_spot_set", "dual_emit_en"],
      IntOrAbsent config name) ∧
    ∀ value, config.lookup "extrinsic_parameter" = some value → ExtrinsicsShape value

def LidarConfigsShape (doc : rapidjson.Value F) : Prop :=
  ∀ configs, doc.lookup "lidar_configs" = some (.array configs) →
    ∀ config ∈ configs, UserConfigShape config

/-- A member that is read when the object has it. -/
theorem member_completes_iff {α : Type} (hdoc : doc.is_object = true) (name : String)
    (get : Value F → Checked α) {P : rapidjson.Value F → Prop}
    (hget : ∀ value, (∃ a, get (Value.of_document value) = .ok a) ↔ P value) :
    (∃ found, (do
      if ← (Value.of_document doc).has_member name then
        let found ← (Value.of_document doc).member name
        let number ← get found
        .ok (some number)
      else .ok none) = .ok found) ↔ ∀ value, doc.lookup name = some value → P value := by
  simp only [Value.has_member, Value.member, find_member_of_object hdoc, ok_bind]
  cases hlookup : doc.lookup name with
  | none => simp
  | some value =>
    simp only [Option.map_some, Option.isSome_some, if_true, ok_bind, Option.some.injEq,
      forall_eq']
    have hboth := bind_completes_iff (hget value) (f := fun number => .ok (some number))
      (Q := True) fun number _ => by simp
    exact hboth.trans (by simp)

theorem int_member_completes_iff (hdoc : doc.is_object = true) (name : String) :
    (∃ found, (Value.of_document doc).int_member name = .ok found) ↔ IntOrAbsent doc name :=
  member_completes_iff hdoc name Value.get_int fun _ => get_int_completes_iff

theorem float_member_completes_iff (hdoc : doc.is_object = true) (name : String) :
    (∃ found, (Value.of_document doc).float_member name = .ok found) ↔ NumberOrAbsent doc name :=
  member_completes_iff hdoc name Value.get_float fun _ => get_float_completes_iff

omit [IntCast F] in
theorem parse_summary_info_completes_iff :
    (∃ lidar_type, parse_summary_info doc = .ok lidar_type) ↔ doc.is_object = true := by
  cases hdoc : doc.is_object with
  | false =>
    rw [parse_summary_info, rapidjson.Value.has_member_not_object hdoc]
    exact iff_of_false (by rintro ⟨_, h⟩; cases h) Bool.false_ne_true
  | true =>
    refine iff_of_true ?_ rfl
    simp only [parse_summary_info, rapidjson.Value.has_member_object hdoc, ok_bind]
    cases hlookup : doc.lookup "lidar_summary_info" with
    | none => exact ⟨none, rfl⟩
    | some object =>
      simp only [Option.isSome_some, if_true, rapidjson.Value.member, hlookup,
        rapidjson.Value.demand, ok_bind]
      cases hobject : object.is_object with
      | false => exact ⟨none, rfl⟩
      | true =>
        simp only [if_true, rapidjson.Value.has_member_object hobject, ok_bind]
        cases htype : object.lookup "lidar_type" with
        | none => exact ⟨none, rfl⟩
        | some lidar_type =>
          rcases Option.eq_none_or_eq_some lidar_type.uint? with hnone | ⟨number, hnumber⟩
          · simp only [Option.isSome_some, if_true, ok_bind, rapidjson.Value.is_uint, hnone]
            exact ⟨none, rfl⟩
          · simp only [Option.isSome_some, if_true, ok_bind, rapidjson.Value.is_uint,
              rapidjson.Value.get_uint, rapidjson.Value.demand, hnumber]
            exact ⟨some number.toUInt8, rfl⟩

variable [Zero F]

theorem parse_extrinsics_completes_iff :
    (∃ param, parse_extrinsics (Value.of_document doc) = .ok param) ↔ ExtrinsicsShape doc := by
  cases hdoc : doc.is_object with
  | false =>
    apply iff_of_false
    · rintro ⟨param, h⟩
      obtain ⟨roll, hroll, -⟩ := bind_eq_ok_iff.mp h
      rw [Value.float_member, Value.has_member, find_member_of_not_object hdoc] at hroll
      cases hroll
    · intro h
      rw [h.is_object] at hdoc
      cases hdoc
  | true =>
    have hangle := fun name => float_member_completes_iff hdoc name
    have hlength := fun name => int_member_completes_iff hdoc name
    have hall := bind_completes_iff (hangle "roll") fun roll _ =>
      bind_completes_iff (hangle "pitch") fun pitch _ =>
      bind_completes_iff (hangle "yaw") fun yaw _ =>
      bind_completes_iff (hlength "x") fun x _ =>
      bind_completes_iff (hlength "y") fun y _ =>
      bind_completes_iff (hlength "z") fun z _ =>
      iff_of_true ⟨ExtParameter.mk (roll.getD 0) (pitch.getD 0) (yaw.getD 0) (x.getD 0) (y.getD 0)
        (z.getD 0), rfl⟩ trivial
    refine hall.trans ⟨?_, ?_⟩
    · rintro ⟨hroll, hpitch, hyaw, hx, hy, hz, -⟩
      exact ⟨hdoc, by simp [hroll, hpitch, hyaw], by simp [hx, hy, hz]⟩
    · intro h
      exact ⟨h.angles _ (by simp), h.angles _ (by simp), h.angles _ (by simp),
        h.lengths _ (by simp), h.lengths _ (by simp), h.lengths _ (by simp), trivial⟩

theorem extrinsic_parameter_completes_iff (hdoc : doc.is_object = true) :
    (∃ param, extrinsic_parameter (Value.of_document doc) = .ok param) ↔
      ∀ value, doc.lookup "extrinsic_parameter" = some value → ExtrinsicsShape value := by
  simp only [extrinsic_parameter, Value.has_member, Value.member, find_member_of_object hdoc, ok_bind]
  cases hlookup : doc.lookup "extrinsic_parameter" with
  | none => simp
  | some value =>
    simp only [Option.map_some, Option.isSome_some, if_true, ok_bind, Option.some.injEq,
      forall_eq']
    exact parse_extrinsics_completes_iff

variable (ip_string_to_num : String → UInt32)

theorem parse_user_config_completes_iff :
    (∃ config, parse_user_config ip_string_to_num (Value.of_document doc) = .ok config) ↔
      UserConfigShape doc := by
  rw [parse_user_config]
  cases hdoc : doc.is_object with
  | false =>
    rw [Value.has_member, find_member_of_not_object hdoc]
    refine iff_of_false (by rintro ⟨_, h⟩; cases h) fun h => ?_
    rw [h.1] at hdoc
    cases hdoc
  | true =>
    simp only [Value.has_member, Value.member, find_member_of_object hdoc, ok_bind, UserConfigShape,
      hdoc, true_and]
    cases hlookup : doc.lookup "ip" with
    | none => simp
    | some ip =>
      simp only [Option.map_some, Option.isSome_some, if_true, ok_bind, Option.some.injEq,
        forall_eq']
      have hint := fun name => int_member_completes_iff hdoc name
      have hall := bind_completes_iff (@get_string_completes_iff F _ ip) fun text _ =>
        bind_completes_iff (hint "pcl_data_type") fun pcl_data_type _ =>
        bind_completes_iff (hint "pattern_mode") fun pattern_mode _ =>
        bind_completes_iff (hint "blind_spot_set") fun blind_spot_set _ =>
        bind_completes_iff (hint "dual_emit_en") fun dual_emit_en _ =>
        bind_completes_iff (extrinsic_parameter_completes_iff hdoc) fun extrinsic_param _ =>
        iff_of_true ⟨some (UserLivoxLidarConfig.mk (ip_string_to_num text)
          ((pcl_data_type.map Int32.toInt8).getD (-1)) ((pattern_mode.map Int32.toInt8).getD (-1))
          ((blind_spot_set.map fun value => value.toInt8.toInt32).getD (-1))
          ((dual_emit_en.map fun value => value.toUInt32.toUInt8.toInt8).getD (-1))
          extrinsic_param 0 0), rfl⟩ trivial
      refine hall.trans ⟨?_, ?_⟩
      · rintro ⟨hip, hpcl, hpattern, hblind, hdual, hextrinsic, -⟩
        exact ⟨hip, by simp [hpcl, hpattern, hblind, hdual], hextrinsic⟩
      · rintro ⟨hip, hints, hextrinsic⟩
        exact ⟨hip, hints _ (by simp), hints _ (by simp), hints _ (by simp), hints _ (by simp),
          hextrinsic, trivial⟩

theorem parse_user_configs_completes_iff (configs : List (rapidjson.Value F)) :
    (∃ user_configs, parse_user_configs ip_string_to_num (configs.map Value.of_document) =
      .ok user_configs) ↔ ∀ config ∈ configs, UserConfigShape config := by
  induction configs with
  | nil => exact iff_of_true ⟨[], rfl⟩ (by simp)
  | cons config configs ih =>
    have hboth := bind_completes_iff (@parse_user_config_completes_iff F _ config _ ip_string_to_num)
      fun user_config _ => bind_completes_iff ih fun user_configs _ =>
      iff_of_true ⟨user_config.toList ++ user_configs, rfl⟩ trivial
    exact hboth.trans (by simp)

/-- The driver's parser of the user configurations. -/
theorem parse_completes_iff :
    (∃ user_configs, parse ip_string_to_num (some (Value.of_document doc)) = .ok user_configs) ↔
      doc.is_object = true ∧ LidarConfigsShape doc := by
  rw [parse]
  cases hdoc : doc.is_object with
  | false =>
    rw [find_member_of_not_object hdoc]
    exact iff_of_false (by rintro ⟨_, h⟩; cases h) (by simp)
  | true =>
    simp only [find_member_of_object hdoc, ok_bind, LidarConfigsShape, true_and]
    cases hlookup : doc.lookup "lidar_configs" with
    | none => simp
    | some configs =>
      cases configs with
      | array elements =>
        simp only [Option.map_some, Value.of_document, of_elements_eq, Option.some.injEq,
          rapidjson.Value.array.injEq, forall_eq']
        exact parse_user_configs_completes_iff ip_string_to_num elements
      | integer value =>
        rw [Option.map_some, Value.of_document]
        by_cases hrange : -(2 ^ 31) ≤ value ∧ value < 2 ^ 31
        · rw [if_pos hrange]
          exact iff_of_true ⟨[], rfl⟩ (by simp)
        · rw [if_neg hrange]
          exact iff_of_true ⟨[], rfl⟩ (by simp)
      | _ =>
        rw [Option.map_some, Value.of_document]
        exact iff_of_true ⟨[], rfl⟩ (by simp)

/-- The SDK's reader comes back, with true or false. -/
def SdkReturns (doc : rapidjson.Value F) : Prop :=
  ∀ fault, livox_lidar.parse_cfg_file.parse doc ≠ .error (.fault fault)

/-- The three readers of the configuration return, whatever they return, exactly for the documents
that are objects, whose user configurations have members of the types that are read, and whose host
entries are objects, as far as the SDK comes. -/
theorem parsers_return_iff (doc : rapidjson.Value F) :
    ((∃ lidar_type, parse_summary_info doc = .ok lidar_type) ∧
      (∃ user_configs, parse ip_string_to_num (some (Value.of_document doc)) = .ok user_configs) ∧
        SdkReturns doc) ↔
      doc.is_object = true ∧ LidarConfigsShape doc ∧
        (livox_lidar.parse_cfg_file.SettingsShape doc →
          livox_lidar.parse_cfg_file.SectionsSafe doc livox_lidar.parse_cfg_file.dev_type_map) := by
  rw [parse_summary_info_completes_iff, parse_completes_iff, SdkReturns,
    (livox_lidar.parse_cfg_file.parse_outcome doc).settled, livox_lidar.parse_cfg_file.DocumentSafe]
  constructor
  · rintro ⟨hdoc, ⟨-, hconfigs⟩, -, hsections⟩
    exact ⟨hdoc, hconfigs, hsections⟩
  · rintro ⟨hdoc, hconfigs, hsections⟩
    exact ⟨hdoc, ⟨hdoc, hconfigs⟩, hdoc, hsections⟩

/-- In `{"HAP": {"host_net_info": [0]}}` a number stands where a host is read. -/
theorem parsers_do_not_return :
    ¬ ∀ (ip_string_to_num : String → UInt32) (doc : rapidjson.Value Int),
      (∃ lidar_type, parse_summary_info doc = .ok lidar_type) ∧
        (∃ user_configs, parse ip_string_to_num (some (Value.of_document doc)) = .ok user_configs) ∧
          SdkReturns doc := by
  intro h
  obtain ⟨-, -, hsdk⟩ := h (fun _ => 0)
    (.object [("HAP", .object [("host_net_info", .array [.integer 0])])])
  exact hsdk .precondition rfl

end Document

end livox_ros
