import Livox.Library.Exec
import Livox.Library.OrderedMap
import Livox.Sdk.Api
import Livox.Sdk.LivoxLidarDef

open checked ordered_map

namespace livox_lidar

/-- The answer of a lidar to the detection broadcast, and the bytes that follow it in the buffer
that it was received into. -/
structure DetectionData where
  ret_code : UInt8
  dev_type : UInt8
  sn : Vector UInt8 16
  lidar_ip : Vector UInt8 4
  cmd_port : UInt16
  behind : List UInt8

/-- The address that a lidar is delivered with. -/
def default_lidar_ip : Vector UInt8 4 := #v[192, 168, 1, 100]

/-- The string at `sn`: the bytes up to the first NUL, also when that is not one of the field. -/
def DetectionData.sn_string (detection_data : DetectionData) : Checked (List UInt8) :=
  let bytes := detection_data.sn.toList ++ detection_data.lidar_ip.toList ++
    [detection_data.cmd_port.toUInt8, (detection_data.cmd_port >>> 8).toUInt8] ++
    detection_data.behind
  if 0 ∈ bytes then .ok (bytes.takeWhile (· ≠ 0))
  else .error (.outOfBounds bytes.length bytes.length)

def DetectionData.lidar_ip_string (detection_data : DetectionData) : String :=
  toString detection_data.lidar_ip[0] ++ "." ++ toString detection_data.lidar_ip[1] ++ "." ++
    toString detection_data.lidar_ip[2] ++ "." ++ toString detection_data.lidar_ip[3]

/-- What the handler keeps of a device. -/
structure DeviceInfo where
  sn : List UInt8
  lidar_ip : String
  dev_type : UInt8
  is_update_cfg : Bool
  is_get_loader_mode : Bool
  is_loader_mode : Bool
  is_callback : Bool
  deriving DecidableEq, Repr

/-- An entry that the map makes up. -/
def DeviceInfo.default : DeviceInfo where
  sn := []
  lidar_ip := ""
  dev_type := 0
  is_update_cfg := false
  is_get_loader_mode := false
  is_loader_mode := false
  is_callback := false

/-- What the user is told of a device. -/
structure LivoxLidarInfo where
  dev_type : UInt8
  sn : List UInt8
  lidar_ip : String
  deriving DecidableEq, Repr

/-- The size of `sn` and of `lidar_ip` in a `LivoxLidarInfo`. -/
def kLivoxLidarInfoSize : Nat := 16

/-- The two `strcpy`: the strings and a NUL have to fit. -/
def DeviceInfo.lidar_info (device_info : DeviceInfo) : Checked LivoxLidarInfo :=
  if kLivoxLidarInfoSize ≤ device_info.sn.length then
    .error (.outOfBounds device_info.sn.length kLivoxLidarInfoSize)
  else if kLivoxLidarInfoSize ≤ device_info.lidar_ip.length then
    .error (.outOfBounds device_info.lidar_ip.length kLivoxLidarInfoSize)
  else
    .ok
      { dev_type := device_info.dev_type, sn := device_info.sn, lidar_ip := device_info.lidar_ip }

/-- The strings fit into a `LivoxLidarInfo`. -/
def DeviceInfo.Fits (device_info : DeviceInfo) : Prop :=
  device_info.sn.length < kLivoxLidarInfoSize ∧ device_info.lidar_ip.length < kLivoxLidarInfoSize

theorem DeviceInfo.default_fits : DeviceInfo.default.Fits := ⟨by decide, by decide⟩

theorem DeviceInfo.Fits.lidar_info {device_info : DeviceInfo} (h : device_info.Fits) :
    device_info.lidar_info = .ok
      { dev_type := device_info.dev_type, sn := device_info.sn, lidar_ip := device_info.lidar_ip } := by
  rw [DeviceInfo.lidar_info, if_neg (not_le.mpr h.1), if_neg (not_le.mpr h.2)]

/-- A NUL in front ends the string there. -/
theorem length_takeWhile_lt_of_mem {front : List UInt8} (h : 0 ∈ front) (back : List UInt8) :
    ((front ++ back).takeWhile (· ≠ 0)).length < front.length := by
  induction front with
  | nil => cases h
  | cons c front ih =>
    by_cases hc : c = 0
    · simp [hc]
    · have hrest : 0 ∈ front := (List.mem_cons.mp h).resolve_left (Ne.symm hc)
      simpa [hc] using ih hrest

theorem DetectionData.sn_string_of_mem {detection_data : DetectionData}
    (h : 0 ∈ detection_data.sn.toList) :
    ∃ sn, detection_data.sn_string = .ok sn ∧ sn.length < kLivoxLidarInfoSize := by
  have hlength : detection_data.sn.toList.length = kLivoxLidarInfoSize := by
    simp [kLivoxLidarInfoSize]
  rw [DetectionData.sn_string]
  simp only [List.append_assoc]
  rw [if_pos (List.mem_append_left _ h)]
  exact ⟨_, rfl, hlength ▸ length_takeWhile_lt_of_mem h _⟩

theorem DetectionData.lidar_ip_string_length (detection_data : DetectionData) :
    detection_data.lidar_ip_string.length < kLivoxLidarInfoSize := by
  have hbyte : ∀ c : UInt8, (toString c).length ≤ 3 := by
    intro c
    change (Nat.repr c.toNat).length ≤ 3
    rw [← String.length_toList, Nat.toList_repr, Nat.length_toDigits_le_iff (by omega) (by omega)]
    exact lt_of_lt_of_le c.toNat_lt (by norm_num)
  have hone := hbyte detection_data.lidar_ip[0]
  have htwo := hbyte detection_data.lidar_ip[1]
  have hthree := hbyte detection_data.lidar_ip[2]
  have hfour := hbyte detection_data.lidar_ip[3]
  have hdot : ".".length = 1 := rfl
  simp only [DetectionData.lidar_ip_string, String.length_append, hdot, kLivoxLidarInfoSize]
  omega

/-- The devices that have been detected, by handle. -/
abbrev Devices := Std.TreeMap UInt32 DeviceInfo

namespace Devices

/-- Store to the information on a device; `operator[]` makes an entry up where there is none. -/
def store (devices : Devices) (handle : UInt32) (f : DeviceInfo → DeviceInfo) : Devices :=
  devices.insert handle (f (devices[handle]?.getD DeviceInfo.default))

@[simp] theorem store_lookup (devices : Devices) (handle other : UInt32)
    (f : DeviceInfo → DeviceInfo) :
    (devices.store handle f)[other]? =
      if handle = other then some (f (devices[handle]?.getD DeviceInfo.default))
      else devices[other]? :=
  lookup_insert devices handle other _

/-- `HandleDetectionData` of a device that is new. -/
def record (devices : Devices) (handle : UInt32) (detection_data : DetectionData)
    (sn : List UInt8) : Devices :=
  devices.store handle fun device_info =>
    { device_info with
      sn
      lidar_ip := detection_data.lidar_ip_string
      dev_type := detection_data.dev_type
      is_get_loader_mode := false
      is_update_cfg := false
      is_callback := false }

/-- `UpdateFwType`: the type 0 is the one of the loader. -/
def update_fw_type (devices : Devices) (handle : UInt32) (fw_type : UInt8) : Devices :=
  if devices.contains handle then
    devices.store handle fun device_info =>
      { device_info with is_get_loader_mode := true, is_loader_mode := fw_type = 0 }
  else devices

theorem update_fw_type_lookup (devices : Devices) (handle other : UInt32) (fw_type : UInt8) :
    (devices.update_fw_type handle fw_type)[other]? =
      if handle = other then
        devices[handle]?.map fun device_info =>
          { device_info with is_get_loader_mode := true, is_loader_mode := fw_type = 0 }
      else devices[other]? := by
  unfold update_fw_type
  split
  · rename_i hcontains
    obtain ⟨device_info, hlookup⟩ := mem_iff_lookup.mp (Std.TreeMap.contains_iff_mem.mp hcontains)
    simp [hlookup]
  · rename_i hnot
    have hnone : devices[handle]? = none := by
      rw [Option.eq_none_iff_forall_ne_some]
      intro device_info hlookup
      exact hnot (Std.TreeMap.contains_iff_mem.mpr (mem_iff_lookup.mpr ⟨device_info, hlookup⟩))
    split
    · rename_i heq
      rw [← heq, hnone]
      rfl
    · rfl

theorem update_fw_type_isSome (devices : Devices) (handle other : UInt32) (fw_type : UInt8) :
    (devices.update_fw_type handle fw_type)[other]?.isSome = devices[other]?.isSome := by
  rw [update_fw_type_lookup]
  split
  · rename_i heq
    rw [heq, Option.isSome_map]
  · rfl

/-- `LivoxLidarInfoChange` without another thread: what the user's callback is called with, when it
is called. -/
def livox_lidar_info_change (devices : Devices) (handle : UInt32) :
    Checked (Devices × Option LivoxLidarInfo) := do
  let devices := devices.store handle fun device_info => { device_info with is_update_cfg := true }
  let device_info := devices[handle]?.getD DeviceInfo.default
  let lidar_info ← device_info.lidar_info
  .ok
    (devices.store handle fun device_info => { device_info with is_callback := true },
      if device_info.is_callback then none else some lidar_info)

theorem livox_lidar_info_change_spec (devices : Devices) (handle : UInt32)
    (h : (devices[handle]?.getD DeviceInfo.default).Fits) :
    ∃ after told, devices.livox_lidar_info_change handle = .ok (after, told) ∧
      ∀ other : UInt32, after[other]? =
        if handle = other then
          some { devices[handle]?.getD DeviceInfo.default with is_update_cfg := true, is_callback := true }
        else devices[other]? := by
  let after := (devices.store handle fun device_info =>
    { device_info with is_update_cfg := true }).store handle fun device_info =>
      { device_info with is_callback := true }
  have hrun : ∃ told, devices.livox_lidar_info_change handle = .ok (after, told) := by
    simp only [livox_lidar_info_change, store_lookup, if_true, Option.getD_some]
    exact ⟨_, bind_eq_ok_iff.mpr ⟨_, DeviceInfo.Fits.lidar_info h, rfl⟩⟩
  obtain ⟨told, hrun⟩ := hrun
  refine ⟨after, told, hrun, fun other => ?_⟩
  simp only [after, store_lookup, if_true, Option.getD_some]
  split <;> rfl

end Devices

/-- What is read of the answer to a query of the firmware type. -/
structure LivoxLidarDiagInternalInfoResponse where
  ret_code : UInt8
  key : UInt16
  length : UInt16
  value : UInt8
  deriving DecidableEq, Repr

/-- The firmware type that a callback is called with; none when the query has failed. -/
def reported_fw_type (status : LivoxLidarStatus)
    (response : Option LivoxLidarDiagInternalInfoResponse) : Option UInt8 :=
  if status ≠ .kLivoxLidarStatusSuccess then none
  else
    match response with
    | none => none
    | some response =>
      if response.ret_code ≠ 0 then none
      else if response.key ≠ ParamKeyName.kKeyFwType.value then none
      else if response.length ≠ 1 then none
      else some response.value

/-- The devices with the `count` of `QueryFwTypeCallback`, which there is one of for all of them. -/
structure FwTypes where
  devices : Devices
  count : Int8

/-- `QueryFwTypeCallback`, and whether it queries the type again. -/
def FwTypes.query_fw_type_callback (s : FwTypes) (handle : UInt32) (status : LivoxLidarStatus)
    (response : Option LivoxLidarDiagInternalInfoResponse) : FwTypes × Bool :=
  if s.count > 10 then ({ devices := s.devices.update_fw_type handle 1, count := 0 }, false)
  else
    match reported_fw_type status response with
    | none => ({ s with count := s.count + 1 }, true)
    | some fw_type => ({ devices := s.devices.update_fw_type handle fw_type, count := 0 }, false)

/-- A type is set and the count starts anew, or a failure is counted and the type queried again. -/
theorem FwTypes.query_fw_type_callback_cases (s : FwTypes) (handle : UInt32)
    (status : LivoxLidarStatus) (response : Option LivoxLidarDiagInternalInfoResponse) :
    (∃ fw_type, s.query_fw_type_callback handle status response =
        ({ devices := s.devices.update_fw_type handle fw_type, count := 0 }, false)) ∨
      s.query_fw_type_callback handle status response = ({ s with count := s.count + 1 }, true) := by
  unfold query_fw_type_callback
  split
  · exact .inl ⟨1, rfl⟩
  · split
    · exact .inr rfl
    · rename_i fw_type _
      exact .inl ⟨fw_type, rfl⟩

end livox_lidar
