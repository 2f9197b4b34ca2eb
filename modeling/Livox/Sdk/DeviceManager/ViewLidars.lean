import Livox.Library.Exec
import Livox.Library.Loop
import Livox.Sdk.BuildRequest
import Livox.Sdk.LivoxLidarDef
import Livox.Sdk.SdkProtocol

open memory checked loop

namespace livox_lidar

structure ViewDevice where
  handle : UInt32
  cmd_port : UInt16
  dev_type : UInt8
  is_get : Bool
  is_set : Bool
  deriving DecidableEq, Repr

namespace device_manager

/-- The whole `ViewLidarIpInfo`, with what the builders do not read. -/
structure ViewLidarIpInfo extends livox_lidar.ViewLidarIpInfo where
  handle : UInt32
  lidar_cmd_port : UInt16

/-- The two bytes at an offset, as a number. -/
def u16_at (bytes : List UInt8) (offset : Nat) : UInt16 :=
  UInt16.ofNat (value ((bytes.drop offset).take 2))

/-- Read two bytes of a payload; it has no byte at or behind its length. -/
def read_u16 (payload : List UInt8) (offset : Nat) : Checked UInt16 :=
  if offset + 2 ≤ payload.length then .ok (u16_at payload offset)
  else .error (.outOfBounds (offset + 2) payload.length)

/-- The variables of the loop over the records of a response. -/
structure Walk where
  off : UInt16
  i : UInt8
  view_lidar_info : ViewLidarIpInfo

/-- What is copied from the record at `kv`, for its key. -/
def copy_ports (payload : List UInt8) (kv : Nat) (key : UInt16) (info : ViewLidarIpInfo) :
    Checked ViewLidarIpInfo :=
  if key = ParamKeyName.kKeyLidarPointDataHostIpCfg.value then do
    let host_point_port ← read_u16 payload (kv + 4 + 4)
    let lidar_point_port ← read_u16 payload (kv + 4 + 6)
    pure { info with host_point_port, lidar_point_port }
  else if key = ParamKeyName.kKeyLidarImuHostIpCfg.value then do
    let host_imu_data_port ← read_u16 payload (kv + 4 + 4)
    let lidar_imu_data_port ← read_u16 payload (kv + 4 + 6)
    pure { info with host_imu_data_port, lidar_imu_data_port }
  else pure info

/-- One turn of the loop. The number of the record has 8 bits and the offset has 16. -/
def visit_record (payload : List UInt8) (s : Walk) : Checked (Turn Walk ViewLidarIpInfo) := do
  let param_num ← read_u16 payload 1
  if s.i.toUInt16 < param_num then do
    let kv := 3 + s.off.toNat
    let key ← read_u16 payload kv
    let view_lidar_info ← copy_ports payload kv key s.view_lidar_info
    let length ← read_u16 payload (kv + 2)
    pure (.next { off := s.off + 4 + length, i := s.i + 1, view_lidar_info })
  else pure (.leave s.view_lidar_info)

/-- What `AddViewLidar` reads and writes of the device manager, with the infos of the calls of
`CreateViewDataChannel` and of `UpdateLidarCfg` so far. -/
structure ViewLidars where
  detection_host_ip : List UInt8
  view_devices : Std.TreeMap UInt32 ViewDevice
  view_lidars_info : Std.TreeMap UInt32 ViewLidarIpInfo
  data_channels : List ViewLidarIpInfo
  updated_cfgs : List ViewLidarIpInfo

namespace ViewLidars

/-- The new info of a lidar, before the loop. -/
def new_info (s : ViewLidars) (handle : UInt32) (view_device : ViewDevice) : ViewLidarIpInfo where
  handle
  dev_type := view_device.dev_type
  host_ip := s.detection_host_ip
  lidar_cmd_port := view_device.cmd_port
  lidar_point_port := 0
  lidar_imu_data_port := 0
  host_point_port := 0
  host_imu_data_port := 0

def start (s : ViewLidars) (handle : UInt32) (view_device : ViewDevice) : Walk where
  off := 0
  i := 0
  view_lidar_info := s.new_info handle view_device

/-- The ports that the types of device have of their own. -/
def type_ports (info : ViewLidarIpInfo) : ViewLidarIpInfo :=
  if info.dev_type = kLivoxLidarTypeMid360 then
    { info with
      lidar_point_port := kMid360LidarPointCloudPort
      lidar_imu_data_port := kMid360LidarImuDataPort }
  else if info.dev_type = kLivoxLidarTypeMid360s then
    { info with
      lidar_point_port := kMid360sLidarPointCloudPort
      lidar_imu_data_port := kMid360sLidarImuDataPort }
  else if info.dev_type = kLivoxLidarTypeAvia2 then
    { info with
      lidar_point_port := kAvia2LidarPointCloudPort
      lidar_imu_data_port := kAvia2LidarImuDataPort }
  else info

/-- `AddViewLidar` behind the loop. -/
def store_info (s : ViewLidars) (handle : UInt32) (view_device : ViewDevice)
    (info : ViewLidarIpInfo) : ViewLidars :=
  let info := type_ports info
  { s with
    data_channels := s.data_channels ++ [info]
    view_lidars_info := s.view_lidars_info.insert handle info
    view_devices := s.view_devices.insert handle { view_device with is_get := true }
    updated_cfgs := s.updated_cfgs ++ [info] }

/-- `AddViewLidar` with the payload of the response; `none` when `fuel` turns do not end its
loop. -/
def add_view_lidar (fuel : Nat) (s : ViewLidars) (handle : UInt32)
    (response : Option (List UInt8)) : Option (Checked ViewLidars) :=
  match response with
  | none => some (.ok s)
  | some payload =>
    match payload.head? with
    | none => some (.error (.outOfBounds 1 0))
    | some ret_code =>
      if ret_code ≠ 0 then some (.ok s)
      else
        match s.view_devices[handle]? with
        | none => some (.ok s)
        | some view_device =>
          if view_device.is_get then some (.ok s)
          else
            (run (visit_record payload) fuel (s.start handle view_device)).map
              fun outcome => outcome.map (s.store_info handle view_device)

/-- A response is looked at when it reports no error and its lidar has been seen and has no info
yet. -/
structure Awaits (s : ViewLidars) (handle : UInt32) (view_device : ViewDevice)
    (payload : List UInt8) : Prop where
  ret_code : payload.head? = some 0
  seen : s.view_devices[handle]? = some view_device
  is_get : view_device.is_get = false

theorem Awaits.add_view_lidar_eq {s : ViewLidars} {handle : UInt32} {view_device : ViewDevice}
    {payload : List UInt8} (h : s.Awaits handle view_device payload) (fuel : Nat) :
    s.add_view_lidar fuel handle (some payload) =
      (run (visit_record payload) fuel (s.start handle view_device)).map
        fun outcome => outcome.map (s.store_info handle view_device) := by
  simp [add_view_lidar, h.ret_code, h.seen, h.is_get]

/-- A call that has been through its loop has left its traces. -/
theorem store_info_ne {s : ViewLidars} {handle : UInt32} {view_device : ViewDevice}
    (hseen : s.view_devices[handle]? = some view_device) (hnew : view_device.is_get = false)
    (info : ViewLidarIpInfo) : s.store_info handle view_device info ≠ s := by
  intro hsame
  have hdevice : (s.store_info handle view_device info).view_devices[handle]? =
      some { view_device with is_get := true } := by
    simp [store_info]
  rw [hsame, hseen] at hdevice
  have hget := congrArg ViewDevice.is_get (Option.some.inj hdevice)
  rw [hnew] at hget
  cases hget

end ViewLidars

/-! The records of a response, by what stands in the payload from each of them on. -/

/-- The length of a record with its key and its length. -/
def record_size (rest : List UInt8) : Nat := 4 + (u16_at rest 2).toNat

/-- The next `n` records, when all of them are there. -/
def records : Nat → List UInt8 → Option (List (List UInt8))
  | 0, _ => some []
  | n + 1, rest =>
    if record_size rest ≤ rest.length then
      (records n (rest.drop (record_size rest))).map (rest :: ·)
    else none

/-- The records that the response says it has. -/
def response_records (payload : List UInt8) : Option (List (List UInt8)) :=
  if 3 ≤ payload.length then records (u16_at payload 1).toNat (payload.drop 3) else none

/-- The keys whose values have ports that are copied. -/
def HasPorts (rest : List UInt8) : Prop :=
  u16_at rest 0 = ParamKeyName.kKeyLidarPointDataHostIpCfg.value ∨
    u16_at rest 0 = ParamKeyName.kKeyLidarImuHostIpCfg.value

instance (rest : List UInt8) : Decidable (HasPorts rest) :=
  inferInstanceAs (Decidable (_ ∨ _))

/-- What a record says of the ports. -/
def record_ports (info : ViewLidarIpInfo) (rest : List UInt8) : ViewLidarIpInfo :=
  if u16_at rest 0 = ParamKeyName.kKeyLidarPointDataHostIpCfg.value then
    { info with host_point_port := u16_at rest 8, lidar_point_port := u16_at rest 10 }
  else if u16_at rest 0 = ParamKeyName.kKeyLidarImuHostIpCfg.value then
    { info with host_imu_data_port := u16_at rest 8, lidar_imu_data_port := u16_at rest 10 }
  else info

section Reading

variable {payload : List UInt8} {offset kv : Nat} {info : ViewLidarIpInfo}

theorem u16_at_drop (bytes : List UInt8) (skip offset : Nat) :
    u16_at (bytes.drop skip) offset = u16_at bytes (skip + offset) := by
  rw [u16_at, u16_at, List.drop_drop]

theorem read_u16_fits (h : offset + 2 ≤ payload.length) :
    read_u16 payload offset = .ok (u16_at payload offset) :=
  if_pos h

theorem read_u16_outside (h : payload.length < offset + 2) :
    read_u16 payload offset = .error (.outOfBounds (offset + 2) payload.length) :=
  if_neg (by omega)

theorem copy_ports_fits (hinside : HasPorts (payload.drop kv) → kv + 12 ≤ payload.length) :
    copy_ports payload kv (u16_at payload kv) info = .ok (record_ports info (payload.drop kv)) := by
  simp only [HasPorts, record_ports, u16_at_drop, Nat.add_zero] at hinside ⊢
  by_cases hpoint : u16_at payload kv = ParamKeyName.kKeyLidarPointDataHostIpCfg.value
  · have hlong := hinside (Or.inl hpoint)
    rw [copy_ports, if_pos hpoint, if_pos hpoint, read_u16_fits (by omega),
      read_u16_fits (by omega)]
    rfl
  · by_cases himu : u16_at payload kv = ParamKeyName.kKeyLidarImuHostIpCfg.value
    · have hlong := hinside (Or.inr himu)
      rw [copy_ports, if_neg hpoint, if_pos himu, if_neg hpoint, if_pos himu,
        read_u16_fits (by omega), read_u16_fits (by omega)]
      rfl
    · rw [copy_ports, if_neg hpoint, if_neg himu, if_neg hpoint, if_neg himu]
      rfl

/-- Ports that lie behind the end are read all the same. -/
theorem copy_ports_outside (hports : HasPorts (payload.drop kv)) (hshort : payload.length < kv + 12) :
    ∃ fault, copy_ports payload kv (u16_at payload kv) info = .error fault := by
  have hlast : payload.length < kv + 4 + 6 + 2 := by omega
  simp only [HasPorts, u16_at_drop, Nat.add_zero] at hports
  by_cases hpoint : u16_at payload kv = ParamKeyName.kKeyLidarPointDataHostIpCfg.value
  · rw [copy_ports, if_pos hpoint, read_u16_outside hlast]
    cases read_u16 payload (kv + 4 + 4) <;> exact ⟨_, rfl⟩
  · rw [copy_ports, if_neg hpoint, if_pos (hports.resolve_left hpoint), read_u16_outside hlast]
    cases read_u16 payload (kv + 4 + 4) <;> exact ⟨_, rfl⟩

end Reading

section Walk

variable {payload : List UInt8} {s : Walk} {places : List (List UInt8)} {n : Nat}

/-- The record that the loop is at. -/
def Walk.rest (s : Walk) (payload : List UInt8) : List UInt8 := payload.drop (3 + s.off.toNat)

/-- The loop behind a record. -/
def Walk.next (s : Walk) (payload : List UInt8) : Walk where
  off := s.off + 4 + u16_at payload (3 + s.off.toNat + 2)
  i := s.i + 1
  view_lidar_info := record_ports s.view_lidar_info (s.rest payload)

/-- A turn for a record that is there comes down to the copy of its ports. -/
theorem visit_record_eq (hmore : s.i.toUInt16 < u16_at payload 1)
    (hfits : record_size (s.rest payload) ≤ (s.rest payload).length) :
    visit_record payload s =
      copy_ports payload (3 + s.off.toNat) (u16_at payload (3 + s.off.toNat)) s.view_lidar_info >>=
        fun view_lidar_info => .ok (.next { s.next payload with view_lidar_info }) := by
  simp only [Walk.rest, record_size, List.length_drop] at hfits
  rw [visit_record, read_u16_fits (by omega), ok_bind, if_pos hmore]
  simp only
  rw [read_u16_fits (by omega), ok_bind, read_u16_fits (by omega)]
  rfl

/-- A record that has its ports inside the payload is visited. -/
theorem visit_record_next (hmore : s.i.toUInt16 < u16_at payload 1)
    (hfits : record_size (s.rest payload) ≤ (s.rest payload).length)
    (hinside : HasPorts (s.rest payload) → 12 ≤ (s.rest payload).length) :
    visit_record payload s = .ok (.next (s.next payload)) := by
  have hlong : HasPorts (s.rest payload) → 3 + s.off.toNat + 12 ≤ payload.length := by
    intro hports
    have hrest := hinside hports
    rw [Walk.rest, List.length_drop] at hrest
    omega
  rw [visit_record_eq hmore hfits, copy_ports_fits hlong]
  rfl

/-- A record whose ports lie behind the end is read there. -/
theorem visit_record_outside (hmore : s.i.toUInt16 < u16_at payload 1)
    (hfits : record_size (s.rest payload) ≤ (s.rest payload).length)
    (hports : HasPorts (s.rest payload)) (hshort : (s.rest payload).length < 12) :
    ∃ fault, visit_record payload s = .error fault := by
  have hend : payload.length < 3 + s.off.toNat + 12 := by
    rw [Walk.rest, List.length_drop] at hshort
    omega
  obtain ⟨fault, hcopy⟩ := @copy_ports_outside payload _ s.view_lidar_info hports hend
  refine ⟨fault, ?_⟩
  rw [visit_record_eq hmore hfits, hcopy]
  rfl

theorem visit_record_leave (hhead : 3 ≤ payload.length) (hend : u16_at payload 1 ≤ s.i.toUInt16) :
    visit_record payload s = .ok (.leave s.view_lidar_info) := by
  rw [visit_record, read_u16_fits hhead, ok_bind, if_neg (UInt16.not_lt.mpr hend)]
  rfl

/-- The loop is left only when the number of the record, of 8 bits, has come to the number of the
records. -/
theorem visit_record_leave_param_num {info : ViewLidarIpInfo}
    (h : visit_record payload s = .ok (.leave info)) : u16_at payload 1 ≤ s.i.toUInt16 := by
  rw [visit_record] at h
  obtain ⟨param_num, hread, h⟩ := bind_eq_ok_iff.mp h
  have hnum : param_num = u16_at payload 1 := by
    rw [read_u16] at hread
    split at hread
    · exact (Except.ok.inj hread).symm
    · cases hread
  split at h
  · obtain ⟨key, -, h⟩ := bind_eq_ok_iff.mp h
    obtain ⟨copied, -, h⟩ := bind_eq_ok_iff.mp h
    obtain ⟨length, -, h⟩ := bind_eq_ok_iff.mp h
    cases h
  · rename_i hend
    rw [← hnum]
    exact UInt16.not_lt.mp hend

/-- Where the loop is: `n` records are still to come, and they are those that are left. -/
structure At (payload : List UInt8) (n : Nat) (places : List (List UInt8)) (s : Walk) : Prop where
  head : 3 ≤ payload.length
  size : payload.length < 2 ^ 16
  num : s.i.toNat + n = (u16_at payload 1).toNat
  num_lt : (u16_at payload 1).toNat < 256
  left : records n (s.rest payload) = some places

theorem At.more (h : At payload (n + 1) places s) : s.i.toUInt16 < u16_at payload 1 := by
  have hnum := h.num
  rw [UInt16.lt_iff_toNat_lt, UInt8.toNat_toUInt16]
  omega

/-- The first of the records that are left, and the loop behind it: neither of its variables has
overflowed. -/
theorem At.cases (h : At payload (n + 1) places s) :
    ∃ behind, places = s.rest payload :: behind ∧
      record_size (s.rest payload) ≤ (s.rest payload).length ∧
      At payload n behind (s.next payload) := by
  have hleft := h.left
  rw [records] at hleft
  split at hleft
  · rename_i hfits
    obtain ⟨behind, hbehind, rfl⟩ := Option.map_eq_some_iff.mp hleft
    have hsize := h.size
    have hnum := h.num
    have hnumLt := h.num_lt
    have hlen : record_size (s.rest payload) =
        4 + (u16_at payload (3 + s.off.toNat + 2)).toNat := by
      rw [record_size, Walk.rest, u16_at_drop]
    have hlength : (s.rest payload).length = payload.length - (3 + s.off.toNat) := by
      rw [Walk.rest, List.length_drop]
    have hoff : (s.next payload).off.toNat = s.off.toNat + record_size (s.rest payload) := by
      simp only [Walk.next, UInt16.toNat_add, hlen]
      have hfour : (4 : UInt16).toNat = 4 := rfl
      omega
    refine ⟨behind, rfl, hfits, h.head, hsize, ?_, hnumLt, ?_⟩
    · simp only [Walk.next, UInt8.toNat_add]
      have hone : (1 : UInt8).toNat = 1 := rfl
      omega
    · rw [Walk.rest, hoff, ← Nat.add_assoc, ← List.drop_drop]
      exact hbehind
  · cases hleft

/-- Over records that have their ports inside the payload the loop takes one turn each. -/
theorem run_records (h : At payload n places s)
    (hinside : ∀ rest ∈ places, HasPorts rest → 12 ≤ rest.length) :
    run (visit_record payload) n s = none ∧
      run (visit_record payload) (n + 1) s =
        some (.ok (places.foldl record_ports s.view_lidar_info)) := by
  induction n generalizing places s with
  | zero =>
    obtain rfl : [] = places := Option.some.inj h.left
    have hnum := h.num
    have hleave : visit_record payload s = .ok (.leave s.view_lidar_info) :=
      visit_record_leave h.head (by rw [UInt16.le_iff_toNat_le, UInt8.toNat_toUInt16]; omega)
    exact ⟨rfl, by simp [run, hleave]⟩
  | succ n ih =>
    obtain ⟨behind, rfl, hfits, hnext⟩ := h.cases
    have hturn := visit_record_next h.more hfits (hinside _ (by simp))
    obtain ⟨hbusy, hdone⟩ := ih hnext fun rest hmem => hinside rest (List.mem_cons_of_mem _ hmem)
    rw [run_next hturn, run_next hturn]
    exact ⟨hbusy, hdone⟩

/-- A loop that ends with an info has read nothing behind the payload. -/
theorem ports_inside_of_ends {info : ViewLidarIpInfo} (h : At payload n places s)
    (hends : Ends (visit_record payload) s (.ok info)) :
    ∀ rest ∈ places, HasPorts rest → 12 ≤ rest.length := by
  induction n generalizing places s with
  | zero =>
    obtain rfl : [] = places := Option.some.inj h.left
    simp
  | succ n ih =>
    obtain ⟨behind, rfl, hfits, hnext⟩ := h.cases
    by_cases hinside : HasPorts (s.rest payload) → 12 ≤ (s.rest payload).length
    · have hturn := visit_record_next h.more hfits hinside
      intro rest hmem
      rcases List.mem_cons.mp hmem with rfl | hmem
      · exact hinside
      · exact ih hnext ((ends_next_iff hturn).mp hends) rest hmem
    · push Not at hinside
      obtain ⟨fault, herror⟩ := visit_record_outside h.more hfits hinside.1 hinside.2
      cases hends.unique (ends_error herror)

end Walk

section Bounded

variable {s : ViewLidars} {handle : UInt32} {view_device : ViewDevice} {payload : List UInt8}

/-- The loop is bounded: over records that are all there it takes one turn each, and copies what
they say; otherwise the call fails, and leaves everything as it was. -/
def Bounded (s : ViewLidars) (handle : UInt32) (view_device : ViewDevice) (payload : List UInt8) :
    Prop :=
  match response_records payload with
  | some places =>
    run (visit_record payload) places.length (s.start handle view_device) = none ∧
      run (visit_record payload) (places.length + 1) (s.start handle view_device) =
        some (.ok (places.foldl record_ports (s.new_info handle view_device)))
  | none => ∃ fuel, s.add_view_lidar fuel handle (some payload) = some (.ok s)

/-- The loop has no end of its own for a response that it should refuse. -/
theorem Bounded.cases (hawaits : s.Awaits handle view_device payload)
    (h : Bounded s handle view_device payload) :
    ∃ places, response_records payload = some places ∧
      ∃ info, Ends (visit_record payload) (s.start handle view_device) (.ok info) := by
  rw [Bounded] at h
  split at h
  · rename_i places hplaces
    exact ⟨places, hplaces, _, _, h.2⟩
  · obtain ⟨fuel, hcall⟩ := h
    rw [hawaits.add_view_lidar_eq] at hcall
    obtain ⟨outcome, -, hstored⟩ := Option.map_eq_some_iff.mp hcall
    cases outcome with
    | error fault => cases hstored
    | ok info => cases ViewLidars.store_info_ne hawaits.seen hawaits.is_get info (Except.ok.inj hstored)

/-- The number of a record has 8 bits: it does not come to a number of records that needs more. -/
theorem not_ends_of_param_num (hnum : 256 ≤ (u16_at payload 1).toNat) {walk : Walk}
    (info : ViewLidarIpInfo) : ¬ Ends (visit_record payload) walk (.ok info) := by
  apply not_ends_ok_of_not_leave
  intro walk result hleave
  have hend := visit_record_leave_param_num hleave
  have hbyte := walk.i.toNat_lt
  rw [UInt16.le_iff_toNat_le, UInt8.toNat_toUInt16] at hend
  omega

theorem length_records {n : Nat} {rest : List UInt8} {places : List (List UInt8)}
    (h : records n rest = some places) : places.length = n := by
  induction n generalizing rest places with
  | zero =>
    obtain rfl : [] = places := Option.some.inj h
    rfl
  | succ n ih =>
    rw [records] at h
    split at h
    · obtain ⟨behind, hbehind, rfl⟩ := Option.map_eq_some_iff.mp h
      rw [List.length_cons, ih hbehind]
    · cases h

/-- Fewer than 256 records that are all there are what the loop starts at. -/
theorem start_at (s : ViewLidars) (handle : UInt32) (view_device : ViewDevice)
    {packet : CommPacket} {places : List (List UInt8)}
    (hplaces : response_records packet.payload = some places) (hnum : places.length < 256) :
    At packet.payload places.length places (s.start handle view_device) := by
  rw [response_records] at hplaces
  split at hplaces
  · rename_i hhead
    have hlength := length_records hplaces
    have hsize : packet.payload.length = packet.data_len.toNat := Pointer.length_load ..
    refine ⟨hhead, ?_, ?_, ?_, ?_⟩
    · rw [hsize]
      exact packet.data_len.toNat_lt
    · rw [hlength]
      exact Nat.zero_add _
    · rwa [← hlength]
    · rw [hlength]
      exact hplaces
  · cases hplaces

/-- The loop is bounded exactly for a response with fewer than 256 records that are all there and
whose ports lie inside the payload. -/
theorem add_view_lidar_bounded_iff {packet : CommPacket}
    (hawaits : s.Awaits handle view_device packet.payload) :
    Bounded s handle view_device packet.payload ↔
      ∃ places, response_records packet.payload = some places ∧ places.length < 256 ∧
        ∀ rest ∈ places, HasPorts rest → 12 ≤ rest.length := by
  constructor
  · intro h
    obtain ⟨places, hplaces, info, hends⟩ := h.cases hawaits
    have hnum : places.length < 256 := by
      by_contra hmany
      have hwide : 256 ≤ (u16_at packet.payload 1).toNat := by
        have hrecords := hplaces
        rw [response_records] at hrecords
        split at hrecords
        · rw [← length_records hrecords]
          omega
        · cases hrecords
      exact not_ends_of_param_num hwide info hends
    exact ⟨places, hplaces, hnum, ports_inside_of_ends (start_at s handle view_device hplaces hnum) hends⟩
  · rintro ⟨places, hplaces, hnum, hinside⟩
    have hrun := run_records (start_at s handle view_device hplaces hnum) hinside
    simp only [Bounded, hplaces]
    exact hrun

/-- A packet with these bytes. -/
def sample_packet (payload : List UInt8) : CommPacket where
  protocol := kLidarSdk
  version := kSdkVer
  seq_num := 1
  cmd_id := 0x0101
  cmd_type := 1
  sender_type := 1
  data := { block := store (fun _ => 0) 0 payload, offset := 0 }
  data_len := UInt16.ofNat payload.length

theorem sample_packet_payload (hsize : payload.length < 2 ^ 16) :
    (sample_packet payload).payload = payload := by
  have hlen : (UInt16.ofNat payload.length).toNat = payload.length := UInt16.toNat_ofNat_of_lt' hsize
  simp only [CommPacket.payload, sample_packet, Pointer.load, hlen]
  exact load_store_self ..

def sample_device : ViewDevice where
  handle := 1
  cmd_port := 56100
  dev_type := kLivoxLidarTypeIndustrialHAP
  is_get := false
  is_set := false

/-- A manager that has seen one lidar. -/
def sample_lidars : ViewLidars where
  detection_host_ip := []
  view_devices := (∅ : Std.TreeMap UInt32 ViewDevice).insert 1 sample_device
  view_lidars_info := ∅
  data_channels := []
  updated_cfgs := []

theorem sample_awaits (hsize : payload.length < 2 ^ 16) (hret : payload.head? = some 0) :
    sample_lidars.Awaits 1 sample_device (sample_packet payload).payload := by
  rw [sample_packet_payload hsize]
  exact ⟨hret, by simp [sample_lidars], rfl⟩

/-- The ports of the point data, in a response of one record. -/
def sample_response : List UInt8 := [0, 1, 0, 6, 0, 8, 0, 192, 168, 1, 5, 1, 0, 2, 0]

theorem add_view_lidar_bounded_iff_sample :
    Bounded sample_lidars 1 sample_device (sample_packet sample_response).payload :=
  (add_view_lidar_bounded_iff (sample_awaits (by decide) rfl)).mpr
    ⟨[sample_response.drop 3], by rw [sample_packet_payload (by decide)]; decide, by decide,
      by decide⟩

/-- Over 256 records, all of them there, the loop does not end. -/
theorem add_view_lidar_256_records :
    ¬ ∀ (s : ViewLidars) (handle : UInt32) (view_device : ViewDevice) (packet : CommPacket),
      s.Awaits handle view_device packet.payload → Bounded s handle view_device packet.payload := by
  intro h
  obtain ⟨payload, hpayload⟩ : ∃ payload : List UInt8,
      payload = 0 :: 0 :: 1 :: List.replicate 1024 0 := ⟨_, rfl⟩
  have hsize : payload.length < 2 ^ 16 := by
    rw [hpayload, List.length_cons, List.length_cons, List.length_cons, List.length_replicate]
    decide
  have hnum : u16_at payload 1 = 256 := by
    simp only [hpayload, u16_at, List.drop_succ_cons, List.drop_zero, List.take_succ_cons,
      List.take_zero]
    decide
  have hawaits := sample_awaits hsize (by rw [hpayload, List.head?_cons])
  obtain ⟨places, -, info, hends⟩ := (h _ _ _ _ hawaits).cases hawaits
  rw [sample_packet_payload hsize] at hends
  exact not_ends_of_param_num (by rw [hnum]; decide) info hends

end Bounded

end device_manager

end livox_lidar
