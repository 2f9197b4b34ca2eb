import Livox.Sdk.CommandImpl
import Livox.Sdk.ParseLidarStateInfo.Layout

open memory checked

namespace livox_lidar

/-- A record as it stands in a message. -/
def LivoxLidarKeyValueParam.encode (kv : LivoxLidarKeyValueParam) : List UInt8 :=
  bytes 2 kv.key.toNat ++ (bytes 2 kv.length.toNat ++ kv.value)

namespace direct_lidar_state_info

open parse_lidar_state_info

/-- The key that a field comes under. -/
def Member.key : Member → ParamKeyName
  | .pcl_data_type => .kKeyPclDataType
  | .pattern_mode => .kKeyPatternMode
  | .dual_emit_en => .kKeyDualEmitEn
  | .point_send_en => .kKeyPointSendEn
  | .lidar_ipcfg_ip_addr | .lidar_ipcfg_net_mask | .lidar_ipcfg_gw_addr => .kKeyLidarIpCfg
  | .host_state_info_host_ip_addr | .host_state_info_host_state_info_port
  | .host_state_info_lidar_state_info_port => .kKeyStateInfoHostIpCfg
  | .pointcloud_host_ipcfg_host_ip_addr | .pointcloud_host_ipcfg_host_point_data_port
  | .pointcloud_host_ipcfg_lidar_point_data_port => .kKeyLidarPointDataHostIpCfg
  | .imu_host_ipcfg_host_ip_addr | .imu_host_ipcfg_host_imu_data_port
  | .imu_host_ipcfg_lidar_imu_data_port => .kKeyLidarImuHostIpCfg
  | .ctl_host_ipcfg_ip_addr | .ctl_host_ipcfg_dst_port | .ctl_host_ipcfg_src_port => .kKeyCtlHostIpCfg
  | .log_host_ipcfg_ip_addr | .log_host_ipcfg_dst_port | .log_host_ipcfg_src_port => .kKeyLogHostIpCfg
  | .vehicle_speed => .kKeyVehicleSpeed
  | .environment_temp => .kKeyEnvironmentTemp
  | .install_attitude => .kKeyInstallAttitude
  | .blind_spot_set => .kKeyBlindSpotSet
  | .frame_rate => .kKeyFrameRate
  | .fov_cfg0 => .kKeyFovCfg0
  | .fov_cfg1 => .kKeyFovCfg1
  | .fov_cfg_en => .kKeyFovCfgEn
  | .detect_mode => .kKeyDetectMode
  | .func_io_cfg => .kKeyFuncIoCfg
  | .work_tgt_mode => .kKeyWorkMode
  | .glass_heat => .kKeyGlassHeat
  | .imu_data_en => .kKeyImuDataEn
  | .fusa_en => .kKeyFusaEn
  | .esc_mode => .kKeySetEscMode
  | .fov_mode => .kKeySetFovMode
  | .echo_mode => .kKeySetEchoMode
  | .ntp_server_ip_host_ip => .kKeySetNTPServerIp
  | .ito_mode => .kKeySetITOCtrl
  | .fog_noise_filter => .kKeySetFogNoiseFilter
  | .sn => .kKeySn
  | .product_info => .kKeyProductInfo
  | .version_app => .kKeyVersionApp
  | .version_loader => .kKeyVersionLoader
  | .version_hardware => .kKeyVersionHardware
  | .mac => .kKeyMac
  | .cur_work_state => .kKeyCurWorkState
  | .core_temp => .kKeyCoreTemp
  | .powerup_cnt => .kKeyPowerUpCnt
  | .local_time_now => .kKeyLocalTimeNow
  | .last_sync_time => .kKeyLastSyncTime
  | .time_offset => .kKeyTimeOffset
  | .time_sync_type => .kKeyTimeSyncType
  | .status_code => .kKeyStatusCode
  | .lidar_diag_status => .kKeyLidarDiagStatus
  | .lidar_flash_status => .kKeyLidarFlashStatus
  | .fw_type => .kKeyFwType
  | .hms_code => .kKeyHmsCode
  | .ROI_Mode => .kKeyRoiMode
  | .imu_range => .kKeySetImuRange

/-- The length on the wire of the value that a field is in. -/
def Member.wire_size (member : Member) : Nat :=
  match member.key with
  | .kKeyLidarIpCfg => 12
  | .kKeyStateInfoHostIpCfg | .kKeyLidarPointDataHostIpCfg | .kKeyLidarImuHostIpCfg
  | .kKeyCtlHostIpCfg | .kKeyLogHostIpCfg => 8
  | .kKeySetNTPServerIp => 4
  | _ => member.size

/-- The part of the value that a field shows: three addresses, an address and two ports behind it, or the
whole of it. -/
def Member.piece : Member → Piece
  | .lidar_ipcfg_ip_addr => ⟨.lidar_ipcfg_ip_addr, 0, 4, true⟩
  | .lidar_ipcfg_net_mask => ⟨.lidar_ipcfg_net_mask, 4, 4, true⟩
  | .lidar_ipcfg_gw_addr => ⟨.lidar_ipcfg_gw_addr, 8, 4, true⟩
  | .host_state_info_host_ip_addr => ⟨.host_state_info_host_ip_addr, 0, 4, true⟩
  | .host_state_info_host_state_info_port => ⟨.host_state_info_host_state_info_port, 4, 2, false⟩
  | .host_state_info_lidar_state_info_port => ⟨.host_state_info_lidar_state_info_port, 6, 2, false⟩
  | .pointcloud_host_ipcfg_host_ip_addr => ⟨.pointcloud_host_ipcfg_host_ip_addr, 0, 4, true⟩
  | .pointcloud_host_ipcfg_host_point_data_port =>
    ⟨.pointcloud_host_ipcfg_host_point_data_port, 4, 2, false⟩
  | .pointcloud_host_ipcfg_lidar_point_data_port =>
    ⟨.pointcloud_host_ipcfg_lidar_point_data_port, 6, 2, false⟩
  | .imu_host_ipcfg_host_ip_addr => ⟨.imu_host_ipcfg_host_ip_addr, 0, 4, true⟩
  | .imu_host_ipcfg_host_imu_data_port => ⟨.imu_host_ipcfg_host_imu_data_port, 4, 2, false⟩
  | .imu_host_ipcfg_lidar_imu_data_port => ⟨.imu_host_ipcfg_lidar_imu_data_port, 6, 2, false⟩
  | .ctl_host_ipcfg_ip_addr => ⟨.ctl_host_ipcfg_ip_addr, 0, 4, true⟩
  | .ctl_host_ipcfg_dst_port => ⟨.ctl_host_ipcfg_dst_port, 4, 2, false⟩
  | .ctl_host_ipcfg_src_port => ⟨.ctl_host_ipcfg_src_port, 6, 2, false⟩
  | .log_host_ipcfg_ip_addr => ⟨.log_host_ipcfg_ip_addr, 0, 4, true⟩
  | .log_host_ipcfg_dst_port => ⟨.log_host_ipcfg_dst_port, 4, 2, false⟩
  | .log_host_ipcfg_src_port => ⟨.log_host_ipcfg_src_port, 6, 2, false⟩
  | .ntp_server_ip_host_ip => ⟨.ntp_server_ip_host_ip, 0, 4, true⟩
  | member => ⟨member, 0, member.size, false⟩

/-- The field shows its part of the value. -/
def Member.Shows (member : Member) (value : List UInt8) (info : DirectLidarStateInfo) : Prop :=
  member.piece.Shows ((value.drop member.piece.start.toNat).take member.piece.len) info

end direct_lidar_state_info

namespace parse_lidar_state_info

open direct_lidar_state_info

theorem cases_values_nodup : (cases.map fun entry => entry.1.value).Nodup := by
  decide +kernel

/-- The switch takes the case that is written for the key. -/
theorem switch_eq_some_iff {key : UInt16} {entry : ParamKeyName × Case} :
    switch key = some entry ↔ entry ∈ cases ∧ entry.1.value = key := by
  constructor
  · intro h
    refine ⟨List.mem_of_find?_eq_some h, ?_⟩
    simpa using List.find?_some h
  · rintro ⟨hmem, hkey⟩
    cases hfound : switch key with
    | none =>
      have hnone := List.find?_eq_none.mp hfound entry hmem
      simp [hkey] at hnone
    | some found =>
      have hfoundKey : found.1.value = key := by simpa using List.find?_some hfound
      have heq : found = entry := List.inj_on_of_nodup_map cases_values_nodup
        (List.mem_of_find?_eq_some hfound) hmem (hfoundKey.trans hkey.symm)
      rw [heq]

theorem switch_eq_none_iff {key : UInt16} :
    switch key = none ↔ ∀ entry ∈ cases, entry.1.value ≠ key := by
  rw [switch, List.find?_eq_none]
  simp

/-- Different keys have different members. -/
theorem cases_disjoint : ∀ entry ∈ cases, ∀ other ∈ cases, entry.1 ≠ other.1 →
    ∀ member ∈ entry.2.layout.map Piece.member, member ∉ other.2.layout.map Piece.member := by
  decide +kernel

theorem cases_case_unique {name : ParamKeyName} {case other : Case} (hcase : (name, case) ∈ cases)
    (hother : (name, other) ∈ cases) : case = other := by
  have h := List.inj_on_of_nodup_map cases_values_nodup hcase hother rfl
  exact (Prod.mk.inj h).2

theorem cases_name_unique {name other : ParamKeyName} {case otherCase : Case}
    (hname : (name, case) ∈ cases) (hother : (other, otherCase) ∈ cases)
    (hvalue : name.value = other.value) : name = other := by
  have h := List.inj_on_of_nodup_map cases_values_nodup hname hother hvalue
  exact (Prod.mk.inj h).1

/-- A record whose value has the length that it says, which is the one that its
key has on the wire; a key that the decoder does not know has at least one byte. -/
structure WellFormed (kv : LivoxLidarKeyValueParam) : Prop where
  length : kv.length.toNat = kv.value.length
  recognised : ∀ entry ∈ cases, entry.1.value = kv.key → kv.value.length = entry.2.wire_size
  unrecognised : (∀ entry ∈ cases, entry.1.value ≠ kv.key) → 1 ≤ kv.value.length

theorem WellFormed.value_length_pos {kv : LivoxLidarKeyValueParam} (h : WellFormed kv) :
    1 ≤ kv.value.length := by
  have hsizes : ∀ entry ∈ cases, 1 ≤ entry.2.wire_size := by decide +kernel
  by_cases hknown : ∀ entry ∈ cases, entry.1.value ≠ kv.key
  · exact h.unrecognised hknown
  · push Not at hknown
    obtain ⟨entry, hentry, hkey⟩ := hknown
    rw [h.recognised entry hentry hkey]
    exact hsizes entry hentry

theorem length_encode (kv : LivoxLidarKeyValueParam) : kv.encode.length = 4 + kv.value.length := by
  simp [LivoxLidarKeyValueParam.encode]
  omega

section Record

variable {packet : CommPacket} {offset : UInt16} {kv : LivoxLidarKeyValueParam}

variable (hlength : kv.length.toNat = kv.value.length)
  (hload : (packet.data.add offset.toNat).load kv.encode.length = kv.encode)
  (hfits : offset.toNat + kv.encode.length ≤ packet.data_len.toNat)

include hlength hload hfits

/-- The key and the length of a record are read, and the value lies behind them. -/
theorem decode_record_head (info : DirectLidarStateInfo) (key_mask : Finset ParamKeyName) :
    decode_record packet offset info key_mask =
      (match switch kv.key with
      | some (name, case) => do
        let info ← case.decode packet (offset + 2 + 2) kv.length info
        pure (offset + 2 + 2 + kv.length, info, insert name key_mask)
      | none => pure (offset + 2 + 2 + kv.length, info, key_mask)) ∧
    (offset + 2 + 2).toNat = offset.toNat + 4 ∧
    (offset + 2 + 2 + kv.length).toNat = offset.toNat + kv.encode.length ∧
    (packet.data.add (offset.toNat + 4)).load kv.value.length = kv.value := by
  have hdata := packet.data_len.toNat_lt
  have hencode := length_encode kv
  obtain ⟨_, hfour⟩ := @head_offset packet offset (by omega)
  have hnext : (offset + 2 + 2 + kv.length).toNat = offset.toNat + kv.encode.length := by
    rw [UInt16.toNat_add, hfour, hlength]
    omega
  have hkey := load_middle [] (bytes 2 kv.key.toNat) _ hload
  have hlen := load_middle (bytes 2 kv.key.toNat) (bytes 2 kv.length.toNat) kv.value hload
  have hvalue := load_middle (bytes 2 kv.key.toNat ++ bytes 2 kv.length.toNat) kv.value []
    (hload.trans (by simp [LivoxLidarKeyValueParam.encode]))
  rw [length_bytes, List.length_nil, Nat.add_zero] at hkey
  rw [length_bytes, length_bytes, Pointer.add_offset, Nat.add_assoc] at hlen
  rw [List.length_append, length_bytes, length_bytes] at hvalue
  refine ⟨?_, hfour, hnext, hvalue⟩
  have hrecord := @decode_record_eq packet offset (by omega) info key_mask
  rw [Pointer.u16_of_load hkey, Pointer.u16_of_load hlen] at hrecord
  exact hrecord

/-- A record with a key of the switch ends up in the members of the key. -/
theorem decode_record_recognised {name : ParamKeyName} {case : Case}
    (hcase : (name, case) ∈ cases) (hkey : name.value = kv.key)
    (hsize : kv.value.length = case.wire_size) (info : DirectLidarStateInfo)
    (key_mask : Finset ParamKeyName) :
    ∃ result,
      decode_record packet offset info key_mask =
        .ok (offset + 2 + 2 + kv.length, result, insert name key_mask) ∧
      case.Holds kv.value result ∧
      ∀ other, other ∉ case.layout.map Piece.member → result other = info other := by
  obtain ⟨hrecord, hfour, _, hvalue⟩ := decode_record_head hlength hload hfits info key_mask
  have hencode := length_encode kv
  have hinside : (offset + 2 + 2).toNat + case.wire_size ≤ packet.data_len.toNat := by omega
  obtain ⟨result, hdecode, hholds, hothers⟩ :=
    case.decode_whole (hlength.trans hsize) hinside info
  rw [hfour, ← hsize, hvalue] at hholds
  refine ⟨result, ?_, hholds, hothers⟩
  rw [hrecord, switch_eq_some_iff.mpr ⟨hcase, hkey⟩]
  simp only [hdecode, ok_bind]
  rfl

/-- A record with another key is passed over. -/
theorem decode_record_unrecognised (hkey : ∀ entry ∈ cases, entry.1.value ≠ kv.key)
    (info : DirectLidarStateInfo) (key_mask : Finset ParamKeyName) :
    decode_record packet offset info key_mask =
      .ok (offset + 2 + 2 + kv.length, info, key_mask) := by
  rw [(decode_record_head hlength hload hfits info key_mask).1, switch_eq_none_iff.mpr hkey]
  rfl

end Record

/-- The last of the records with a key. -/
def last_record (records : List LivoxLidarKeyValueParam) (key : UInt16) :
    Option LivoxLidarKeyValueParam :=
  (records.filter fun kv => kv.key = key).getLast?

theorem last_record_cons (kv : LivoxLidarKeyValueParam) (records : List LivoxLidarKeyValueParam)
    (key : UInt16) :
    last_record (kv :: records) key =
      if kv.key = key then some ((last_record records key).getD kv)
      else last_record records key := by
  unfold last_record
  by_cases hkey : kv.key = key
  · rw [List.filter_cons_of_pos (by simpa using hkey), if_pos hkey, List.getLast?_cons]
  · rw [List.filter_cons_of_neg (by simpa using hkey), if_neg hkey]

theorem last_record_eq_none_iff {records : List LivoxLidarKeyValueParam} {key : UInt16} :
    last_record records key = none ↔ ∀ kv ∈ records, kv.key ≠ key := by
  simp [last_record]

/-- What a message says, as the decoder should hand it on: the keys of its
records, in each member the value of the last record with its key, and in the
members of the other keys what they had. -/
structure Decodes (records : List LivoxLidarKeyValueParam) (info : DirectLidarStateInfo)
    (key_mask : Finset ParamKeyName) (outcome : Outcome) : Prop where
  ret : outcome.ret = true
  keys : ∀ name, name ∈ outcome.key_mask ↔ name ∈ key_mask ∨
    (∃ case, (name, case) ∈ cases) ∧ ∃ kv ∈ records, kv.key = name.value
  last : ∀ name case, (name, case) ∈ cases → ∀ kv, last_record records name.value = some kv →
    case.Holds kv.value outcome.info
  untouched : ∀ member, (∀ name case, (name, case) ∈ cases →
    member ∈ case.layout.map Piece.member → ∀ kv ∈ records, kv.key ≠ name.value) →
    outcome.info member = info member

/-- The members of a key without a record keep what they had. -/
theorem Decodes.key_untouched {records : List LivoxLidarKeyValueParam}
    {info : DirectLidarStateInfo} {key_mask : Finset ParamKeyName} {outcome : Outcome}
    (h : Decodes records info key_mask outcome) {name : ParamKeyName} {case : Case}
    (hcase : (name, case) ∈ cases) (hnone : last_record records name.value = none) :
    ∀ member ∈ case.layout.map Piece.member, outcome.info member = info member := by
  intro member hmember
  apply h.untouched
  intro other otherCase hother hmemberOther
  have hname : other = name := by
    by_contra hne
    exact cases_disjoint _ hother _ hcase hne member hmemberOther hmember
  subst hname
  exact last_record_eq_none_iff.mp hnone

theorem decodes_nil (info : DirectLidarStateInfo) (key_mask : Finset ParamKeyName) :
    Decodes [] info key_mask { ret := true, info, key_mask } where
  ret := rfl
  keys := by simp
  last := by simp [last_record]
  untouched := fun _ _ => rfl

/-- A record with an unknown key says nothing. -/
theorem Decodes.cons_unrecognised {kv : LivoxLidarKeyValueParam}
    {records : List LivoxLidarKeyValueParam} {info : DirectLidarStateInfo}
    {key_mask : Finset ParamKeyName} {outcome : Outcome}
    (hkey : ∀ entry ∈ cases, entry.1.value ≠ kv.key)
    (h : Decodes records info key_mask outcome) :
    Decodes (kv :: records) info key_mask outcome where
  ret := h.ret
  keys := by
    intro name
    rw [h.keys name]
    apply or_congr_right
    apply and_congr_right
    rintro ⟨case, hcase⟩
    constructor
    · rintro ⟨r, hr, hvalue⟩
      exact ⟨r, List.mem_cons_of_mem _ hr, hvalue⟩
    · rintro ⟨r, hr, hvalue⟩
      obtain rfl | hr := List.mem_cons.mp hr
      · exact absurd hvalue.symm (hkey _ hcase)
      · exact ⟨r, hr, hvalue⟩
  last := by
    intro name case hcase r hlast
    rw [last_record_cons, if_neg fun heq => hkey _ hcase heq.symm] at hlast
    exact h.last name case hcase r hlast
  untouched := by
    intro member hmember
    apply h.untouched
    intro name case hcase hin r hr
    exact hmember name case hcase hin r (List.mem_cons_of_mem _ hr)

/-- A record with a known key says the value of the key, until the key comes
again. -/
theorem Decodes.cons_recognised {kv : LivoxLidarKeyValueParam}
    {records : List LivoxLidarKeyValueParam} {info first : DirectLidarStateInfo}
    {key_mask : Finset ParamKeyName} {outcome : Outcome} {name : ParamKeyName} {case : Case}
    (hcase : (name, case) ∈ cases) (hkey : name.value = kv.key)
    (hholds : case.Holds kv.value first)
    (hothers : ∀ other, other ∉ case.layout.map Piece.member → first other = info other)
    (h : Decodes records first (insert name key_mask) outcome) :
    Decodes (kv :: records) info key_mask outcome where
  ret := h.ret
  keys := by
    intro other
    rw [h.keys other, Finset.mem_insert]
    constructor
    · rintro ((rfl | hin) | ⟨hknown, r, hr, hvalue⟩)
      · exact Or.inr ⟨⟨case, hcase⟩, kv, List.mem_cons_self, hkey.symm⟩
      · exact Or.inl hin
      · exact Or.inr ⟨hknown, r, List.mem_cons_of_mem _ hr, hvalue⟩
    · rintro (hin | ⟨⟨otherCase, hother⟩, r, hr, hvalue⟩)
      · exact Or.inl (Or.inr hin)
      · obtain rfl | hr := List.mem_cons.mp hr
        · exact Or.inl (Or.inl (cases_name_unique hother hcase (hvalue.symm.trans hkey.symm)))
        · exact Or.inr ⟨⟨otherCase, hother⟩, r, hr, hvalue⟩
  last := by
    intro other otherCase hother r hlast
    rw [last_record_cons] at hlast
    by_cases hsame : kv.key = other.value
    · obtain rfl : other = name := cases_name_unique hother hcase (hsame.symm.trans hkey.symm)
      obtain rfl := cases_case_unique hother hcase
      rw [if_pos hsame] at hlast
      cases hrest : last_record records other.value with
      | some later =>
        rw [hrest] at hlast
        cases hlast
        exact h.last other otherCase hother later hrest
      | none =>
        rw [hrest] at hlast
        cases hlast
        exact hholds.congr (h.key_untouched hother hrest)
    · rw [if_neg hsame] at hlast
      exact h.last other otherCase hother r hlast
  untouched := by
    intro member hmember
    rw [h.untouched member fun other otherCase hother hin r hr =>
      hmember other otherCase hother hin r (List.mem_cons_of_mem _ hr)]
    apply hothers
    intro hin
    exact hmember name case hcase hin kv List.mem_cons_self hkey.symm

/-- The loop over the records of a message. -/
theorem parse_records_decodes {packet : CommPacket} {records : List LivoxLidarKeyValueParam}
    (hrecords : ∀ kv ∈ records, WellFormed kv) {offset : UInt16}
    (hload : (packet.data.add offset.toNat).load (records.flatMap (·.encode)).length =
      records.flatMap (·.encode))
    (hend : offset.toNat + (records.flatMap (·.encode)).length = packet.data_len.toNat)
    (info : DirectLidarStateInfo) (key_mask : Finset ParamKeyName) :
    ∃ outcome, parse_records packet records.length offset info key_mask = .ok outcome ∧
      Decodes records info key_mask outcome := by
  induction records generalizing offset info key_mask with
  | nil => exact ⟨_, rfl, decodes_nil info key_mask⟩
  | cons kv records ih =>
    rw [List.flatMap_cons] at hload hend
    rw [List.length_append] at hend
    have hkv := hrecords kv (by simp)
    have hrest := fun r hr => hrecords r (List.mem_cons_of_mem kv hr)
    have hpos := hkv.value_length_pos
    have hencode := length_encode kv
    -- the record itself, and what lies behind it
    have hfront := load_middle [] kv.encode _ hload
    have hback := load_middle kv.encode (records.flatMap (·.encode)) []
      (hload.trans (by rw [List.append_nil]))
    rw [List.length_nil, Nat.add_zero] at hfront
    have hfits : offset.toNat + kv.encode.length ≤ packet.data_len.toNat := by omega
    obtain ⟨_, _, hnext, _⟩ := decode_record_head hkv.length hfront hfits info key_mask
    have hback' : (packet.data.add (offset + 2 + 2 + kv.length).toNat).load
        (records.flatMap (·.encode)).length = records.flatMap (·.encode) := by
      rw [hnext]
      rw [Pointer.add_offset, Nat.add_assoc] at hback
      exact hback
    have hroom : ¬ offset.toNat + key_value_param_size > packet.data_len.toNat := by
      rw [key_value_param_size]
      omega
    rw [List.length_cons, parse_records, if_neg hroom]
    by_cases hknown : ∀ entry ∈ cases, entry.1.value ≠ kv.key
    · obtain ⟨outcome, hparse, hdecodes⟩ := ih hrest hback' (by omega) info key_mask
      refine ⟨outcome, ?_, hdecodes.cons_unrecognised hknown⟩
      rw [decode_record_unrecognised hkv.length hfront hfits hknown, ok_bind]
      exact hparse
    · push Not at hknown
      obtain ⟨⟨name, case⟩, hcase, hkey⟩ := hknown
      obtain ⟨first, hrecord, hholds, hothers⟩ := decode_record_recognised hkv.length hfront hfits
        hcase hkey (hkv.recognised _ hcase hkey) info key_mask
      obtain ⟨outcome, hparse, hdecodes⟩ := ih hrest hback' (by omega) first (insert name key_mask)
      refine ⟨outcome, ?_, hdecodes.cons_recognised hcase hkey hholds hothers⟩
      rw [hrecord, ok_bind]
      exact hparse

/-- A message: the number of its records, two bytes that are not used, and the
records. -/
def encode_message (rsvd : List UInt8) (records : List LivoxLidarKeyValueParam) : List UInt8 :=
  bytes 2 records.length ++ (rsvd ++ records.flatMap (·.encode))

/-- Each record takes at least five bytes. -/
theorem length_records_le {records : List LivoxLidarKeyValueParam}
    (hrecords : ∀ kv ∈ records, WellFormed kv) :
    5 * records.length ≤ (records.flatMap (·.encode)).length := by
  induction records with
  | nil => simp
  | cons kv records ih =>
    have hpos := (hrecords kv (by simp)).value_length_pos
    have hrest := ih fun r hr => hrecords r (List.mem_cons_of_mem kv hr)
    rw [List.flatMap_cons, List.length_append, List.length_cons, length_encode]
    omega

/-- Every well-formed message is decoded to what it says. -/
theorem parse_state_info_decodes {packet : CommPacket} {rsvd : List UInt8}
    {records : List LivoxLidarKeyValueParam} (hrsvd : rsvd.length = 2)
    (hrecords : ∀ kv ∈ records, WellFormed kv)
    (hpayload : packet.payload = encode_message rsvd records) (info : DirectLidarStateInfo)
    (key_mask : Finset ParamKeyName) :
    ∃ outcome, parse_state_info packet info key_mask = .ok outcome ∧
      Decodes records info key_mask outcome := by
  have hdata := packet.data_len.toNat_lt
  have hcount := length_records_le hrecords
  have hlen : packet.data_len.toNat = 4 + (records.flatMap (·.encode)).length := by
    have h := congrArg List.length hpayload
    rw [CommPacket.payload, Pointer.length_load, encode_message, List.length_append,
      List.length_append, length_bytes, hrsvd] at h
    omega
  have hhead := load_middle [] (bytes 2 records.length) _ hpayload
  have hbody := load_middle (bytes 2 records.length ++ rsvd) (records.flatMap (·.encode)) []
    (hpayload.trans (by simp [encode_message]))
  rw [length_bytes, List.length_nil, Nat.add_zero] at hhead
  rw [List.length_append, length_bytes, hrsvd] at hbody
  have hnum : (UInt16.ofNat records.length).toNat = records.length := by
    rw [UInt16.toNat_ofNat']
    omega
  have hkey_num : packet.read_u16 0 = .ok (UInt16.ofNat records.length) := by
    have hfits : (0 : UInt16).toNat + 2 ≤ packet.data_len.toNat := by
      show 0 + 2 ≤ _
      omega
    rw [CommPacket.read_u16_fits hfits]
    congr 1
    apply Pointer.u16_of_load
    rw [hnum]
    exact hhead
  obtain ⟨outcome, hparse, hdecodes⟩ :=
    @parse_records_decodes packet records hrecords 4 hbody (by rw [hlen]; rfl) info key_mask
  refine ⟨outcome, ?_, hdecodes⟩
  rw [parse_state_info, hkey_num, ok_bind, hnum]
  exact hparse

/-- Every member belongs to the value of some key. -/
theorem cases_cover (member : Member) :
    ∃ name case, (name, case) ∈ cases ∧ member ∈ case.layout.map Piece.member := by
  have h : ∀ member : Member, ∃ entry ∈ cases, member ∈ entry.2.layout.map Piece.member := by
    intro member
    cases member <;> decide
  obtain ⟨⟨name, case⟩, hcase, hmember⟩ := h member
  exact ⟨name, case, hcase, hmember⟩

section Fields

/-- A record whose value has the length that it says, which is the one of the field of its key; a key
without a field has at least one byte. -/
structure Sized (kv : LivoxLidarKeyValueParam) : Prop where
  length : kv.length.toNat = kv.value.length
  recognised : ∀ member : Member, member.key.value = kv.key → kv.value.length = member.wire_size
  unrecognised : (∀ member : Member, member.key.value ≠ kv.key) → 1 ≤ kv.value.length

/-- The switch has a case for each key that a field comes under, with that field in its place. -/
theorem cases_fields : ∀ entry ∈ cases, entry.2.layout ≠ [] ∧ ∀ piece ∈ entry.2.layout,
    piece = piece.member.piece ∧ piece.member.key = entry.1 ∧
      piece.member.wire_size = entry.2.wire_size := by
  decide +kernel

/-- The case of a field. -/
theorem exists_case (member : Member) :
    ∃ case, (member.key, case) ∈ cases ∧ member.piece ∈ case.layout := by
  obtain ⟨name, case, hcase, hmember⟩ := cases_cover member
  obtain ⟨piece, hpiece, rfl⟩ := List.mem_map.mp hmember
  obtain ⟨hsame, hkey, -⟩ := (cases_fields _ hcase).2 piece hpiece
  exact ⟨case, hkey ▸ hcase, hsame ▸ hpiece⟩

/-- The field of a case. -/
theorem exists_member {name : ParamKeyName} {case : Case} (hcase : (name, case) ∈ cases) :
    ∃ member : Member, member.key = name ∧ member.wire_size = case.wire_size := by
  obtain ⟨hlayout, hfields⟩ := cases_fields _ hcase
  obtain ⟨piece, hpiece⟩ := List.exists_mem_of_ne_nil _ hlayout
  obtain ⟨-, hkey, hsize⟩ := hfields piece hpiece
  exact ⟨piece.member, hkey, hsize⟩

theorem Sized.well_formed {kv : LivoxLidarKeyValueParam} (h : Sized kv) : WellFormed kv where
  length := h.length
  recognised := by
    rintro ⟨name, case⟩ hcase hkey
    obtain ⟨member, rfl, hsize⟩ := exists_member hcase
    exact (h.recognised member hkey).trans hsize
  unrecognised := fun hnone => h.unrecognised fun member hkey => by
    obtain ⟨case, hcase, -⟩ := exists_case member
    exact hnone _ hcase hkey

end Fields

/-- The decoding of a message from an empty key set: it succeeds, with the keys of the fields that occur,
in each field what the last record with its key says, and all other fields as they were. -/
theorem parse_state_info_well_formed (packet : CommPacket) (rsvd : List UInt8)
    (records : List LivoxLidarKeyValueParam) (info : DirectLidarStateInfo)
    (hrsvd : rsvd.length = 2) (hrecords : ∀ kv ∈ records, Sized kv)
    (hpayload : packet.payload = encode_message rsvd records) :
    ∃ outcome, parse_state_info packet info ∅ = .ok outcome ∧ outcome.ret = true ∧
      (∀ name, name ∈ outcome.key_mask ↔
        (∃ member : Member, member.key = name) ∧ ∃ kv ∈ records, kv.key = name.value) ∧
      (∀ (member : Member) (kv : LivoxLidarKeyValueParam),
        last_record records member.key.value = some kv → member.Shows kv.value outcome.info) ∧
      (∀ member : Member, (∀ kv ∈ records, kv.key ≠ member.key.value) →
        outcome.info member = info member) := by
  obtain ⟨outcome, hparse, hdecodes⟩ := parse_state_info_decodes hrsvd
    (fun kv hkv => (hrecords kv hkv).well_formed) hpayload info ∅
  refine ⟨outcome, hparse, hdecodes.ret, fun name => ?_, fun member kv hlast => ?_,
    fun member hnone => hdecodes.untouched member fun name case hcase hmember => ?_⟩
  · have hknown : (∃ case, (name, case) ∈ cases) ↔ ∃ member : Member, member.key = name := by
      constructor
      · rintro ⟨case, hcase⟩
        obtain ⟨member, hkey, -⟩ := exists_member hcase
        exact ⟨member, hkey⟩
      · rintro ⟨member, rfl⟩
        obtain ⟨case, hcase, -⟩ := exists_case member
        exact ⟨case, hcase⟩
    rw [hdecodes.keys name, hknown]
    simp
  · obtain ⟨case, hcase, hpiece⟩ := exists_case member
    exact hdecodes.last member.key case hcase kv hlast member.piece hpiece
  · obtain ⟨piece, hpiece, rfl⟩ := List.mem_map.mp hmember
    obtain ⟨-, rfl, -⟩ := (cases_fields _ hcase).2 piece hpiece
    exact hnone

/-- A packet with a payload. -/
def packet_of (payload : List UInt8) : CommPacket where
  protocol := kLidarSdk
  version := 0
  seq_num := 0
  cmd_id := 0x0102
  cmd_type := 0
  sender_type := 1
  data := { block := fun i => payload[i]?.getD 0, offset := 0 }
  data_len := UInt16.ofNat payload.length

/-- A pattern mode, a key that nobody knows, an address, and the pattern mode
again. -/
def sample_records : List LivoxLidarKeyValueParam :=
  [{ key := 0x0001, length := 1, value := [1] }, { key := 0x7777, length := 3, value := [9, 9, 9] },
    { key := 0x0025, length := 4, value := [192, 168, 1, 5] },
    { key := 0x0001, length := 1, value := [2] }]

theorem sample_records_sized : ∀ kv ∈ sample_records, Sized kv := by
  have h : ∀ kv ∈ sample_records, kv.length.toNat = kv.value.length ∧ 1 ≤ kv.value.length ∧
      (∀ entry ∈ cases, ∀ piece ∈ entry.2.layout,
        piece.member.key.value = kv.key → kv.value.length = piece.member.wire_size) := by
    decide +kernel
  intro kv hkv
  obtain ⟨hlength, hpos, hfields⟩ := h kv hkv
  refine ⟨hlength, fun member hkey => ?_, fun _ => hpos⟩
  obtain ⟨name, case, hcase, hmember⟩ := cases_cover member
  obtain ⟨piece, hpiece, rfl⟩ := List.mem_map.mp hmember
  exact hfields _ hcase piece hpiece hkey

def blank_info : DirectLidarStateInfo := fun member =>
  ⟨List.replicate member.size 0, List.length_replicate⟩

theorem parse_state_info_sample :
    ∃ outcome,
      parse_state_info (packet_of (encode_message [0, 0] sample_records)) blank_info ∅ =
        .ok outcome ∧
      outcome.ret = true ∧ ParamKeyName.kKeyPatternMode ∈ outcome.key_mask ∧
      (outcome.info .pattern_mode).1 = [2] := by
  obtain ⟨outcome, hparse, hret, hkeys, hlast, _⟩ := parse_state_info_well_formed
    (packet_of (encode_message [0, 0] sample_records)) [0, 0] sample_records blank_info rfl
    sample_records_sized (by decide +kernel)
  refine ⟨outcome, hparse, hret, (hkeys _).mpr ⟨⟨.pattern_mode, rfl⟩, by decide⟩, ?_⟩
  exact hlast .pattern_mode { key := 0x0001, length := 1, value := [2] } (by decide)

end parse_lidar_state_info

end livox_lidar
