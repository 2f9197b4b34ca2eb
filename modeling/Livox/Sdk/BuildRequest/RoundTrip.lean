import Livox.Sdk.BuildRequest
import Livox.Sdk.ParseLidarStateInfo.WellFormed

open memory checked

namespace livox_lidar

namespace build_request

@[simp] theorem build_bind {α β : Type} (a : α) (f : α → Build β) :
    ((Except.ok a : Build α) >>= f) = f a := rfl

section Addresses

/-- Decimal digits that spell a byte, with zeros in front or without. -/
def Numeral (digits : List UInt8) (b : UInt8) : Prop :=
  digits ≠ [] ∧ (∀ c ∈ digits, isdigit c = true) ∧ decimal digits = b.toNat

/-- The text is the address, as four numbers with dots between them. -/
def DottedQuad (text ip : List UInt8) : Prop :=
  ip.length = 4 ∧ ∃ numerals, List.Forall₂ Numeral numerals ip ∧
    text = List.intercalate [46] numerals

/-- The array of characters holds the text of the address. -/
def Spells (storage : Bytes 16) (ip : List UInt8) : Prop :=
  Terminated storage.1 ∧ DottedQuad (string storage.1) ip

theorem isdigit_iff (c : UInt8) : isdigit c = true ↔ 48 ≤ c.toNat ∧ c.toNat ≤ 57 := by
  simp [isdigit, UInt8.le_iff_toNat_le]

theorem isspace_of_isdigit {c : UInt8} (h : isdigit c = true) : isspace c = false := by
  rw [isdigit_iff] at h
  simp only [isspace, Bool.or_eq_false_iff, Bool.and_eq_false_iff, decide_eq_false_iff_not,
    UInt8.le_iff_toNat_le, ← UInt8.toNat_inj, UInt8.reduceToNat]
  omega

/-- A digit is no sign. -/
theorem sign_of_isdigit {c : UInt8} {rest : List UInt8} (hc : isdigit c = true) :
    sign (c :: rest) = (1, c :: rest) := by
  have hrange := (isdigit_iff c).mp hc
  have hminus : c ≠ 45 := by
    rintro rfl
    exact absurd hrange.1 (by decide)
  have hplus : c ≠ 43 := by
    rintro rfl
    exact absurd hrange.1 (by decide)
  rw [sign, if_neg hminus, if_neg hplus]

theorem stoi_numeral {digits : List UInt8} {b : UInt8} (h : Numeral digits b) :
    stoi digits = .ok b.toNat := by
  obtain ⟨hne, hdigits, hvalue⟩ := h
  have hb := b.toNat_lt
  obtain ⟨c, rest, rfl⟩ := List.exists_cons_of_ne_nil hne
  have hc := hdigits c (by simp)
  have hblank : (c :: rest).dropWhile isspace = c :: rest :=
    List.dropWhile_cons_of_neg (by rw [isspace_of_isdigit hc]; exact Bool.false_ne_true)
  have htake : (c :: rest).takeWhile isdigit = c :: rest :=
    List.takeWhile_eq_self_iff.mpr hdigits
  simp only [stoi, hblank, sign_of_isdigit hc, htake, hvalue, Int.one_mul]
  rw [if_neg (List.cons_ne_nil c rest), if_neg (by omega)]

theorem read_octet_numeral {digits : List UInt8} {b : UInt8} (h : Numeral digits b) :
    read_octet digits = .ok b := by
  have hb := b.toNat_lt
  rw [read_octet, stoi_numeral h]
  show (if (b.toNat : Int) < 0 ∨ (b.toNat : Int) > 256 then _ else _) = _
  rw [if_neg (by omega), Int.toNat_natCast, UInt8.ofNat_toNat]

theorem read_octets_numerals {numerals : List (List UInt8)} {ip : List UInt8}
    (h : List.Forall₂ Numeral numerals ip) : read_octets numerals = .ok ip := by
  induction h with
  | nil => rfl
  | @cons digits b rest more hfirst hrest ih =>
    cases hrest with
    | nil =>
      rw [read_octets, if_neg hfirst.1, read_octet_numeral hfirst]
      rfl
    | cons hsecond hthird =>
      rw [read_octets, read_octet_numeral hfirst, ih]
      · rfl
      · simp

theorem ip_to_u8_dotted {text ip : List UInt8} (h : DottedQuad text ip) :
    ip_to_u8 text = .ok ip := by
  obtain ⟨hlen, numerals, hnumerals, rfl⟩ := h
  have hne : numerals ≠ [] := by
    rintro rfl
    cases hnumerals
    cases hlen
  have hdots : ∀ digits ∈ numerals, 46 ∉ digits := by
    intro digits hdigits hdot
    obtain ⟨i, hi⟩ := List.mem_iff_get.mp hdigits
    have hnumeral := hnumerals.get i.2 (hnumerals.length_eq ▸ i.2)
    rw [List.get_eq_getElem] at hi hnumeral
    rw [hi] at hnumeral
    exact absurd ((isdigit_iff 46).mp (hnumeral.2.1 46 hdot)).1 (by decide)
  rw [ip_to_u8, List.splitOn_intercalate 46 hdots hne, read_octets_numerals hnumerals]
  show (if ip.length ≠ 4 then _ else _) = _
  rw [if_neg (not_not.mpr hlen)]

theorem c_str_spells {storage : Bytes 16} {ip : List UInt8} (h : Spells storage ip) :
    ∃ text, c_str storage = .ok text ∧ ip_to_u8 text = .ok ip := by
  refine ⟨string storage.1, ?_, ip_to_u8_dotted h.2⟩
  rw [c_str, readString_eq_ok_iff.mpr ⟨h.1, rfl⟩]

end Addresses

section Settings

/-- One network setting: the addresses, the port of the host and that of the lidar. -/
inductive Setting where
  | lidar_ip (ip_addr net_mask gw_addr : List UInt8)
  | ntp_server (host_ip : List UInt8)
  | host_state_info (host_ip : List UInt8) (host_port lidar_port : UInt16)
  | host_point_data (host_ip : List UInt8) (host_port lidar_port : UInt16)
  | host_imu_data (host_ip : List UInt8) (host_port lidar_port : UInt16)

namespace Setting

def key : Setting → ParamKeyName
  | lidar_ip .. => .kKeyLidarIpCfg
  | ntp_server _ => .kKeySetNTPServerIp
  | host_state_info .. => .kKeyStateInfoHostIpCfg
  | host_point_data .. => .kKeyLidarPointDataHostIpCfg
  | host_imu_data .. => .kKeyLidarImuHostIpCfg

def value : Setting → List UInt8
  | lidar_ip ip_addr net_mask gw_addr => ip_addr ++ (net_mask ++ gw_addr)
  | ntp_server host_ip => host_ip
  | host_state_info host_ip host_port lidar_port | host_point_data host_ip host_port lidar_port
  | host_imu_data host_ip host_port lidar_port =>
    host_ip ++ (bytes 2 host_port.toNat ++ bytes 2 lidar_port.toNat)

/-- The length of the value, when its addresses have four bytes each. -/
def size : Setting → UInt16
  | lidar_ip .. => 12
  | ntp_server _ => 4
  | _ => 8

/-- The record of the setting. -/
def record (setting : Setting) : LivoxLidarKeyValueParam where
  key := setting.key.value
  length := setting.size
  value := setting.value

def Valid : Setting → Prop
  | lidar_ip ip_addr net_mask gw_addr =>
    ip_addr.length = 4 ∧ net_mask.length = 4 ∧ gw_addr.length = 4
  | ntp_server host_ip | host_state_info host_ip _ _ | host_point_data host_ip _ _
  | host_imu_data host_ip _ _ => host_ip.length = 4

/-- The member holds the address in canonical form. -/
def ShowsAddress (info : DirectLidarStateInfo) (member : direct_lidar_state_info.Member)
    (ip : List UInt8) : Prop :=
  string (info member).1 = ip_string ip ∧ Terminated (info member).1

/-- The state shows the setting, in the members that it is about. -/
def ReadBack (info : DirectLidarStateInfo) : Setting → Prop
  | lidar_ip ip_addr net_mask gw_addr =>
    ShowsAddress info .lidar_ipcfg_ip_addr ip_addr ∧
      ShowsAddress info .lidar_ipcfg_net_mask net_mask ∧
      ShowsAddress info .lidar_ipcfg_gw_addr gw_addr
  | ntp_server host_ip => ShowsAddress info .ntp_server_ip_host_ip host_ip
  | host_state_info host_ip host_port lidar_port =>
    ShowsAddress info .host_state_info_host_ip_addr host_ip ∧
      memory.value (info .host_state_info_host_state_info_port).1 = host_port.toNat ∧
      memory.value (info .host_state_info_lidar_state_info_port).1 = lidar_port.toNat
  | host_point_data host_ip host_port lidar_port =>
    ShowsAddress info .pointcloud_host_ipcfg_host_ip_addr host_ip ∧
      memory.value (info .pointcloud_host_ipcfg_host_point_data_port).1 = host_port.toNat ∧
      memory.value (info .pointcloud_host_ipcfg_lidar_point_data_port).1 = lidar_port.toNat
  | host_imu_data host_ip host_port lidar_port =>
    ShowsAddress info .imu_host_ipcfg_host_ip_addr host_ip ∧
      memory.value (info .imu_host_ipcfg_host_imu_data_port).1 = host_port.toNat ∧
      memory.value (info .imu_host_ipcfg_lidar_imu_data_port).1 = lidar_port.toNat

theorem size_eq {setting : Setting} (h : setting.Valid) :
    setting.size.toNat = setting.value.length := by
  cases setting <;> simp_all [Valid, size, value]

end Setting

end Settings

section Records

/-- The request holds the number of keys and the records, with nothing between them
but the two bytes that are not used. -/
structure Holds (req : Request) (key_num : UInt16) (records : List LivoxLidarKeyValueParam) :
    Prop where
  buf : req.req_buf = store Request.zero.req_buf 0
    (bytes 2 key_num.toNat ++ ([0, 0] ++ records.flatMap (·.encode)))
  len : req.req_len.toNat = 4 + (records.flatMap (·.encode)).length

theorem set_key_num_holds (key_num : UInt16) : Holds (Request.zero.set_key_num key_num) key_num [] where
  len := rfl
  buf := by
    have hrsvd : store (store Request.zero.req_buf 0 (bytes 2 key_num.toNat)) 2 [0, 0] =
        store Request.zero.req_buf 0 (bytes 2 key_num.toNat) := by
      rw [store_eq_self_iff, load_store_disjoint _ (Or.inr (by simp))]
      rfl
    rw [store_behind _ (by simp)] at hrsvd
    exact hrsvd.symm

/-- A record that has been written behind the others. -/
theorem Holds.add {req next : Request} {key_num : UInt16} {records : List LivoxLidarKeyValueParam}
    {setting : Setting} (h : Holds req key_num records) (hvalid : setting.Valid)
    (hroom : (records.flatMap (·.encode)).length < 65000)
    (hbuf : next.req_buf = store req.req_buf req.req_len.toNat setting.record.encode)
    (hlen : next.req_len = req.req_len + (5 - 1 + setting.size)) :
    Holds next key_num (records ++ [setting.record]) where
  buf := by
    rw [hbuf, h.buf, h.len, store_behind _ (by simp; omega)]
    simp
  len := by
    have hsize := Setting.size_eq hvalid
    have hsmall : setting.size.toNat ≤ 12 := by cases setting <;> simp [Setting.size]
    have hrecord := parse_lidar_state_info.length_encode setting.record
    have hfour : (5 - 1 : UInt16) = 4 := rfl
    rw [hlen, hfour, UInt16.toNat_add, UInt16.toNat_add, h.len, List.flatMap_append,
      List.length_append, List.flatMap_singleton, hrecord]
    simp only [Setting.record, UInt16.reduceToNat]
    omega

/-- The four writes of a record with an address and two ports. -/
theorem host_record_buf (req : Request) (key : ParamKeyName) {ip : List UInt8}
    (hip : ip.length = 4) (host_port lidar_port : UInt16) :
    (set_ports host_port lidar_port ((req.set_key key 8).write 4 ip)).req_buf =
      store req.req_buf req.req_len.toNat (bytes 2 key.value.toNat ++ (bytes 2 8 ++
        (ip ++ (bytes 2 host_port.toNat ++ bytes 2 lidar_port.toNat)))) := by
  simp only [set_ports, Request.add_record, Request.set_key, Request.write, Nat.add_zero]
  simp (disch := simp [hip]) only [store_behind]
  simp

theorem host_record_len (req : Request) (key : ParamKeyName) (ip : List UInt8)
    (host_port lidar_port : UInt16) :
    (set_ports host_port lidar_port ((req.set_key key 8).write 4 ip)).req_len =
      req.req_len + (5 - 1 + 8) := rfl

theorem lidar_ip_record_buf (req : Request) {ip_addr net_mask gw_addr : List UInt8}
    (hip : ip_addr.length = 4) (hmask : net_mask.length = 4) :
    (((((req.set_key .kKeyLidarIpCfg 12).write 4 ip_addr).write 8 net_mask).write 12
        gw_addr).add_record 12).req_buf =
      store req.req_buf req.req_len.toNat
        (Setting.lidar_ip ip_addr net_mask gw_addr).record.encode := by
  simp only [Request.add_record, Request.set_key, Request.write, Nat.add_zero]
  simp (disch := simp [hip, hmask]) only [store_behind]
  simp [LivoxLidarKeyValueParam.encode, Setting.record, Setting.key, Setting.size, Setting.value]

theorem ntp_server_record_buf (req : Request) (ip : List UInt8) :
    (((req.set_key .kKeySetNTPServerIp 4).write 4 ip).add_record 4).req_buf =
      store req.req_buf req.req_len.toNat (Setting.ntp_server ip).record.encode := by
  simp only [Request.add_record, Request.set_key, Request.write, Nat.add_zero]
  simp (disch := simp) only [store_behind]
  simp [LivoxLidarKeyValueParam.encode, Setting.record, Setting.key, Setting.size, Setting.value]

/-- Writing an address over another one leaves the other one nowhere. -/
theorem write_over (req : Request) (offset : Nat) {ip other : List UInt8}
    (hlen : ip.length = other.length) :
    (req.write offset ip).write offset other = req.write offset other := by
  simp only [Request.write, store_over _ _ hlen]

/-- The records of a request with the three kinds of host settings. -/
theorem Holds.add_host {req : Request} {key_num : UInt16}
    {records : List LivoxLidarKeyValueParam} (h : Holds req key_num records)
    (hroom : (records.flatMap (·.encode)).length < 65000) {setting : Setting} {ip : List UInt8}
    {host_port lidar_port : UInt16} {key : ParamKeyName} (hvalid : setting.Valid)
    (hip : ip.length = 4) (hkey : setting.key = key) (hsize : setting.size = 8)
    (hvalue : setting.value = ip ++ (bytes 2 host_port.toNat ++ bytes 2 lidar_port.toNat)) :
    Holds (set_ports host_port lidar_port ((req.set_key key 8).write 4 ip)) key_num
      (records ++ [setting.record]) := by
  apply h.add hvalid hroom
  · rw [host_record_buf req key hip, LivoxLidarKeyValueParam.encode]
    simp only [Setting.record, hkey, hsize, hvalue, UInt16.reduceToNat]
  · rw [host_record_len, hsize]

end Records

section Calls

/-- A call of one of the builders. -/
inductive BuildCall where
  | update_view_lidar_cfg (info : ViewLidarIpInfo)
  | update_mid360_lidar_cfg (lidar_cfg : LivoxLidarCfg)
  | update_avia2_lidar_cfg (lidar_cfg : LivoxLidarCfg)
  | update_lidar_cfg (lidar_cfg : LivoxLidarCfg)
  | set_lidar_ip_info (lidar_ip_config : LivoxLidarIpInfo)
  | set_ntp_server_ip_info (server_ip_config : NTPServerIpInfo)
  | set_host_state_info_ip_cfg (host_ip_cfg : HostIpInfo)
  | set_host_point_data_ip_info (host_ip_cfg : HostIpInfo)
  | set_host_imu_data_ip_info (host_ip_cfg : HostIpInfo)

def BuildCall.run : BuildCall → Request → Build Request
  | update_view_lidar_cfg info => build_update_view_lidar_cfg_request info
  | update_mid360_lidar_cfg lidar_cfg => build_update_mid360_lidar_cfg_request lidar_cfg
  | update_avia2_lidar_cfg lidar_cfg => build_update_avia2_lidar_cfg_request lidar_cfg
  | update_lidar_cfg lidar_cfg => build_update_lidar_cfg_request lidar_cfg
  | set_lidar_ip_info lidar_ip_config => build_set_lidar_ip_info_request lidar_ip_config
  | set_ntp_server_ip_info server_ip_config =>
    build_set_ntp_server_ip_info_request server_ip_config
  | set_host_state_info_ip_cfg host_ip_cfg => build_set_host_state_info_ip_cfg_request host_ip_cfg
  | set_host_point_data_ip_info host_ip_cfg =>
    build_set_host_point_data_ip_info_request host_ip_cfg
  | set_host_imu_data_ip_info host_ip_cfg => build_set_host_imu_data_ip_info_request host_ip_cfg

/-- The address that the lidar should send to: the multicast address where one is
configured. -/
def Addressed (net : HostNetInfo) (ip : List UInt8) : Prop :=
  if net.multicast_ip = [] then DottedQuad net.host_ip ip else DottedQuad net.multicast_ip ip

/-- The ports from which a lidar of the type sends points and IMU data, for the
types that the generic builder knows; the PA has no IMU. -/
def lidar_ports (device_type : UInt8) : Option (UInt16 × Option UInt16) :=
  if device_type = 10 then some (57000, some 58000)
  else if device_type = 16 then some (10000, none)
  else if device_type = 9 ∨ device_type = 35 ∨ device_type = 40 then some (56300, some 56400)
  else none

/-- The settings that a call asks for: its addresses are dotted quads, and its type
of device is one that the builder knows. -/
inductive BuildCall.Configures : BuildCall → List Setting → Prop
  | view_pa {info ip} (htype : info.dev_type = 16) (hip : DottedQuad info.host_ip ip) :
    Configures (.update_view_lidar_cfg info)
      [.host_point_data ip info.host_point_port info.lidar_point_port]
  | view {info ip} (htype : info.dev_type ≠ 16) (hip : DottedQuad info.host_ip ip) :
    Configures (.update_view_lidar_cfg info)
      [.host_point_data ip info.host_point_port info.lidar_point_port,
        .host_imu_data ip info.host_imu_data_port info.lidar_imu_data_port]
  | mid360 {cfg host ip} (hhost : DottedQuad cfg.host_net_info.host_ip host)
    (hip : Addressed cfg.host_net_info ip) :
    Configures (.update_mid360_lidar_cfg cfg)
      [.host_state_info ip cfg.host_net_info.push_msg_port 56200,
        .host_point_data ip cfg.host_net_info.point_data_port 56300,
        .host_imu_data ip cfg.host_net_info.imu_data_port 56400]
  | avia2 {cfg host ip} (hhost : DottedQuad cfg.host_net_info.host_ip host)
    (hip : Addressed cfg.host_net_info ip) :
    Configures (.update_avia2_lidar_cfg cfg)
      [.host_state_info ip cfg.host_net_info.push_msg_port 56200,
        .host_point_data ip cfg.host_net_info.point_data_port 56300,
        .host_imu_data ip cfg.host_net_info.imu_data_port 56400]
  | generic_points {cfg ip point_port}
    (htype : lidar_ports cfg.device_type = some (point_port, none))
    (hip : Addressed cfg.host_net_info ip) :
    Configures (.update_lidar_cfg cfg)
      [.host_point_data ip cfg.host_net_info.point_data_port point_port]
  | generic {cfg ip point_port imu_port}
    (htype : lidar_ports cfg.device_type = some (point_port, some imu_port))
    (hip : Addressed cfg.host_net_info ip) :
    Configures (.update_lidar_cfg cfg)
      [.host_point_data ip cfg.host_net_info.point_data_port point_port,
        .host_imu_data ip cfg.host_net_info.imu_data_port imu_port]
  | lidar_ip {config ip_addr net_mask gw_addr} (hip : Spells config.ip_addr ip_addr)
    (hmask : Spells config.net_mask net_mask) (hgateway : Spells config.gw_addr gw_addr) :
    Configures (.set_lidar_ip_info config) [.lidar_ip ip_addr net_mask gw_addr]
  | ntp_server {config ip} (hip : Spells config.host_ip ip) :
    Configures (.set_ntp_server_ip_info config) [.ntp_server ip]
  | host_state_info {config ip} (hip : Spells config.host_ip_addr ip) :
    Configures (.set_host_state_info_ip_cfg config)
      [.host_state_info ip config.host_port config.lidar_port]
  | host_point_data {config ip} (hip : Spells config.host_ip_addr ip) :
    Configures (.set_host_point_data_ip_info config)
      [.host_point_data ip config.host_port config.lidar_port]
  | host_imu_data {config ip} (hip : Spells config.host_ip_addr ip) :
    Configures (.set_host_imu_data_ip_info config)
      [.host_imu_data ip config.host_port config.lidar_port]

theorem Addressed.length {net : HostNetInfo} {ip : List UInt8} (h : Addressed net ip) :
    ip.length = 4 := by
  unfold Addressed at h
  split at h
  · exact h.1
  · exact h.1

theorem init_host_ip_addr_eq {text ip : List UInt8} (h : DottedQuad text ip) (req : Request) :
    init_host_ip_addr text req = .ok (req.write 4 ip) := by
  rw [init_host_ip_addr, ip_to_u8_dotted h]
  rfl

theorem init_data_ip_addr_eq {net : HostNetInfo} {ip : List UInt8} (h : Addressed net ip)
    (req : Request) : init_data_ip_addr net req = .ok (req.write 4 ip) := by
  unfold Addressed at h
  unfold init_data_ip_addr
  split at h
  · rw [if_pos ‹_›]
    exact init_host_ip_addr_eq h req
  · rw [if_neg ‹_›]
    exact init_host_ip_addr_eq h req

/-- The call builds a request with the records of the settings. -/
def BuildCall.Builds (call : BuildCall) (settings : List Setting) : Prop :=
  ∃ req, call.run Request.zero = .ok req ∧
    Holds req (UInt16.ofNat settings.length) (settings.map Setting.record) ∧
    (settings.map Setting.key).Nodup ∧ ∀ setting ∈ settings, setting.Valid

theorem build_set_host_ip_cfg_request_eq {config : HostIpInfo} {ip : List UInt8}
    (hip : Spells config.host_ip_addr ip) (key : ParamKeyName) :
    build_set_host_ip_cfg_request key config Request.zero =
      .ok (set_ports config.host_port config.lidar_port
        (((Request.zero.set_key_num 1).set_key key 8).write 4 ip)) := by
  obtain ⟨text, hstr, hip⟩ := c_str_spells hip
  rw [build_set_host_ip_cfg_request, hstr]
  show (init_host_ip_addr text _ >>= _) = _
  rw [init_host_ip_addr, hip]
  rfl

/-- The request of one record. -/
theorem builds_host {call : BuildCall} {setting : Setting} {config : HostIpInfo} {ip : List UInt8}
    (hip : Spells config.host_ip_addr ip)
    (hrun : call.run Request.zero = build_set_host_ip_cfg_request setting.key config Request.zero)
    (hvalid : setting.Valid) (hsize : setting.size = 8)
    (hvalue : setting.value =
      ip ++ (bytes 2 config.host_port.toNat ++ bytes 2 config.lidar_port.toNat)) :
    call.Builds [setting] := by
  refine ⟨_, hrun.trans (build_set_host_ip_cfg_request_eq hip setting.key), ?_, by simp,
    by simpa using hvalid⟩
  exact (set_key_num_holds 1).add_host (by simp) hvalid hip.2.1 rfl hsize hvalue

/-- The records of the Mid360 and Avia2 updates. -/
theorem build_update_three_host_cfg_holds {cfg : LivoxLidarCfg} {host ip : List UInt8}
    (hhost : DottedQuad cfg.host_net_info.host_ip host) (hip : Addressed cfg.host_net_info ip)
    (state_port point_port imu_port : UInt16) :
    ∃ req, build_update_three_host_cfg state_port point_port imu_port cfg Request.zero = .ok req ∧
      Holds req 3 [(Setting.host_state_info ip cfg.host_net_info.push_msg_port state_port).record,
        (Setting.host_point_data ip cfg.host_net_info.point_data_port point_port).record,
        (Setting.host_imu_data ip cfg.host_net_info.imu_data_port imu_port).record] := by
  have hlen := hip.length
  have hstate := (set_key_num_holds 3).add_host (by simp)
    (show (Setting.host_state_info ip cfg.host_net_info.push_msg_port state_port).Valid from hlen)
    hlen rfl rfl rfl
  have hpoint := hstate.add_host
    (by simp [parse_lidar_state_info.length_encode, Setting.record, Setting.value, hlen])
    (show (Setting.host_point_data ip cfg.host_net_info.point_data_port point_port).Valid from hlen)
    hlen rfl rfl rfl
  have himu := hpoint.add_host
    (by simp [parse_lidar_state_info.length_encode, Setting.record, Setting.value, hlen])
    (show (Setting.host_imu_data ip cfg.host_net_info.imu_data_port imu_port).Valid from hlen)
    hlen rfl rfl rfl
  refine ⟨_, ?_, himu⟩
  simp only [build_update_three_host_cfg, init_host_ip_addr_eq hhost, init_data_ip_addr_eq hip]
  simp only [bind, Except.bind, pure, Except.pure, Setting.key,
    write_over _ _ (hhost.1.trans hlen.symm)]

/-- The records of a request with points and IMU data. -/
theorem two_host_holds {ip : List UInt8} (hip : ip.length = 4)
    (host_point_port lidar_point_port host_imu_port lidar_imu_port : UInt16) :
    Holds (set_ports host_imu_port lidar_imu_port (((set_ports host_point_port lidar_point_port
        (((Request.zero.set_key_num 2).set_key .kKeyLidarPointDataHostIpCfg 8).write 4 ip)).set_key
          .kKeyLidarImuHostIpCfg 8).write 4 ip)) 2
      [(Setting.host_point_data ip host_point_port lidar_point_port).record,
        (Setting.host_imu_data ip host_imu_port lidar_imu_port).record] := by
  have hpoint := (set_key_num_holds 2).add_host (by simp)
    (show (Setting.host_point_data ip host_point_port lidar_point_port).Valid from hip) hip rfl rfl rfl
  exact hpoint.add_host
    (by simp [parse_lidar_state_info.length_encode, Setting.record, Setting.value, hip])
    (show (Setting.host_imu_data ip host_imu_port lidar_imu_port).Valid from hip) hip rfl rfl rfl

theorem lidar_ports_points {device_type : UInt8} {point_port : UInt16}
    (h : lidar_ports device_type = some (point_port, none)) :
    device_type = kLivoxLidarTypePA ∧ point_port = kPaLidarPointCloudPort := by
  unfold lidar_ports at h
  split at h
  · simp at h
  · split at h
    · rename_i hpa
      simp only [Option.some.injEq, Prod.mk.injEq, and_true] at h
      exact ⟨hpa, h.symm⟩
    · split at h <;> simp at h

theorem build_update_lidar_cfg_request_eq {cfg : LivoxLidarCfg} {ip : List UInt8}
    {point_port imu_port : UInt16}
    (htype : lidar_ports cfg.device_type = some (point_port, some imu_port))
    (hip : Addressed cfg.host_net_info ip) :
    build_update_lidar_cfg_request cfg Request.zero =
      .ok (set_ports cfg.host_net_info.imu_data_port imu_port
        (((set_ports cfg.host_net_info.point_data_port point_port
          (((Request.zero.set_key_num 2).set_key .kKeyLidarPointDataHostIpCfg 8).write 4 ip)).set_key
            .kKeyLidarImuHostIpCfg 8).write 4 ip)) := by
  have htypes : cfg.device_type = 10 ∧ point_port = 57000 ∧ imu_port = 58000 ∨
      (cfg.device_type = 9 ∨ cfg.device_type = 35 ∨ cfg.device_type = 40) ∧
        point_port = 56300 ∧ imu_port = 56400 := by
    unfold lidar_ports at htype
    split at htype
    · simp only [Option.some.injEq, Prod.mk.injEq] at htype
      exact Or.inl ⟨‹_›, htype.1.symm, htype.2.symm⟩
    · split at htype
      · simp at htype
      · split at htype
        · simp only [Option.some.injEq, Prod.mk.injEq] at htype
          exact Or.inr ⟨‹_›, htype.1.symm, htype.2.symm⟩
        · cases htype
  obtain ⟨hdevice, rfl, rfl⟩ | ⟨hdevice | hdevice | hdevice, rfl, rfl⟩ := htypes <;>
  · simp [build_update_lidar_cfg_request, hdevice, kLivoxLidarTypePA, kLivoxLidarTypeMid360,
      kLivoxLidarTypeIndustrialHAP, kLivoxLidarTypeMid360s, kLivoxLidarTypeAvia2,
      init_data_ip_addr_eq hip]
    rfl

/-- Each call builds the request of the settings that it asks for. -/
theorem BuildCall.Configures.builds {call : BuildCall} {settings : List Setting}
    (h : call.Configures settings) : call.Builds settings := by
  cases h with
  | @view_pa info ip htype hip =>
    have hpoint := (set_key_num_holds 1).add_host (by simp)
      (show (Setting.host_point_data ip info.host_point_port info.lidar_point_port).Valid from
        hip.1) hip.1 rfl rfl rfl
    refine ⟨_, ?_, hpoint, by simp, by simpa [Setting.Valid] using hip.1⟩
    simp [run, build_update_view_lidar_cfg_request, htype, kLivoxLidarTypePA,
      init_host_ip_addr_eq hip]
    rfl
  | @view info ip htype hip =>
    refine ⟨_, ?_, two_host_holds hip.1 info.host_point_port info.lidar_point_port
      info.host_imu_data_port info.lidar_imu_data_port, by simp [Setting.key],
      by simpa [Setting.Valid] using hip.1⟩
    simp [run, build_update_view_lidar_cfg_request, htype, kLivoxLidarTypePA,
      init_host_ip_addr_eq hip]
    rfl
  | mid360 hhost hip =>
    obtain ⟨req, hreq, hholds⟩ := build_update_three_host_cfg_holds hhost hip 56200 56300 56400
    exact ⟨req, hreq, hholds, by simp [Setting.key],
      by simpa [Setting.Valid] using hip.length⟩
  | avia2 hhost hip =>
    obtain ⟨req, hreq, hholds⟩ := build_update_three_host_cfg_holds hhost hip 56200 56300 56400
    exact ⟨req, hreq, hholds, by simp [Setting.key],
      by simpa [Setting.Valid] using hip.length⟩
  | @generic_points cfg ip point_port htype hip =>
    obtain ⟨hpa, rfl⟩ := lidar_ports_points htype
    have hpoint := (set_key_num_holds 1).add_host (by simp)
      (show (Setting.host_point_data ip cfg.host_net_info.point_data_port
        kPaLidarPointCloudPort).Valid from hip.length) hip.length rfl rfl rfl
    refine ⟨_, ?_, hpoint, by simp, by simpa [Setting.Valid] using hip.length⟩
    simp [run, build_update_lidar_cfg_request, hpa, kLivoxLidarTypePA, kLivoxLidarTypeMid360,
      kLivoxLidarTypeIndustrialHAP, init_data_ip_addr_eq hip]
    rfl
  | @generic cfg ip point_port imu_port htype hip =>
    refine ⟨_, ?_, two_host_holds hip.length cfg.host_net_info.point_data_port point_port
      cfg.host_net_info.imu_data_port imu_port, by simp [Setting.key],
      by simpa [Setting.Valid] using hip.length⟩
    exact build_update_lidar_cfg_request_eq htype hip
  | @lidar_ip config ip_addr net_mask gw_addr hip hmask hgateway =>
    have hvalid : (Setting.lidar_ip ip_addr net_mask gw_addr).Valid :=
      ⟨hip.2.1, hmask.2.1, hgateway.2.1⟩
    obtain ⟨ip_text, hip_str, hip_addr⟩ := c_str_spells hip
    obtain ⟨mask_text, hmask_str, hmask_addr⟩ := c_str_spells hmask
    obtain ⟨gateway_text, hgateway_str, hgateway_addr⟩ := c_str_spells hgateway
    refine ⟨_, ?_, (set_key_num_holds 1).add hvalid (by simp)
      (lidar_ip_record_buf _ hip.2.1 hmask.2.1) rfl, by simp, by simpa using hvalid⟩
    simp only [run, build_set_lidar_ip_info_request, hip_str, hip_addr, hmask_str, hmask_addr,
      hgateway_str, hgateway_addr, build_bind]
    rfl
  | @ntp_server config ip hip =>
    have hvalid : (Setting.ntp_server ip).Valid := hip.2.1
    obtain ⟨text, hstr, haddr⟩ := c_str_spells hip
    refine ⟨_, ?_, (set_key_num_holds 1).add hvalid (by simp)
      (ntp_server_record_buf _ ip) rfl, by simp, by simpa using hvalid⟩
    simp only [run, build_set_ntp_server_ip_info_request, hstr, haddr, build_bind]
    rfl
  | @host_state_info config ip hip => exact builds_host hip rfl hip.2.1 rfl rfl
  | @host_point_data config ip hip => exact builds_host hip rfl hip.2.1 rfl rfl
  | @host_imu_data config ip hip => exact builds_host hip rfl hip.2.1 rfl rfl

theorem BuildCall.Configures.length_le {call : BuildCall} {settings : List Setting}
    (h : call.Configures settings) : settings.length ≤ 3 := by
  cases h <;> simp

end Calls

section Decoded

open parse_lidar_state_info

/-- The switch of the decoder takes the address cases for the settings. -/
def Setting.case : Setting → Case
  | .lidar_ip .. => .parse_lidar_ip_addr
  | .ntp_server _ => .parse_ntp_server_ip
  | .host_state_info .. => .parse_state_info_host_ip_cfg
  | .host_point_data .. => .parse_point_cloud_host_ip_cfg
  | .host_imu_data .. => .parse_imu_data_host_ip_cfg

theorem Setting.case_mem (setting : Setting) : (setting.key, setting.case) ∈ cases := by
  cases setting <;> simp [key, case, cases]

theorem Setting.value_length {setting : Setting} (h : setting.Valid) :
    setting.value.length = setting.case.wire_size := by
  cases setting <;> simp_all [Valid, value, case, Case.wire_size]

theorem Setting.well_formed {setting : Setting} (h : setting.Valid) :
    WellFormed setting.record where
  length := size_eq h
  recognised := by
    rintro ⟨name, other⟩ hother hkey
    obtain rfl := cases_name_unique hother setting.case_mem hkey
    obtain rfl := cases_case_unique hother setting.case_mem
    exact value_length h
  unrecognised := fun hunknown => absurd rfl (hunknown _ setting.case_mem)

/-- The address in the first bytes of a value. -/
theorem take_address {ip : List UInt8} (hip : ip.length = 4) (rest : List UInt8) :
    (ip ++ rest).take 4 = ip :=
  List.take_left' hip

/-- The two ports behind an address. -/
theorem drop_ports {ip : List UInt8} (hip : ip.length = 4) (host_port lidar_port : UInt16) :
    let value := ip ++ (bytes 2 host_port.toNat ++ bytes 2 lidar_port.toNat)
    (value.drop 4).take 2 = bytes 2 host_port.toNat ∧
      (value.drop 6).take 2 = bytes 2 lidar_port.toNat := by
  constructor
  · rw [List.drop_left' hip, List.take_left' (length_bytes ..)]
  · rw [← List.append_assoc, List.drop_left' (by simp [hip]),
      List.take_of_length_le (length_bytes ..).le]

theorem value_port (port : UInt16) : memory.value (bytes 2 port.toNat) = port.toNat := by
  have hport := port.toNat_lt
  rw [value_bytes]
  omega

/-- What the decoder keeps of the record of a setting is the setting. -/
theorem Setting.read_back {setting : Setting} {info : DirectLidarStateInfo} (h : setting.Valid)
    (hholds : setting.case.Holds setting.value info) : setting.ReadBack info := by
  cases setting with
  | lidar_ip ip_addr net_mask gw_addr =>
    obtain ⟨hip, hmask, hgateway⟩ := h
    have hsecond : ((ip_addr ++ (net_mask ++ gw_addr)).drop 4).take 4 = net_mask := by
      rw [List.drop_left' hip, take_address hmask]
    have hthird : ((ip_addr ++ (net_mask ++ gw_addr)).drop 8).take 4 = gw_addr := by
      rw [← List.append_assoc, List.drop_left' (by simp [hip, hmask]),
        List.take_of_length_le hgateway.le]
    simpa [Case.Holds, case, Case.layout, Case.pieces, Piece.Shows, value, ReadBack, ShowsAddress,
      take_address hip, hsecond, hthird] using hholds
  | ntp_server host_ip =>
    have hwhole : host_ip.take 4 = host_ip := List.take_of_length_le (Nat.le_of_eq h)
    simpa [Case.Holds, case, Case.layout, Case.pieces, Piece.Shows, value, ReadBack,
      ShowsAddress, hwhole] using hholds
  | host_state_info host_ip host_port lidar_port | host_point_data host_ip host_port lidar_port
  | host_imu_data host_ip host_port lidar_port =>
    have hip : host_ip.length = 4 := h
    obtain ⟨hhost, hlidar⟩ := drop_ports hip host_port lidar_port
    simp only [Case.Holds, case, Case.layout, Case.pieces, List.forall_mem_cons, Piece.Shows,
      value, UInt16.reduceToNat, if_true, Bool.false_eq_true, if_false, List.drop_zero,
      take_address hip, hhost, hlidar] at hholds
    obtain ⟨hshow, hhost_port, hlidar_port, _⟩ := hholds
    refine ⟨hshow, ?_, ?_⟩
    · rw [hhost_port, value_port]
    · rw [hlidar_port, value_port]

/-- Of records with different keys each is the last with its key. -/
theorem last_record_setting {settings : List Setting} (hnodup : (settings.map Setting.key).Nodup)
    {setting : Setting} (hmem : setting ∈ settings) :
    last_record (settings.map Setting.record) setting.key.value = some setting.record := by
  induction settings with
  | nil => cases hmem
  | cons first rest ih =>
    rw [List.map_cons, List.nodup_cons] at hnodup
    rw [List.map_cons, last_record_cons]
    have hkeys : ∀ other : Setting, other.record.key = setting.key.value ↔ other.key = setting.key :=
      fun other => ⟨fun h => cases_name_unique other.case_mem setting.case_mem h,
        fun h => congrArg ParamKeyName.value h⟩
    obtain rfl | hrest := List.mem_cons.mp hmem
    · have hnone : last_record (rest.map Setting.record) setting.key.value = none := by
        rw [last_record_eq_none_iff]
        intro kv hkv hkey
        obtain ⟨other, hother, rfl⟩ := List.mem_map.mp hkv
        exact hnodup.1 ((hkeys other).mp hkey ▸ List.mem_map_of_mem hother)
      rw [if_pos ((hkeys setting).mpr rfl), hnone]
      rfl
    · have hne : first.key ≠ setting.key := by
        intro heq
        exact hnodup.1 (heq ▸ List.mem_map_of_mem hrest)
      rw [if_neg (mt (hkeys first).mp hne)]
      exact ih hnodup.2 hrest

/-- The request as a message. -/
theorem Holds.load_eq {req : Request} {settings : List Setting} (hcount : settings.length ≤ 3)
    (h : Holds req (UInt16.ofNat settings.length) (settings.map Setting.record)) :
    load req.req_buf 0 req.req_len.toNat =
      encode_message [0, 0] (settings.map Setting.record) := by
  have hnum : (UInt16.ofNat settings.length).toNat = settings.length := by
    rw [UInt16.toNat_ofNat']
    omega
  have hmessage : bytes 2 (UInt16.ofNat settings.length).toNat ++
      ([0, 0] ++ (settings.map Setting.record).flatMap (·.encode)) =
      encode_message [0, 0] (settings.map Setting.record) := by
    rw [hnum, encode_message, List.length_map]
  rw [h.buf, hmessage]
  apply load_store_of_length
  rw [← hmessage, h.len]
  simp
  omega

/-- The decoder marks the keys of the settings, and keeps the settings. -/
theorem read_back_settings {settings : List Setting} {info : DirectLidarStateInfo}
    {outcome : Outcome} (hnodup : (settings.map Setting.key).Nodup)
    (hvalid : ∀ setting ∈ settings, setting.Valid)
    (hdecodes : Decodes (settings.map Setting.record) info ∅ outcome) :
    (∀ name, name ∈ outcome.key_mask ↔ ∃ setting ∈ settings, setting.key = name) ∧
      ∀ setting ∈ settings, setting.ReadBack outcome.info := by
  constructor
  · intro name
    rw [hdecodes.keys name]
    constructor
    · rintro (hin | ⟨⟨case, hcase⟩, kv, hkv, hkey⟩)
      · exact absurd hin (Finset.notMem_empty name)
      · obtain ⟨setting, hsetting, rfl⟩ := List.mem_map.mp hkv
        exact ⟨setting, hsetting, cases_name_unique setting.case_mem hcase hkey⟩
    · rintro ⟨setting, hsetting, rfl⟩
      exact Or.inr ⟨⟨_, setting.case_mem⟩, _, List.mem_map_of_mem hsetting, rfl⟩
  · intro setting hsetting
    exact Setting.read_back (hvalid setting hsetting)
      (hdecodes.last _ _ setting.case_mem _ (last_record_setting hnodup hsetting))

end Decoded

/-- What a builder writes to an empty request is decoded to the settings that it was
given: the request ends with its last record, counts its records, and has exactly
the keys of the settings. -/
theorem build_request_round_trip (call : BuildCall) (settings : List Setting)
    (info : DirectLidarStateInfo) (hconfigures : call.Configures settings) :
    ∃ req, call.run Request.zero = .ok req ∧
      req.req_len.toNat = 4 + (settings.map fun setting => 4 + setting.size.toNat).sum ∧
      value (load req.req_buf 0 2) = settings.length ∧
      ∀ packet : CommPacket, packet.data = { block := req.req_buf, offset := 0 } →
        packet.data_len = req.req_len →
        ∃ outcome, parse_lidar_state_info.parse_state_info packet info ∅ = .ok outcome ∧
          outcome.ret = true ∧
          (∀ name, name ∈ outcome.key_mask ↔ ∃ setting ∈ settings, setting.key = name) ∧
          ∀ setting ∈ settings, setting.ReadBack outcome.info := by
  obtain ⟨req, hrun, hholds, hnodup, hvalid⟩ := hconfigures.builds
  have hload := hholds.load_eq hconfigures.length_le
  refine ⟨req, hrun, ?_, ?_, ?_⟩
  · rw [hholds.len, List.length_flatMap, List.map_map]
    congr 2
    apply List.map_congr_left
    intro setting hsetting
    show setting.record.encode.length = _
    rw [parse_lidar_state_info.length_encode, Setting.size_eq (hvalid setting hsetting)]
    rfl
  · have hhead := load_middle [] (bytes 2 (settings.map Setting.record).length) _ hload
    have hcount := hconfigures.length_le
    rw [length_bytes, List.length_nil, Nat.add_zero, List.length_map] at hhead
    rw [hhead, value_bytes]
    omega
  · intro packet hdata hlen
    have hpayload : packet.payload =
        parse_lidar_state_info.encode_message [0, 0] (settings.map Setting.record) := by
      rw [CommPacket.payload, hdata, hlen]
      exact hload
    have hrecords : ∀ kv ∈ settings.map Setting.record, parse_lidar_state_info.WellFormed kv := by
      intro kv hkv
      obtain ⟨setting, hsetting, rfl⟩ := List.mem_map.mp hkv
      exact Setting.well_formed (hvalid setting hsetting)
    obtain ⟨outcome, hparse, hdecodes⟩ :=
      parse_lidar_state_info.parse_state_info_decodes rfl hrecords hpayload info ∅
    exact ⟨outcome, hparse, hdecodes.ret, read_back_settings hnodup hvalid hdecodes⟩

/-- The bytes of "192.168.001.05", and of "224.1.1.5". -/
def sample_cfg : LivoxLidarCfg where
  device_type := kLivoxLidarTypeMid360
  host_net_info :=
    { host_ip := [49, 57, 50, 46, 49, 54, 56, 46, 48, 48, 49, 46, 48, 53]
      multicast_ip := [50, 50, 52, 46, 49, 46, 49, 46, 53]
      push_msg_port := 56201
      point_data_port := 56301
      imu_data_port := 56401 }

theorem build_request_sample :
    ∃ req, (BuildCall.update_mid360_lidar_cfg sample_cfg).run Request.zero = .ok req ∧
      req.req_len.toNat = 40 := by
  have hhost : DottedQuad sample_cfg.host_net_info.host_ip [192, 168, 1, 5] :=
    ⟨rfl, [[49, 57, 50], [49, 54, 56], [48, 48, 49], [48, 53]], by simp [Numeral]; decide, rfl⟩
  have hgroup : Addressed sample_cfg.host_net_info [224, 1, 1, 5] :=
    ⟨rfl, [[50, 50, 52], [49], [49], [53]], by simp [Numeral]; decide, rfl⟩
  obtain ⟨req, hrun, hlen, _⟩ := build_request_round_trip _ _
    (fun member => ⟨List.replicate member.size 0, List.length_replicate⟩) (.mid360 hhost hgroup)
  exact ⟨req, hrun, hlen⟩

end build_request

end livox_lidar
