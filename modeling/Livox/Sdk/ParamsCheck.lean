import Livox.Library.Inet
import Livox.Library.OrderedMap
import Livox.Sdk.Define
import Livox.Sdk.ParseLidarStateInfo.Layout

open memory checked inet

namespace livox_lidar

def kMid360LidarCmdPort : UInt16 := 56100
def kMid360LidarLogPort : UInt16 := 56500
def kMid360sLidarCmdPort : UInt16 := 56100
def kMid360sLidarPushMsgPort : UInt16 := 56200
def kMid360sLidarLogPort : UInt16 := 56500

namespace params_check

/-- A loop of `CheckLidarIp`: the set of the addresses, unless one is there already. An empty one
is passed over, or refused for a custom lidar. -/
def check_ips (custom : Bool) (lidars_ip : Finset (List UInt8)) :
    List define.LivoxLidarCfg → Option (Finset (List UInt8))
  | [] => some lidars_ip
  | cfg :: rest =>
    let lidar_ipaddr := cfg.lidar_net_info.lidar_ipaddr
    if lidar_ipaddr = [] then if custom then none else check_ips custom lidars_ip rest
    else if lidar_ipaddr ∈ lidars_ip then none
    else check_ips custom (insert lidar_ipaddr lidars_ip) rest

/-- `CheckLidarIp`. -/
def check_lidar_ip (lidars_cfg custom_lidars_cfg : List define.LivoxLidarCfg) : Bool :=
  match check_ips false ∅ lidars_cfg with
  | none => false
  | some lidars_ip => (check_ips true lidars_ip custom_lidars_cfg).isSome

/-- A loop of `CheckLidarMulticastIp`. -/
def check_multicast_ips : List define.LivoxLidarCfg → Build Bool
  | [] => .ok true
  | cfg :: rest =>
    let multicast_ip := cfg.host_net_info.multicast_ip
    if multicast_ip = [] then check_multicast_ips rest
    else
      match build_request.ip_to_u8 multicast_ip with
      | .error .refused => .ok false
      | .error thrown => .error thrown
      | .ok vec_host_ip =>
        let net_ip := value vec_host_ip.reverse
        if net_ip ≤ 0xE0000000 ∨ net_ip > 0xEFFFFFFF then .ok false else check_multicast_ips rest

/-- `CheckLidarMulticastIp`. -/
def check_lidar_multicast_ip (lidars_cfg custom_lidars_cfg : List define.LivoxLidarCfg) : Build Bool := do
  if ← check_multicast_ips lidars_cfg then check_multicast_ips custom_lidars_cfg else pure false

/-- `CheckPort`: the ports of these types of device are set to the ones that they must be. -/
def check_port (cfg : define.LivoxLidarCfg) : define.LivoxLidarCfg :=
  if cfg.device_type = kLivoxLidarTypeMid360 then
    { cfg with
      lidar_net_info :=
        { cfg.lidar_net_info with
          cmd_data_port := kMid360LidarCmdPort
          push_msg_port := kMid360LidarPushMsgPort
          point_data_port := kMid360LidarPointCloudPort
          imu_data_port := kMid360LidarImuDataPort
          log_data_port := kMid360LidarLogPort } }
  else if cfg.device_type = kLivoxLidarTypeMid360s then
    { cfg with
      lidar_net_info :=
        { cfg.lidar_net_info with
          cmd_data_port := kMid360sLidarCmdPort
          push_msg_port := kMid360sLidarPushMsgPort
          point_data_port := kMid360sLidarPointCloudPort
          imu_data_port := kMid360sLidarImuDataPort
          log_data_port := kMid360sLidarLogPort } }
  else cfg

/-- What `Check` returns, and the lists that it has worked on. -/
structure CheckResult where
  ret : Bool
  lidars_cfg : List define.LivoxLidarCfg
  custom_lidars_cfg : List define.LivoxLidarCfg

/-- `Check` with its two lists. The ports have been set when the multicast addresses are looked
at. -/
def check_lists (lidars_cfg custom_lidars_cfg : List define.LivoxLidarCfg) : Build CheckResult :=
  if lidars_cfg = [] ∧ custom_lidars_cfg = [] then .ok { ret := false, lidars_cfg, custom_lidars_cfg }
  else if check_lidar_ip lidars_cfg custom_lidars_cfg = false then
    .ok { ret := false, lidars_cfg, custom_lidars_cfg }
  else do
    let lidars_cfg := lidars_cfg.map check_port
    let custom_lidars_cfg := custom_lidars_cfg.map check_port
    let ret ← check_lidar_multicast_ip lidars_cfg custom_lidars_cfg
    .ok { ret, lidars_cfg, custom_lidars_cfg }

/-- `Check`. It returns false without a list when both pointers are null; one that is null alone is
dereferenced, unless an address stands twice in the first list. -/
def check (lidars_cfg_ptr custom_lidars_cfg_ptr : Option (List define.LivoxLidarCfg)) :
    Build CheckResult :=
  match lidars_cfg_ptr, custom_lidars_cfg_ptr with
  | none, none => .ok { ret := false, lidars_cfg := [], custom_lidars_cfg := [] }
  | none, some _ => .error (.fault .nullDereference)
  | some lidars_cfg, none =>
    if lidars_cfg ≠ [] ∧ check_ips false ∅ lidars_cfg = none then
      .ok { ret := false, lidars_cfg, custom_lidars_cfg := [] }
    else .error (.fault .nullDereference)
  | some lidars_cfg, some custom_lidars_cfg => check_lists lidars_cfg custom_lidars_cfg

end params_check

/-- The key of a custom configuration in the maps. -/
def define.LivoxLidarCfg.handle (cfg : define.LivoxLidarCfg) : UInt32 := inet_addr cfg.lidar_net_info.lidar_ipaddr

namespace device_manager

structure ConfigMaps where
  type_lidars_cfg_map : Std.TreeMap UInt8 define.LivoxLidarCfg
  custom_lidars_cfg_map : Std.TreeMap UInt32 define.LivoxLidarCfg

/-- `GetLidarConfigMap` of a new device manager. A later configuration replaces an earlier one with
its key. -/
def get_lidar_config_map (lidars_cfg custom_lidars_cfg : List define.LivoxLidarCfg) : ConfigMaps where
  type_lidars_cfg_map := lidars_cfg.foldl (fun m cfg => m.insert cfg.device_type cfg) ∅
  custom_lidars_cfg_map := custom_lidars_cfg.foldl (fun m cfg => m.insert cfg.handle cfg) ∅

end device_manager

namespace general_command_handler

/-- `AddDetectedLidar` of a new handler. An earlier configuration keeps a later one with its key
out. -/
def add_detected_lidar (custom_lidars_cfg : List define.LivoxLidarCfg) : Std.TreeMap UInt32 define.LivoxLidarCfg :=
  custom_lidars_cfg.foldl
    (fun m cfg => if m[cfg.handle]?.isNone then m.insert cfg.handle cfg else m) ∅

end general_command_handler

namespace params_check

/-- The address text of a configuration. -/
def lidar_ipaddr (cfg : define.LivoxLidarCfg) : List UInt8 := cfg.lidar_net_info.lidar_ipaddr

@[simp] theorem lidar_ipaddr_check_port (cfg : define.LivoxLidarCfg) :
    lidar_ipaddr (check_port cfg) = lidar_ipaddr cfg := by
  rw [check_port]
  split
  · rfl
  · split <;> rfl

theorem handle_eq (cfg : define.LivoxLidarCfg) : cfg.handle = inet_addr (lidar_ipaddr cfg) := rfl

/-- The maps keep one entry for each custom configuration: no two share a handle, and under each
handle stands its own configuration. -/
structure NeverCollide (lidars_cfg custom_lidars_cfg : List define.LivoxLidarCfg) : Prop where
  handles : (custom_lidars_cfg.map define.LivoxLidarCfg.handle).Nodup
  device_manager :
    let m := (device_manager.get_lidar_config_map lidars_cfg custom_lidars_cfg).custom_lidars_cfg_map
    m.size = custom_lidars_cfg.length ∧ ∀ cfg ∈ custom_lidars_cfg, m[cfg.handle]? = some cfg
  general_command_handler :
    let m := general_command_handler.add_detected_lidar custom_lidars_cfg
    m.size = custom_lidars_cfg.length ∧ ∀ cfg ∈ custom_lidars_cfg, m[cfg.handle]? = some cfg

section Maps

variable {lidars_cfg custom_lidars_cfg : List define.LivoxLidarCfg}

/-- Both maps store a configuration whose handle is new. -/
theorem insert_new {m : Std.TreeMap UInt32 define.LivoxLidarCfg} {cfg : define.LivoxLidarCfg}
    (hnew : m[cfg.handle]? = none) :
    (m.insert cfg.handle cfg).size = m.size + 1 ∧
      ∀ a, (m.insert cfg.handle cfg)[a]? = if cfg.handle = a then some cfg else m[a]? := by
  refine ⟨?_, fun a => ordered_map.lookup_insert m cfg.handle a cfg⟩
  have hnot : cfg.handle ∉ m := by
    rw [ordered_map.mem_iff_lookup, hnew]
    simp
  rw [Std.TreeMap.size_insert, if_neg fun hmem => hnot (Std.TreeMap.contains_iff_mem.mp hmem)]

/-- Distinct handles are all that the maps need. -/
theorem neverCollide_of_nodup (h : (custom_lidars_cfg.map define.LivoxLidarCfg.handle).Nodup) :
    NeverCollide lidars_cfg custom_lidars_cfg := by
  have hempty : ∀ cfg ∈ custom_lidars_cfg,
      (∅ : Std.TreeMap UInt32 define.LivoxLidarCfg)[cfg.handle]? = none := by simp
  have hinsert : ∀ (m : Std.TreeMap UInt32 define.LivoxLidarCfg) (cfg : define.LivoxLidarCfg),
      m[cfg.handle]? = none → (m.insert cfg.handle cfg).size = m.size + 1 ∧
        ∀ a, (m.insert cfg.handle cfg)[a]? = if cfg.handle = a then some (id cfg) else m[a]? :=
    fun m cfg hnew => insert_new hnew
  obtain ⟨hsize, hfound, -⟩ := ordered_map.foldl_of_nodup hinsert h hempty
  refine ⟨h, ⟨hsize.trans (by simp), hfound⟩, ?_⟩
  have hkept : ∀ (m : Std.TreeMap UInt32 define.LivoxLidarCfg) (cfg : define.LivoxLidarCfg),
      m[cfg.handle]? = none →
      (if m[cfg.handle]?.isNone then m.insert cfg.handle cfg else m).size = m.size + 1 ∧
        ∀ a, (if m[cfg.handle]?.isNone then m.insert cfg.handle cfg else m)[a]? =
          if cfg.handle = a then some (id cfg) else m[a]? := by
    intro m cfg hnew
    rw [hnew]
    exact insert_new hnew
  obtain ⟨hsize, hfound, -⟩ := ordered_map.foldl_of_nodup hkept h hempty
  exact ⟨hsize.trans (by simp), hfound⟩

end Maps

section Check

variable {lidars_cfg_ptr custom_lidars_cfg_ptr : Option (List define.LivoxLidarCfg)}
  {result : CheckResult}

/-- The loop over the custom configurations has compared the texts of their addresses. -/
theorem check_ips_nodup {cfgs : List define.LivoxLidarCfg} {lidars_ip all : Finset (List UInt8)}
    (h : check_ips true lidars_ip cfgs = some all) :
    (cfgs.map lidar_ipaddr).Nodup ∧ ∀ cfg ∈ cfgs, lidar_ipaddr cfg ∉ lidars_ip := by
  induction cfgs generalizing lidars_ip with
  | nil => simp
  | cons cfg rest ih =>
    simp only [check_ips, if_true] at h
    split at h
    · cases h
    · split at h
      · cases h
      · rename_i hnew
        obtain ⟨hnodup, hothers⟩ := ih h
        have hfirst : lidar_ipaddr cfg ∉ rest.map lidar_ipaddr := by
          intro hmem
          obtain ⟨other, hother, heq⟩ := List.mem_map.mp hmem
          exact hothers other hother (by rw [heq]; exact Finset.mem_insert_self ..)
        refine ⟨List.nodup_cons.mpr ⟨hfirst, hnodup⟩, ?_⟩
        intro other hother
        rcases List.mem_cons.mp hother with rfl | hother
        · exact hnew
        · exact fun hmem => hothers other hother (Finset.mem_insert_of_mem hmem)

/-- A check that returns true had both lists, and the texts of the custom addresses differ. -/
theorem check_true (h : check lidars_cfg_ptr custom_lidars_cfg_ptr = .ok result)
    (hret : result.ret = true) :
    ∃ lidars_cfg custom_lidars_cfg, lidars_cfg_ptr = some lidars_cfg ∧
      custom_lidars_cfg_ptr = some custom_lidars_cfg ∧
      result.custom_lidars_cfg = custom_lidars_cfg.map check_port ∧
      (custom_lidars_cfg.map lidar_ipaddr).Nodup := by
  rcases lidars_cfg_ptr with - | lidars_cfg <;> rcases custom_lidars_cfg_ptr with - | custom_lidars_cfg
  · obtain rfl := Except.ok.inj h
    cases hret
  · cases h
  · rw [check] at h
    split at h
    · obtain rfl := Except.ok.inj h
      cases hret
    · cases h
  · rw [check, check_lists] at h
    split at h
    · obtain rfl := Except.ok.inj h
      cases hret
    · split at h
      · obtain rfl := Except.ok.inj h
        cases hret
      · rename_i hips
        simp only at h
        have hresult : result.custom_lidars_cfg = custom_lidars_cfg.map check_port := by
          cases hmulticast : check_lidar_multicast_ip (lidars_cfg.map check_port)
              (custom_lidars_cfg.map check_port) with
          | error thrown =>
            rw [hmulticast] at h
            cases h
          | ok ret =>
            rw [hmulticast] at h
            obtain rfl := Except.ok.inj h
            rfl
        refine ⟨lidars_cfg, custom_lidars_cfg, rfl, rfl, hresult, ?_⟩
        rw [Bool.not_eq_false, check_lidar_ip] at hips
        split at hips
        · cases hips
        · obtain ⟨all, hall⟩ := Option.isSome_iff_exists.mp hips
          exact (check_ips_nodup hall).1

/-- The handles are distinct when no two texts spell the same address. -/
theorem handles_nodup_iff {cfgs : List define.LivoxLidarCfg} :
    ((cfgs.map check_port).map define.LivoxLidarCfg.handle).Nodup ↔
      cfgs.Pairwise fun cfg other => ¬ Same (lidar_ipaddr cfg) (lidar_ipaddr other) := by
  rw [List.map_map, List.Nodup, List.pairwise_map]
  apply iff_of_eq
  congr 1
  funext cfg other
  simp only [Function.comp_apply, handle_eq, lidar_ipaddr_check_port, ne_eq, inet_addr_eq_iff]

/-- A part that is printed without a zero in front is read as the number that it is. -/
theorem part_to_string (b : UInt8) : part (to_string b) = some b.toNat ∧ 46 ∉ to_string b := by
  have h : ∀ n < 256, part (to_string (UInt8.ofNat n)) = some (UInt8.ofNat n).toNat ∧
      46 ∉ to_string (UInt8.ofNat n) := by
    decide +kernel
  simpa using h b.toNat b.toNat_lt

/-- The address of four bytes in dotted form. -/
theorem spelled_ip_string (a b c d : UInt8) :
    spelled (ip_string [a, b, c, d]) =
      some (UInt32.ofNat
        (((a.toNat * 2 ^ 8 + b.toNat) * 2 ^ 8 + c.toNat) * 2 ^ 8 + d.toNat)) := by
  have hzero : 0 ∉ ip_string [a, b, c, d] := (ip_string_fits rfl).2
  have hstring : string (ip_string [a, b, c, d]) = ip_string [a, b, c, d] :=
    string_eq_self_iff.mpr hzero
  have hdots : ∀ text ∈ [a, b, c, d].map to_string, 46 ∉ text := by
    intro text htext
    obtain ⟨x, -, rfl⟩ := List.mem_map.mp htext
    exact (part_to_string x).2
  have hsplit : (ip_string [a, b, c, d]).splitOn 46 = [a, b, c, d].map to_string :=
    List.splitOn_intercalate 46 hdots (by simp)
  rw [spelled, hstring, hsplit]
  simp only [List.map_cons, List.map_nil, List.mapM_cons, List.mapM_nil, (part_to_string _).1]
  exact if_pos ⟨a.toNat_lt, b.toNat_lt, c.toNat_lt, d.toNat_lt⟩

/-- Different texts in dotted form, without a zero in front of a number, spell different addresses. -/
theorem not_same_of_dotted {cfgs : List define.LivoxLidarCfg}
    (hnodup : (cfgs.map lidar_ipaddr).Nodup)
    (hdotted : ∀ cfg ∈ cfgs, ∃ a b c d, lidar_ipaddr cfg = ip_string [a, b, c, d]) :
    cfgs.Pairwise fun cfg other => ¬ Same (lidar_ipaddr cfg) (lidar_ipaddr other) := by
  apply (List.pairwise_map.mp hnodup).imp_of_mem
  intro cfg other hcfg hother hne hsame
  obtain ⟨a, b, c, d, htext⟩ := hdotted cfg hcfg
  obtain ⟨a', b', c', d', hotherText⟩ := hdotted other hother
  rw [htext, hotherText] at hne hsame
  have hspelled : spelled (ip_string [a, b, c, d]) = spelled (ip_string [a', b', c', d']) := by
    rcases hsame with ⟨addr, haddr, hsecond⟩ | ⟨hfirst, hsecond⟩
    · rw [haddr, hsecond]
    · simp only [NoneOrBroadcast, spelled_ip_string, reduceCtorEq, false_or] at hfirst hsecond
      rw [spelled_ip_string, spelled_ip_string, hfirst, hsecond]
  rw [spelled_ip_string, spelled_ip_string] at hspelled
  obtain ⟨rfl, rfl, rfl, rfl⟩ := address_four_inj (Option.some.inj hspelled)
  exact hne rfl

/-- Configurations that have passed the check do not collide when all custom addresses are written in
that form. -/
theorem check_dotted_never_collide
    (h : check lidars_cfg_ptr custom_lidars_cfg_ptr = .ok result) (hret : result.ret = true)
    (hdotted : ∀ cfg ∈ result.custom_lidars_cfg, ∃ a b c d, lidar_ipaddr cfg = ip_string [a, b, c, d]) :
    NeverCollide result.lidars_cfg result.custom_lidars_cfg := by
  obtain ⟨lidars_cfg, custom_lidars_cfg, -, -, hresult, hnodup⟩ := check_true h hret
  rw [hresult] at hdotted ⊢
  apply neverCollide_of_nodup
  rw [handles_nodup_iff]
  apply not_same_of_dotted hnodup
  intro cfg hcfg
  simpa using hdotted _ (List.mem_map_of_mem hcfg)

/-- Configurations that have passed the check do not collide exactly when no two different texts of the
custom addresses spell the same address, and at most one spells none or `255.255.255.255`. -/
theorem check_never_collide_iff (h : check lidars_cfg_ptr custom_lidars_cfg_ptr = .ok result)
    (hret : result.ret = true) :
    NeverCollide result.lidars_cfg result.custom_lidars_cfg ↔
      ∀ custom_lidars_cfg, custom_lidars_cfg_ptr = some custom_lidars_cfg →
        ∀ cfg ∈ custom_lidars_cfg, ∀ other ∈ custom_lidars_cfg, lidar_ipaddr cfg ≠ lidar_ipaddr other →
          ¬ Same (lidar_ipaddr cfg) (lidar_ipaddr other) := by
  obtain ⟨lidars_cfg, custom_lidars_cfg, -, rfl, hresult, hnodup⟩ := check_true h hret
  rw [hresult]
  constructor
  · rintro hnever _ heq cfg hcfg other hother hne
    cases heq
    have hsymmetric : Std.Symm fun cfg other : define.LivoxLidarCfg =>
        ¬ Same (lidar_ipaddr cfg) (lidar_ipaddr other) :=
      ⟨fun cfg other hnot hsame => hnot (inet_addr_eq_iff.mp (inet_addr_eq_iff.mpr hsame).symm)⟩
    have hpairwise := handles_nodup_iff.mp hnever.handles
    exact hpairwise.forall hcfg hother fun hsame => hne (hsame ▸ rfl)
  · intro hdifferent
    refine neverCollide_of_nodup (handles_nodup_iff.mpr ?_)
    apply (List.pairwise_map.mp hnodup).imp_of_mem
    intro cfg other hcfg hother hne
    exact hdifferent _ rfl cfg hcfg other hother hne

/-- A configuration for one lidar, without a multicast address. -/
def sample_cfg (lidar_ipaddr : List UInt8) : define.LivoxLidarCfg where
  device_type := kLivoxLidarTypeIndustrialHAP
  lidar_net_info :=
    { lidar_ipaddr, cmd_data_port := 56000, push_msg_port := 0, point_data_port := 0,
      imu_data_port := 0, log_data_port := 0 }
  host_net_info :=
    { host_ip := [], multicast_ip := [], cmd_data_port := 56000, push_msg_port := 0,
      point_data_port := 57000, imu_data_port := 58000, log_data_port := 0 }

/-- `1.2.3.4` and `1.2.3.5`. -/
theorem check_never_collide_iff_sample :
    NeverCollide []
      [sample_cfg [49, 46, 50, 46, 51, 46, 52], sample_cfg [49, 46, 50, 46, 51, 46, 53]] := by
  have hdifferent : ∀ cfg ∈ [sample_cfg [49, 46, 50, 46, 51, 46, 52],
      sample_cfg [49, 46, 50, 46, 51, 46, 53]],
      ∀ other ∈ [sample_cfg [49, 46, 50, 46, 51, 46, 52], sample_cfg [49, 46, 50, 46, 51, 46, 53]],
        lidar_ipaddr cfg ≠ lidar_ipaddr other → ¬ Same (lidar_ipaddr cfg) (lidar_ipaddr other) := by
    simp only [← inet_addr_eq_iff]
    decide
  exact (@check_never_collide_iff (some []) (some _) ⟨true, [], _⟩ rfl rfl).mpr
    fun _ h => Option.some.inj h ▸ hdifferent

/-- `192.168.1.8` and `192.168.1.010` pass the check, and have the same handle. -/
theorem check_spellings_collide :
    ¬ ∀ (lidars_cfg_ptr custom_lidars_cfg_ptr : Option (List define.LivoxLidarCfg))
      (result : CheckResult), check lidars_cfg_ptr custom_lidars_cfg_ptr = .ok result →
        result.ret = true → NeverCollide result.lidars_cfg result.custom_lidars_cfg := by
  intro h
  have hnever := h (some []) (some
    [sample_cfg [49, 57, 50, 46, 49, 54, 56, 46, 49, 46, 56],
      sample_cfg [49, 57, 50, 46, 49, 54, 56, 46, 49, 46, 48, 49, 48]]) ⟨true, [], _⟩ rfl rfl
  exact absurd hnever.handles (by decide)

end Check

end params_check

end livox_lidar
