import Livox.Sdk.ParseCfgFile.Shapes

open checked memory rapidjson

namespace livox_lidar

namespace parse_cfg_file

section Written

variable {ρ : Type}

/-- Where a configuration is written: the section, the host in it and the address of the lidar. -/
structure Source (ρ : Type) where
  device_type : UInt8
  object : Value ρ
  host : Value ρ
  lidar_ip : Option (List UInt8)

/-- An entry without a list of addresses is written for all lidars of the type. -/
def entry_lidars (device_type : UInt8) (object entry : Value ρ) : List (Source ρ) :=
  match lidar_ips entry with
  | none => [{ device_type, object, host := entry, lidar_ip := none }]
  | some _ => []

/-- An entry with a list of addresses is written for each string in it. -/
def entry_customs (device_type : UInt8) (object entry : Value ρ) : List (Source ρ) :=
  match lidar_ips entry with
  | none => []
  | some ips =>
    (ips.filterMap Value.text?).map fun text =>
      { device_type, object, host := entry, lidar_ip := some text }

def section_lidars (device_type : UInt8) (object : Value ρ) : List (Source ρ) :=
  match object.lookup "host_net_info" with
  | some (.array entries) => entries.flatMap (entry_lidars device_type object)
  | some host => [{ device_type, object, host, lidar_ip := none }]
  | none => []

def section_customs (device_type : UInt8) (object : Value ρ) : List (Source ρ) :=
  match object.lookup "host_net_info" with
  | some (.array entries) => entries.flatMap (entry_customs device_type object)
  | _ => []

/-- What a document has for the sections of a list, in the order of the list. -/
def sections_written (written : UInt8 → Value ρ → List (Source ρ)) (doc : Value ρ)
    (sections : List (String × UInt8)) : List (Source ρ) :=
  sections.flatMap fun entry =>
    ((section_object doc entry.1).map (written entry.2)).getD []

def lidars_written (doc : Value ρ) : List (Source ρ) :=
  sections_written section_lidars doc dev_type_map

def customs_written (doc : Value ρ) : List (Source ρ) :=
  sections_written section_customs doc dev_type_map

/-- The address of a host: `host_ip`, and `cmd_data_ip` when there is none. -/
def host_text (host : Value ρ) : Option (List UInt8) :=
  match host.lookup "host_ip" with
  | some value => value.text?
  | none => (host.lookup "cmd_data_ip").bind Value.text?

def multicast_text (host : Value ρ) : Option (List UInt8) :=
  (host.lookup "multicast_ip").bind Value.text?

end Written

section Faithful

variable {ρ : Type}

def Ports.named (ports : Ports) : List (String × UInt16) :=
  [("cmd_data_port", ports.cmd_data_port), ("push_msg_port", ports.push_msg_port),
    ("point_data_port", ports.point_data_port), ("imu_data_port", ports.imu_data_port),
    ("log_data_port", ports.log_data_port)]

def lidar_ports (info : LivoxLidarNetInfo) : Ports where
  cmd_data_port := info.cmd_data_port
  push_msg_port := info.push_msg_port
  point_data_port := info.point_data_port
  imu_data_port := info.imu_data_port
  log_data_port := info.log_data_port

def host_ports (info : define.HostNetInfo) : Ports where
  cmd_data_port := info.cmd_data_port
  push_msg_port := info.push_msg_port
  point_data_port := info.point_data_port
  imu_data_port := info.imu_data_port
  log_data_port := info.log_data_port

/-- Every port is the number that is written for it. -/
def PortsFaithful (ports : Ports) (object : Value ρ) : Prop :=
  ∀ port ∈ ports.named, object.lookup port.1 = some (.integer port.2.toNat)

/-- A configuration is the one that is written. -/
structure Faithful (cfg : define.LivoxLidarCfg) (source : Source ρ) : Prop where
  device_type : cfg.device_type = source.device_type
  lidar_ip : cfg.lidar_net_info.lidar_ipaddr = source.lidar_ip.getD []
  lidar_ports : ∃ info, source.object.lookup "lidar_net_info" = some info ∧
    PortsFaithful (lidar_ports cfg.lidar_net_info) info
  host_ip : host_text source.host = some cfg.host_net_info.host_ip
  multicast_ip : cfg.host_net_info.multicast_ip = (multicast_text source.host).getD []
  host_ports : PortsFaithful (host_ports cfg.host_net_info) source.host

/-- The numbers of the ports have 16 bits. -/
def PortsFit (object : Value ρ) : Prop :=
  ∀ name ∈ port_names, ∀ number, object.lookup name = some (.integer number) → number < 2 ^ 16

/-- Nothing of what is written is lost on the way into a configuration: the ports have 16 bits, and
no address has a zero in it. -/
structure Fits (source : Source ρ) : Prop where
  lidar_ip : 0 ∉ source.lidar_ip.getD []
  lidar_ports : ∀ info, source.object.lookup "lidar_net_info" = some info → PortsFit info
  host_ip : ∀ text, host_text source.host = some text → 0 ∉ text
  multicast_ip : ∀ text, multicast_text source.host = some text → 0 ∉ text
  host_ports : PortsFit source.host

variable {object : Value ρ}

/-- A port is the lowest 16 bits of the number that is written. -/
theorem parse_port_eq_ok {name : String} {port : UInt16} (h : parse_port object name = .ok port) :
    ∃ number : UInt32, object.lookup name = some (.integer number.toNat) ∧
      port = number.toUInt16 := by
  rw [parse_port_eq (is_object_of_ok h)] at h
  cases hlookup : object.lookup name with
  | none =>
    rw [hlookup] at h
    cases h
  | some value =>
    rw [hlookup, Option.elim_some] at h
    cases hnumber : value.uint? with
    | none =>
      rw [hnumber] at h
      cases h
    | some number =>
      rw [hnumber] at h
      exact ⟨number, by rw [Value.uint?_eq_some_iff.mp hnumber], (Except.ok.inj h).symm⟩

/-- A port is the number that is written when that has 16 bits. -/
theorem port_faithful_iff {name : String} {port : UInt16} (h : parse_port object name = .ok port) :
    object.lookup name = some (.integer port.toNat) ↔
      ∀ number, object.lookup name = some (.integer number) → number < 2 ^ 16 := by
  obtain ⟨number, hlookup, rfl⟩ := parse_port_eq_ok h
  have hport := number.toUInt16.toNat_lt
  have hnarrow : number.toUInt16.toNat = number.toNat % 2 ^ 16 := UInt32.toNat_toUInt16 number
  rw [hlookup]
  simp only [Option.some.injEq, Value.integer.injEq, forall_eq']
  omega

theorem parse_ports_faithful_iff {ports : Ports} (h : parse_ports object = .ok ports) :
    PortsFaithful ports object ↔ PortsFit object := by
  obtain ⟨cmd_data_port, hcmd, h⟩ := bind_eq_ok_iff.mp h
  obtain ⟨push_msg_port, hpush, h⟩ := bind_eq_ok_iff.mp h
  obtain ⟨point_data_port, hpoint, h⟩ := bind_eq_ok_iff.mp h
  obtain ⟨imu_data_port, himu, h⟩ := bind_eq_ok_iff.mp h
  obtain ⟨log_data_port, hlog, h⟩ := bind_eq_ok_iff.mp h
  obtain rfl := Except.ok.inj h
  simp only [PortsFaithful, Ports.named, PortsFit, port_names, List.forall_mem_cons,
    List.not_mem_nil, false_implies, implies_true, and_true]
  rw [port_faithful_iff hcmd, port_faithful_iff hpush, port_faithful_iff hpoint,
    port_faithful_iff himu, port_faithful_iff hlog]

/-- A text is read up to its first zero, and is null when there is none of its name. -/
theorem parse_text_eq_ok {name : String} {text : Option (List UInt8)}
    (h : parse_text object name = .ok text) :
    (object.lookup name = none ∧ text = none) ∨
      ∃ written, object.lookup name = some (.string written) ∧ text = some (string written) := by
  rw [parse_text_eq (is_object_of_ok h)] at h
  cases hlookup : object.lookup name with
  | none =>
    rw [hlookup] at h
    exact Or.inl ⟨rfl, (Except.ok.inj h).symm⟩
  | some value =>
    rw [hlookup, Option.elim_some] at h
    cases value with
    | string written => exact Or.inr ⟨written, rfl, (Except.ok.inj h).symm⟩
    | _ => cases h

/-- An info of a lidar is the one that is written when its ports have 16 bits. -/
theorem parse_lidar_net_info_faithful_iff {lidar_ipaddr : List UInt8} {info : LivoxLidarNetInfo}
    (h : parse_lidar_net_info object lidar_ipaddr = .ok info) :
    info.lidar_ipaddr = lidar_ipaddr ∧
      ((∃ net, object.lookup "lidar_net_info" = some net ∧ PortsFaithful (lidar_ports info) net) ↔
        ∀ net, object.lookup "lidar_net_info" = some net → PortsFit net) := by
  rw [parse_lidar_net_info, member_eq (is_object_of_ok h)] at h
  cases hlookup : object.lookup "lidar_net_info" with
  | none =>
    rw [hlookup] at h
    cases h
  | some net =>
    rw [hlookup, Option.elim_some] at h
    split at h
    · obtain ⟨ports, hports, h⟩ := bind_eq_ok_iff.mp h
      obtain rfl := Except.ok.inj h
      refine ⟨rfl, ?_⟩
      simp only [Option.some.injEq, forall_eq', exists_eq_left']
      exact parse_ports_faithful_iff hports
    · cases h

/-- The address of a host, of its two members. -/
theorem host_ip_faithful_iff {host : Value ρ} {host_ip cmd_data_ip : Option (List UInt8)}
    (hhost : parse_text host "host_ip" = .ok host_ip)
    (hcmd : parse_text host "cmd_data_ip" = .ok cmd_data_ip)
    (hip : host.lookup "host_ip" ≠ none ∨ host.lookup "cmd_data_ip" ≠ none) :
    host_text host = some (host_ip.getD (cmd_data_ip.getD [])) ↔
      ∀ text, host_text host = some text → 0 ∉ text := by
  have hone : ∃ written, host_text host = some written ∧
      host_ip.getD (cmd_data_ip.getD []) = string written := by
    rcases parse_text_eq_ok hhost with ⟨hnone, rfl⟩ | ⟨written, hlookup, rfl⟩
    · rcases parse_text_eq_ok hcmd with ⟨hnoneCmd, rfl⟩ | ⟨written, hlookup, rfl⟩
      · exact absurd hnoneCmd (hip.resolve_left (not_not_intro hnone))
      · exact ⟨written, by simp [host_text, hnone, hlookup, Value.text?], rfl⟩
    · exact ⟨written, by simp [host_text, hlookup, Value.text?], rfl⟩
  obtain ⟨written, hwritten, heq⟩ := hone
  rw [hwritten, heq, Option.some.injEq, eq_comm, string_eq_self_iff]
  simp

/-- The multicast address, which is empty when there is none. -/
theorem multicast_ip_faithful_iff {host : Value ρ} {multicast_ip : Option (List UInt8)}
    (h : parse_text host "multicast_ip" = .ok multicast_ip) :
    multicast_ip.getD [] = (multicast_text host).getD [] ↔
      ∀ text, multicast_text host = some text → 0 ∉ text := by
  rcases parse_text_eq_ok h with ⟨hnone, rfl⟩ | ⟨written, hlookup, rfl⟩
  · simp [multicast_text, hnone]
  · simp only [multicast_text, hlookup, Option.bind_some, Value.text?, Option.getD_some,
      Option.some.injEq, forall_eq']
    exact string_eq_self_iff

/-- An info of a host is the one that is written when nothing of it is lost. -/
theorem parse_host_net_info_faithful_iff {host : Value ρ} {info : define.HostNetInfo}
    (h : parse_host_net_info host = .ok info) :
    (host_text host = some info.host_ip ↔ ∀ text, host_text host = some text → 0 ∉ text) ∧
      (info.multicast_ip = (multicast_text host).getD [] ↔
        ∀ text, multicast_text host = some text → 0 ∉ text) ∧
      (PortsFaithful (host_ports info) host ↔ PortsFit host) := by
  have hhost : host.is_object = true := is_object_of_ok h
  have hip := ((parse_host_net_info_outcome hhost).accepted.mp ⟨info, h⟩).has_ip
  simp only [parse_host_net_info, Value.has_member_object hhost, call_ok, ok_bind] at h
  split at h
  · cases h
  · obtain ⟨host_ip, hhostIp, h⟩ := bind_eq_ok_iff.mp h
    obtain ⟨cmd_data_ip, hcmd, h⟩ := bind_eq_ok_iff.mp h
    obtain ⟨multicast_ip, hmulticast, h⟩ := bind_eq_ok_iff.mp h
    obtain ⟨ports, hports, h⟩ := bind_eq_ok_iff.mp h
    obtain rfl := Except.ok.inj h
    exact ⟨host_ip_faithful_iff hhostIp hcmd hip, multicast_ip_faithful_iff hmulticast,
      parse_ports_faithful_iff hports⟩

/-- The configuration is read from the source. -/
def ReadFrom (cfg : define.LivoxLidarCfg) (source : Source ρ) : Prop :=
  parse_type_lidar_cfg source.object source.host source.device_type
    (string (source.lidar_ip.getD [])) = .ok cfg

/-- A configuration that is read is the one that is written when nothing of it is lost. -/
theorem faithful_iff_fits {cfg : define.LivoxLidarCfg} {source : Source ρ}
    (h : ReadFrom cfg source) : Faithful cfg source ↔ Fits source := by
  obtain ⟨lidar_net_info, hlidar, h⟩ := bind_eq_ok_iff.mp h
  obtain ⟨host_net_info, hhost, h⟩ := bind_eq_ok_iff.mp h
  obtain rfl := Except.ok.inj h
  obtain ⟨haddress, hlidarPorts⟩ := parse_lidar_net_info_faithful_iff hlidar
  obtain ⟨hhostIp, hmulticast, hhostPorts⟩ := parse_host_net_info_faithful_iff hhost
  constructor
  · intro hfaithful
    have hself := haddress.symm.trans hfaithful.lidar_ip
    exact ⟨string_eq_self_iff.mp hself, hlidarPorts.mp hfaithful.lidar_ports,
      hhostIp.mp hfaithful.host_ip, hmulticast.mp hfaithful.multicast_ip,
      hhostPorts.mp hfaithful.host_ports⟩
  · intro hfits
    exact ⟨rfl, haddress.trans (string_eq_self_iff.mpr hfits.lidar_ip),
      hlidarPorts.mpr hfits.lidar_ports, hhostIp.mpr hfits.host_ip,
      hmulticast.mpr hfits.multicast_ip, hhostPorts.mpr hfits.host_ports⟩

end Faithful

section Lists

variable {ρ : Type}

/-- Both lists are read from sources, one from each and in their order. -/
structure Reads (cfgs : Cfgs) (lidars customs : List (Source ρ)) : Prop where
  lidars : List.Forall₂ ReadFrom cfgs.lidars_cfg lidars
  customs : List.Forall₂ ReadFrom cfgs.custom_lidars_cfg customs

variable {cfgs more : Cfgs} {lidars customs lidars' customs' : List (Source ρ)}
  {object entry doc : Value ρ} {device_type : UInt8}

theorem Reads.nil : Reads (Cfgs.mk [] []) ([] : List (Source ρ)) [] := ⟨.nil, .nil⟩

theorem Reads.append (h : Reads cfgs lidars customs) (hmore : Reads more lidars' customs') :
    Reads (cfgs.append more) (lidars ++ lidars') (customs ++ customs') :=
  ⟨List.rel_append h.lidars hmore.lidars, List.rel_append h.customs hmore.customs⟩

theorem parse_lidar_ips_reads {ips : List (Value ρ)} {cfgs : List define.LivoxLidarCfg}
    (h : parse_lidar_ips object entry device_type ips = .ok cfgs) :
    List.Forall₂ ReadFrom cfgs ((ips.filterMap Value.text?).map fun text =>
      { device_type, object, host := entry, lidar_ip := some text }) := by
  induction ips generalizing cfgs with
  | nil =>
    obtain rfl := Except.ok.inj h
    exact .nil
  | cons ip rest ih =>
    rw [parse_lidar_ips] at h
    cases ip with
    | string written =>
      obtain ⟨lidar_ipaddr, htext, h⟩ := bind_eq_ok_iff.mp h
      obtain rfl := Except.ok.inj htext
      obtain ⟨cfg, hcfg, h⟩ := bind_eq_ok_iff.mp h
      obtain ⟨others, hothers, h⟩ := bind_eq_ok_iff.mp h
      obtain rfl := Except.ok.inj h
      exact .cons hcfg (ih hothers)
    | _ => cases h

/-- A host entry gives one configuration, or one for each address in its list. -/
theorem parse_host_entry_reads (hentry : entry.is_object = true)
    (h : parse_host_entry object entry device_type = .ok cfgs) :
    Reads cfgs (entry_lidars device_type object entry) (entry_customs device_type object entry) := by
  rw [parse_host_entry_eq hentry] at h
  rw [entry_lidars, entry_customs]
  cases hips : lidar_ips entry with
  | none =>
    simp only [hips] at h ⊢
    obtain ⟨cfg, hcfg, h⟩ := bind_eq_ok_iff.mp h
    obtain rfl := Except.ok.inj h
    exact ⟨.cons hcfg .nil, .nil⟩
  | some ips =>
    simp only [hips] at h ⊢
    obtain ⟨customs, hcustoms, h⟩ := bind_eq_ok_iff.mp h
    obtain rfl := Except.ok.inj h
    exact ⟨.nil, parse_lidar_ips_reads hcustoms⟩

theorem parse_new_lidar_cfg_reads {entries : List (Value ρ)}
    (hentries : ∀ entry ∈ entries, entry.is_object = true)
    (h : parse_new_lidar_cfg object device_type entries = .ok cfgs) :
    Reads cfgs (entries.flatMap (entry_lidars device_type object))
      (entries.flatMap (entry_customs device_type object)) := by
  induction entries generalizing cfgs with
  | nil =>
    obtain rfl := Except.ok.inj h
    exact Reads.nil
  | cons entry rest ih =>
    obtain ⟨first, hfirst, h⟩ := bind_eq_ok_iff.mp h
    obtain ⟨others, hothers, h⟩ := bind_eq_ok_iff.mp h
    obtain rfl := Except.ok.inj h
    rw [List.flatMap_cons, List.flatMap_cons]
    exact (parse_host_entry_reads (hentries entry (by simp)) hfirst).append
      (ih (fun other hmem => hentries other (List.mem_cons_of_mem entry hmem)) hothers)

/-- A section, of either layout. -/
theorem parse_lidar_cfg_reads (hobject : object.is_object = true)
    (h : parse_lidar_cfg object device_type = .ok cfgs) :
    Reads cfgs (section_lidars device_type object) (section_customs device_type object) := by
  obtain ⟨hosts, hlookup, hshape⟩ := (parse_lidar_cfg_outcome hobject device_type).accepted.mp ⟨cfgs, h⟩
  rw [parse_lidar_cfg, member_eq hobject, hlookup, Option.elim_some] at h
  rw [section_lidars, section_customs, hlookup]
  rcases hshape with ⟨entries, rfl, hentries⟩ | ⟨hhost, -⟩
  · exact parse_new_lidar_cfg_reads (fun entry hmem => (hentries entry hmem).1) h
  · cases hosts with
    | object members =>
      obtain ⟨cfg, hcfg, h⟩ := bind_eq_ok_iff.mp h
      obtain rfl := Except.ok.inj h
      exact ⟨.cons hcfg .nil, .nil⟩
    | _ => cases hhost

theorem parse_sections_reads (hdoc : doc.is_object = true) {sections : List (String × UInt8)}
    (h : parse_sections doc sections = .ok cfgs) :
    Reads cfgs (sections_written section_lidars doc sections)
      (sections_written section_customs doc sections) := by
  induction sections generalizing cfgs with
  | nil =>
    obtain rfl := Except.ok.inj h
    exact Reads.nil
  | cons first rest ih =>
    obtain ⟨name, device_type⟩ := first
    obtain ⟨cfgs, hfirst, h⟩ := bind_eq_ok_iff.mp h
    obtain ⟨others, hothers, h⟩ := bind_eq_ok_iff.mp h
    obtain rfl := Except.ok.inj h
    refine Reads.append ?_ (ih hothers)
    rw [parse_section_eq hdoc] at hfirst
    cases hobject : section_object doc name with
    | none =>
      simp only [hobject, Option.map_none, Option.getD_none] at hfirst ⊢
      obtain rfl := Except.ok.inj hfirst
      exact Reads.nil
    | some object =>
      simp only [hobject, Option.map_some, Option.getD_some] at hfirst ⊢
      exact parse_lidar_cfg_reads (section_object_is_object hobject) hfirst

/-- The lists of a document, entry by entry: how long they are and what each entry is. -/
structure FaithfulLists (cfgs : Cfgs) (doc : Value ρ) : Prop where
  lidars : List.Forall₂ Faithful cfgs.lidars_cfg (lidars_written doc)
  customs : List.Forall₂ Faithful cfgs.custom_lidars_cfg (customs_written doc)

theorem forall₂_faithful_iff {cfgs : List define.LivoxLidarCfg} {sources : List (Source ρ)}
    (h : List.Forall₂ ReadFrom cfgs sources) :
    List.Forall₂ Faithful cfgs sources ↔ ∀ source ∈ sources, Fits source := by
  induction h with
  | nil => simp
  | cons hread _ ih => rw [List.forall₂_cons, List.forall_mem_cons, faithful_iff_fits hread, ih]

/-- The reader is faithful exactly for the documents that it loses nothing of: every port that a
configuration is read from has 16 bits, and every address is free of zeros. -/
theorem parse_faithful_iff {parsed : ParsedCfg} (h : parse doc = .ok parsed) :
    FaithfulLists parsed.cfgs doc ↔
      (∀ source ∈ lidars_written doc, Fits source) ∧ ∀ source ∈ customs_written doc, Fits source := by
  have hdoc := ((parse_outcome doc).accepted.mp ⟨parsed, h⟩).1
  obtain ⟨sdk_framework_cfg, -, h⟩ := bind_eq_ok_iff.mp h
  obtain ⟨lidar_logger_cfg, -, h⟩ := bind_eq_ok_iff.mp h
  obtain ⟨cfgs, hcfgs, h⟩ := bind_eq_ok_iff.mp h
  obtain rfl := Except.ok.inj h
  have hreads := parse_sections_reads hdoc hcfgs
  constructor
  · intro hfaithful
    exact ⟨(forall₂_faithful_iff hreads.lidars).mp hfaithful.lidars,
      (forall₂_faithful_iff hreads.customs).mp hfaithful.customs⟩
  · rintro ⟨hlidars, hcustoms⟩
    exact ⟨(forall₂_faithful_iff hreads.lidars).mpr hlidars,
      (forall₂_faithful_iff hreads.customs).mpr hcustoms⟩

/-- A document with one lidar of one host. -/
def sample_doc (point_data_port : Int) : Value Unit :=
  .object [("MID360", .object
    [("lidar_net_info", .object
      [("cmd_data_port", .integer 56100), ("push_msg_port", .integer 56200),
        ("point_data_port", .integer 56300), ("imu_data_port", .integer 56400),
        ("log_data_port", .integer 56500)]),
      ("host_net_info", .array [.object
        [("lidar_ip", .array [.string [49, 46, 50, 46, 51, 46, 52]]),
          ("host_ip", .string [49, 46, 50, 46, 51, 46, 53]),
          ("cmd_data_port", .integer 56101), ("push_msg_port", .integer 56201),
          ("point_data_port", .integer point_data_port), ("imu_data_port", .integer 56401),
          ("log_data_port", .integer 56501)]])])]

theorem sample_doc_fits : ∀ source ∈ customs_written (sample_doc 56301), Fits source := by
  intro source hmem
  obtain rfl := List.mem_singleton.mp hmem
  refine ⟨by decide, ?_, ?_, ?_, ?_⟩
  · rintro _ ⟨⟩ name hname number hnumber
    fin_cases hname <;> cases hnumber <;> decide
  · rintro _ ⟨⟩
    decide
  · rintro _ ⟨⟩
  · intro name hname number hnumber
    fin_cases hname <;> cases hnumber <;> decide

theorem parse_faithful_iff_sample :
    ∃ parsed, parse (sample_doc 56301) = .ok parsed ∧
      FaithfulLists parsed.cfgs (sample_doc 56301) :=
  ⟨_, rfl, (parse_faithful_iff rfl).mpr ⟨fun _ hmem => (List.not_mem_nil hmem).elim, sample_doc_fits⟩⟩

/-- A port of 17 bits is accepted, and cut. -/
theorem parse_cuts_port :
    ¬ ∀ (doc : Value Unit) (parsed : ParsedCfg), parse doc = .ok parsed →
      FaithfulLists parsed.cfgs doc := by
  intro h
  have hcustoms := (h (sample_doc 65837) _ rfl).customs
  cases hcustoms with
  | cons hfaithful _ =>
    have hport := hfaithful.host_ports ("point_data_port", 301) (by simp [Ports.named, host_ports])
    cases Option.some.inj hport

end Lists

end parse_cfg_file

end livox_lidar
