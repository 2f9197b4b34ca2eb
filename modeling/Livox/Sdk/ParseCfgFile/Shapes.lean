import Livox.Sdk.ParseCfgFile

open checked rapidjson

namespace livox_lidar

namespace parse_cfg_file

section Outcome

variable {α β : Type} {x : Parse α} {f : α → Parse β} {safe safe' shape shape' : Prop}

/-- How a function of the reader ends: without a call that an accessor does not allow when `safe`
holds, and with a result when `shape` holds. -/
structure Outcome (x : Parse α) (safe shape : Prop) : Prop where
  settled : (∀ fault, x ≠ .error (.fault fault)) ↔ safe
  accepted : (∃ a, x = .ok a) ↔ shape

theorem Outcome.ok (a : α) : Outcome (.ok a) True True where
  settled := by simp
  accepted := by simp

theorem Outcome.rejected : Outcome (.error .rejected : Parse α) True False where
  settled := by simp
  accepted := by simp

theorem Outcome.fault (fault : Fault) : Outcome (.error (.fault fault) : Parse α) False False where
  settled := by simp
  accepted := by simp

theorem Outcome.congr (h : Outcome x safe shape) (hsafe : safe ↔ safe') (hshape : shape ↔ shape') :
    Outcome x safe' shape' where
  settled := h.settled.trans hsafe
  accepted := h.accepted.trans hshape

/-- What comes second counts when the first has given a result. -/
theorem Outcome.bind (h : Outcome x safe shape) (hf : ∀ a, x = .ok a → Outcome (f a) safe' shape') :
    Outcome (x >>= f) (safe ∧ (shape → safe')) (shape ∧ shape') := by
  cases x with
  | ok a =>
    have hsafe : safe := h.settled.mp (by simp)
    have hshape : shape := h.accepted.mp ⟨a, rfl⟩
    exact (hf a rfl).congr (by simp [hsafe, hshape]) (by simp [hshape])
  | error stop =>
    have hshape : ¬ shape := fun hshape => by
      obtain ⟨a, ha⟩ := h.accepted.mpr hshape
      cases ha
    refine ⟨⟨fun hsettled => ⟨h.settled.mp fun fault heq => hsettled fault (by cases heq; rfl),
      fun hs => absurd hs hshape⟩, ?_⟩, bind_completes_iff h.accepted fun a ha => by cases ha⟩
    rintro ⟨hsafe, -⟩ fault heq
    exact h.settled.mpr hsafe fault (by cases heq; rfl)

/-- A function that never calls an accessor in vain, before another of that kind. -/
theorem Outcome.bind_safe (h : Outcome x True shape)
    (hf : ∀ a, x = .ok a → Outcome (f a) True shape') : Outcome (x >>= f) True (shape ∧ shape') :=
  (h.bind hf).congr (by simp) Iff.rfl

@[simp] theorem call_ok (a : α) : call (.ok a) = .ok a := rfl

end Outcome

section Shapes

variable {ρ : Type}

/-! The shapes of the parts of a document. -/

def UintAt (object : Value ρ) (name : String) : Prop :=
  ∃ value, object.lookup name = some value ∧ value.is_uint = true

def TextOrAbsent (object : Value ρ) (name : String) : Prop :=
  ∀ value, object.lookup name = some value → value.is_string = true

def port_names : List String :=
  ["cmd_data_port", "push_msg_port", "point_data_port", "imu_data_port", "log_data_port"]

def PortsShape (object : Value ρ) : Prop := ∀ name ∈ port_names, UintAt object name

def LidarNetInfoShape (object : Value ρ) : Prop :=
  ∃ info, object.lookup "lidar_net_info" = some info ∧ info.is_object = true ∧ PortsShape info

structure HostNetInfoShape (host : Value ρ) : Prop where
  has_ip : host.lookup "host_ip" ≠ none ∨ host.lookup "cmd_data_ip" ≠ none
  host_ip : TextOrAbsent host "host_ip"
  cmd_data_ip : TextOrAbsent host "cmd_data_ip"
  multicast_ip : TextOrAbsent host "multicast_ip"
  ports : PortsShape host

def TypeShape (object host : Value ρ) : Prop := LidarNetInfoShape object ∧ HostNetInfoShape host

/-- The addresses of a host entry that has some. -/
def lidar_ips (entry : Value ρ) : Option (List (Value ρ)) :=
  (entry.lookup "lidar_ip").bind Value.elements?

/-- Of an entry with an empty list of addresses nothing else is looked at. -/
def EntryShape (object entry : Value ρ) : Prop :=
  match lidar_ips entry with
  | none => TypeShape object entry
  | some ips => ips = [] ∨ (∀ ip ∈ ips, ip.is_string = true) ∧ TypeShape object entry

/-- Every entry is an object, up to the first that is refused. -/
def EntriesSafe (object : Value ρ) : List (Value ρ) → Prop
  | [] => True
  | entry :: rest => entry.is_object = true ∧ (EntryShape object entry → EntriesSafe object rest)

def EntriesShape (object : Value ρ) (entries : List (Value ρ)) : Prop :=
  ∀ entry ∈ entries, entry.is_object = true ∧ EntryShape object entry

/-- The reader gets past a section without a call that is not allowed. -/
def SectionSafe (object : Value ρ) : Prop :=
  ∀ entries, object.lookup "host_net_info" = some (.array entries) → EntriesSafe object entries

/-- A section that is accepted: a list of entries, or one host. -/
def SectionShape (object : Value ρ) : Prop :=
  ∃ hosts, object.lookup "host_net_info" = some hosts ∧
    ((∃ entries, hosts = .array entries ∧ EntriesShape object entries) ∨
      hosts.is_object = true ∧ TypeShape object hosts)

/-- The section of a name, which is passed over when it is no object. -/
def section_object (doc : Value ρ) (name : String) : Option (Value ρ) :=
  (doc.lookup name).bind fun object => if object.is_object then some object else none

/-- The sections are safe, up to the first that is refused. -/
def SectionsSafe (doc : Value ρ) : List (String × UInt8) → Prop
  | [] => True
  | (name, _) :: rest =>
    (∀ object, section_object doc name = some object → SectionSafe object) ∧
      ((∀ object, section_object doc name = some object → SectionShape object) →
        SectionsSafe doc rest)

def SectionsShape (doc : Value ρ) (sections : List (String × UInt8)) : Prop :=
  ∀ name device_type object, (name, device_type) ∈ sections →
    section_object doc name = some object → SectionShape object

/-- The settings in front of the sections. With `lidar_log_enable` the others must be there. -/
structure SettingsShape (doc : Value ρ) : Prop where
  master_sdk : ∀ value, doc.lookup "master_sdk" = some value → value.is_bool = true
  lidar_log : ∀ value, doc.lookup "lidar_log_enable" = some value →
    value.is_bool = true ∧ UintAt doc "lidar_log_cache_size_MB" ∧
      ∃ path, doc.lookup "lidar_log_path" = some path ∧ path.is_string = true

/-- The reader gets through the document without a call that is not allowed. -/
def DocumentSafe (doc : Value ρ) : Prop :=
  doc.is_object = true ∧ (SettingsShape doc → SectionsSafe doc dev_type_map)

variable {object host : Value ρ}

/-- Looking for a member of an object, and what is done with one that is there. -/
theorem member_eq {α : Type} (hobject : object.is_object = true) (name : String)
    (found : Value ρ → Parse α) (absent : Parse α) :
    (do
      if ← call (object.has_member name) then do
        let value ← call (object.member name)
        found value
      else absent) = (object.lookup name).elim absent found := by
  rw [Value.has_member_object hobject, Value.member]
  cases object.lookup name <;> rfl

/-- What has looked for a member and come back has been given an object. -/
theorem is_object_of_ok {α : Type} {name : String} {f : Bool → Parse α} {a : α}
    (h : (call (object.has_member name) >>= f) = .ok a) : object.is_object = true := by
  by_contra hnot
  rw [Value.has_member_not_object (by simpa using hnot)] at h
  cases h

/-- Testing a value for an unsigned integer, and what is done with one. -/
theorem uint_eq {α : Type} (value : Value ρ) (found : UInt32 → Parse α) :
    (if value.is_uint then do
      let number ← call value.get_uint
      found number
    else .error .rejected) = value.uint?.elim (.error .rejected) found := by
  rcases Option.eq_none_or_eq_some value.uint? with h | ⟨number, h⟩ <;>
    simp [Value.is_uint, Value.get_uint, Value.demand, h]

theorem string_eq {α : Type} (value : Value ρ) (found : List UInt8 → Parse α) :
    (if value.is_string then do
      let text ← call value.get_string
      found text
    else .error .rejected) = value.string?.elim (.error .rejected) found := by
  rcases Option.eq_none_or_eq_some value.string? with h | ⟨text, h⟩ <;>
    simp [Value.is_string, Value.get_string, Value.demand, h]

theorem parse_port_eq (hobject : object.is_object = true) (name : String) :
    parse_port object name = (object.lookup name).elim (.error .rejected) fun value =>
      value.uint?.elim (.error .rejected) fun number => .ok number.toUInt16 := by
  simp only [parse_port, member_eq hobject, uint_eq]

theorem parse_text_eq (hobject : object.is_object = true) (name : String) :
    parse_text object name = (object.lookup name).elim (.ok none) fun value =>
      value.string?.elim (.error .rejected) fun text => .ok (some text) := by
  simp only [parse_text, member_eq hobject, string_eq]

theorem parse_port_outcome (hobject : object.is_object = true) (name : String) :
    Outcome (parse_port object name) True (UintAt object name) := by
  rw [parse_port_eq hobject, UintAt]
  cases object.lookup name with
  | none => exact Outcome.rejected.congr Iff.rfl (by simp)
  | some value =>
    simp only [Option.elim_some, Option.some.injEq, exists_eq_left', Value.is_uint]
    cases value.uint? with
    | none => exact Outcome.rejected.congr Iff.rfl (by simp)
    | some number => exact (Outcome.ok number.toUInt16).congr Iff.rfl (by simp)

theorem parse_text_outcome (hobject : object.is_object = true) (name : String) :
    Outcome (parse_text object name) True (TextOrAbsent object name) := by
  rw [parse_text_eq hobject, TextOrAbsent]
  cases object.lookup name with
  | none => exact (Outcome.ok none).congr Iff.rfl (by simp)
  | some value =>
    simp only [Option.elim_some, Option.some.injEq, forall_eq', Value.is_string]
    cases value.string? with
    | none => exact Outcome.rejected.congr Iff.rfl (by simp)
    | some text => exact (Outcome.ok (some text)).congr Iff.rfl (by simp)

theorem parse_ports_outcome (hobject : object.is_object = true) :
    Outcome (parse_ports object) True (PortsShape object) := by
  have hport := fun name => parse_port_outcome hobject name
  have hports := (hport "cmd_data_port").bind_safe fun cmd_data_port _ =>
    (hport "push_msg_port").bind_safe fun push_msg_port _ =>
    (hport "point_data_port").bind_safe fun point_data_port _ =>
    (hport "imu_data_port").bind_safe fun imu_data_port _ =>
    (hport "log_data_port").bind_safe fun log_data_port _ =>
    Outcome.ok (Ports.mk cmd_data_port push_msg_port point_data_port imu_data_port log_data_port)
  exact hports.congr Iff.rfl (by simp [PortsShape, port_names])

theorem parse_lidar_net_info_outcome (hobject : object.is_object = true) (lidar_ipaddr : List UInt8) :
    Outcome (parse_lidar_net_info object lidar_ipaddr) True (LidarNetInfoShape object) := by
  rw [parse_lidar_net_info, member_eq hobject, LidarNetInfoShape]
  cases object.lookup "lidar_net_info" with
  | none => exact Outcome.rejected.congr Iff.rfl (by simp)
  | some info =>
    simp only [Option.elim_some, Option.some.injEq, exists_eq_left']
    cases hinfo : info.is_object with
    | false => exact Outcome.rejected.congr Iff.rfl (by simp)
    | true =>
      have hports := (parse_ports_outcome hinfo).bind_safe fun ports _ =>
        Outcome.ok (LivoxLidarNetInfo.mk lidar_ipaddr ports.cmd_data_port ports.push_msg_port
          ports.point_data_port ports.imu_data_port ports.log_data_port)
      exact hports.congr Iff.rfl (by simp)

theorem parse_host_net_info_outcome (hhost : host.is_object = true) :
    Outcome (parse_host_net_info host) True (HostNetInfoShape host) := by
  simp only [parse_host_net_info, Value.has_member_object hhost, call_ok, ok_bind]
  by_cases hip : host.lookup "host_ip" ≠ none ∨ host.lookup "cmd_data_ip" ≠ none
  · have hnot : (!(host.lookup "host_ip").isSome && !(host.lookup "cmd_data_ip").isSome) = false := by
      rcases hip with hip | hip <;>
        simp [Option.isSome_iff_ne_none.mpr hip]
    rw [hnot]
    have hall := (parse_text_outcome hhost "host_ip").bind_safe fun host_ip _ =>
      (parse_text_outcome hhost "cmd_data_ip").bind_safe fun cmd_data_ip _ =>
      (parse_text_outcome hhost "multicast_ip").bind_safe fun multicast_ip _ =>
      (parse_ports_outcome hhost).bind_safe fun ports _ =>
      Outcome.ok (define.HostNetInfo.mk
        ⟨host_ip.getD (cmd_data_ip.getD []), multicast_ip.getD [], ports.push_msg_port,
          ports.point_data_port, ports.imu_data_port⟩ ports.cmd_data_port ports.log_data_port)
    refine hall.congr Iff.rfl ⟨?_, ?_⟩
    · rintro ⟨htext, hcmd, hmulticast, hports, -⟩
      exact ⟨hip, htext, hcmd, hmulticast, hports⟩
    · intro h
      exact ⟨h.host_ip, h.cmd_data_ip, h.multicast_ip, h.ports, trivial⟩
  · have hboth : host.lookup "host_ip" = none ∧ host.lookup "cmd_data_ip" = none := by
      simpa using hip
    rw [hboth.1, hboth.2]
    exact Outcome.rejected.congr Iff.rfl ⟨False.elim, fun h => hip h.has_ip⟩

theorem parse_type_lidar_cfg_outcome (hobject : object.is_object = true)
    (hhost : host.is_object = true) (device_type : UInt8) (lidar_ipaddr : List UInt8) :
    Outcome (parse_type_lidar_cfg object host device_type lidar_ipaddr) True
      (TypeShape object host) := by
  have hboth := (parse_lidar_net_info_outcome hobject lidar_ipaddr).bind_safe fun lidar_net_info _ =>
    (parse_host_net_info_outcome hhost).bind_safe fun host_net_info _ =>
    Outcome.ok (define.LivoxLidarCfg.mk device_type lidar_net_info host_net_info)
  exact hboth.congr Iff.rfl (by simp [TypeShape])

theorem parse_lidar_ips_outcome (hobject : object.is_object = true) (hhost : host.is_object = true)
    (device_type : UInt8) (ips : List (Value ρ)) :
    Outcome (parse_lidar_ips object host device_type ips) True
      (ips = [] ∨ (∀ ip ∈ ips, ip.is_string = true) ∧ TypeShape object host) := by
  induction ips with
  | nil => exact (Outcome.ok _).congr Iff.rfl (by simp)
  | cons ip rest ih =>
    rw [parse_lidar_ips, string_eq]
    cases htext : ip.string? with
    | none => exact Outcome.rejected.congr Iff.rfl (by simp [Value.is_string, htext])
    | some lidar_ipaddr =>
      have hstring : ip.is_string = true := by simp [Value.is_string, htext]
      have hboth := (parse_type_lidar_cfg_outcome hobject hhost device_type lidar_ipaddr).bind_safe
        fun cfg _ => ih.bind_safe fun cfgs _ => Outcome.ok (cfg :: cfgs)
      refine hboth.congr Iff.rfl ⟨?_, ?_⟩
      · rintro ⟨htype, hrest, -⟩
        refine Or.inr ⟨fun other hmem => ?_, htype⟩
        rcases List.mem_cons.mp hmem with rfl | hmem
        · exact hstring
        · rcases hrest with rfl | ⟨hstrings, -⟩
          · cases hmem
          · exact hstrings other hmem
      · rintro (hnil | ⟨hstrings, htype⟩)
        · cases hnil
        · exact ⟨htype, Or.inr ⟨fun other hmem => hstrings other (List.mem_cons_of_mem ip hmem),
            htype⟩, trivial⟩

/-- The list of the addresses is looked up without a call that is not allowed. -/
theorem parse_host_entry_eq {entry : Value ρ} (hentry : entry.is_object = true) (object : Value ρ)
    (device_type : UInt8) :
    parse_host_entry object entry device_type =
      (match lidar_ips entry with
      | none => do
        let cfg ← parse_type_lidar_cfg object entry device_type []
        .ok { lidars_cfg := [cfg], custom_lidars_cfg := [] }
      | some ips => do
        let cfgs ← parse_lidar_ips object entry device_type ips
        .ok { lidars_cfg := [], custom_lidars_cfg := cfgs }) := by
  simp only [parse_host_entry, Value.has_member_object hentry, call_ok, ok_bind, lidar_ips]
  cases hlookup : entry.lookup "lidar_ip" with
  | none => rfl
  | some lidar_ip =>
    simp only [Option.isSome_some, if_true, Value.member, hlookup, Value.demand, call_ok,
      ok_bind, Option.bind_some]
    cases lidar_ip <;> rfl

theorem parse_host_entry_outcome (hobject : object.is_object = true) (entry : Value ρ)
    (device_type : UInt8) :
    Outcome (parse_host_entry object entry device_type) (entry.is_object = true)
      (entry.is_object = true ∧ EntryShape object entry) := by
  cases hentry : entry.is_object with
  | false =>
    have hfault : parse_host_entry object entry device_type = .error (.fault .precondition) := by
      rw [parse_host_entry, Value.has_member_not_object hentry]
      rfl
    rw [hfault]
    exact (Outcome.fault _).congr (by simp) (by simp)
  | true =>
    rw [parse_host_entry_eq hentry, EntryShape]
    cases lidar_ips entry with
    | none =>
      have hone := (parse_type_lidar_cfg_outcome hobject hentry device_type []).bind_safe
        fun cfg _ => Outcome.ok (Cfgs.mk [cfg] [])
      exact hone.congr (by simp) (by simp)
    | some ips =>
      have hall := (parse_lidar_ips_outcome hobject hentry device_type ips).bind_safe
        fun cfgs _ => Outcome.ok (Cfgs.mk [] cfgs)
      exact hall.congr (by simp) (by simp)

theorem parse_new_lidar_cfg_outcome (hobject : object.is_object = true) (device_type : UInt8)
    (entries : List (Value ρ)) :
    Outcome (parse_new_lidar_cfg object device_type entries) (EntriesSafe object entries)
      (EntriesShape object entries) := by
  induction entries with
  | nil => exact (Outcome.ok _).congr (by simp [EntriesSafe]) (by simp [EntriesShape])
  | cons entry rest ih =>
    have hboth := (parse_host_entry_outcome hobject entry device_type).bind fun cfgs _ =>
      ih.bind fun more _ => Outcome.ok (cfgs.append more)
    refine hboth.congr ?_ (by simp [EntriesShape])
    rw [EntriesSafe]
    tauto

theorem parse_lidar_cfg_outcome (hobject : object.is_object = true) (device_type : UInt8) :
    Outcome (parse_lidar_cfg object device_type) (SectionSafe object) (SectionShape object) := by
  rw [parse_lidar_cfg, member_eq hobject]
  cases hlookup : object.lookup "host_net_info" with
  | none => exact Outcome.rejected.congr (by simp [SectionSafe, hlookup]) (by simp [SectionShape, hlookup])
  | some hosts =>
    cases hosts with
    | array entries =>
      exact (parse_new_lidar_cfg_outcome hobject device_type entries).congr
        (by simp [SectionSafe, hlookup]) (by simp [SectionShape, hlookup, Value.is_object])
    | object members =>
      have hhost : (Value.object members).is_object = true := rfl
      have hone := (parse_type_lidar_cfg_outcome hobject hhost device_type []).bind_safe
        fun cfg _ => Outcome.ok (Cfgs.mk [cfg] [])
      exact hone.congr (by simp [SectionSafe, hlookup])
        (by simp [SectionShape, hlookup, Value.is_object])
    | _ =>
      exact Outcome.rejected.congr (by simp [SectionSafe, hlookup])
        (by simp [SectionShape, hlookup, Value.is_object])

variable {doc : Value ρ}

theorem parse_section_eq (hdoc : doc.is_object = true) (name : String) (device_type : UInt8) :
    parse_section doc name device_type =
      (match section_object doc name with
      | some object => parse_lidar_cfg object device_type
      | none => .ok { lidars_cfg := [], custom_lidars_cfg := [] }) := by
  rw [parse_section, member_eq hdoc, section_object]
  cases doc.lookup name with
  | none => rfl
  | some object =>
    rw [Option.elim_some, Option.bind_some]
    cases object.is_object <;> rfl

theorem section_object_is_object {name : String} (h : section_object doc name = some object) :
    object.is_object = true := by
  obtain ⟨found, -, hobject⟩ := Option.bind_eq_some_iff.mp h
  split at hobject
  · rename_i hfound
    obtain rfl := Option.some.inj hobject
    exact hfound
  · cases hobject

theorem parse_section_outcome (hdoc : doc.is_object = true) (name : String) (device_type : UInt8) :
    Outcome (parse_section doc name device_type)
      (∀ object, section_object doc name = some object → SectionSafe object)
      (∀ object, section_object doc name = some object → SectionShape object) := by
  rw [parse_section_eq hdoc]
  cases hobject : section_object doc name with
  | none => exact (Outcome.ok _).congr (by simp) (by simp)
  | some object =>
    exact (parse_lidar_cfg_outcome (section_object_is_object hobject) device_type).congr (by simp)
      (by simp)

theorem parse_sections_outcome (hdoc : doc.is_object = true) (sections : List (String × UInt8)) :
    Outcome (parse_sections doc sections) (SectionsSafe doc sections)
      (SectionsShape doc sections) := by
  induction sections with
  | nil => exact (Outcome.ok _).congr (by simp [SectionsSafe]) (by simp [SectionsShape])
  | cons entry rest ih =>
    obtain ⟨name, device_type⟩ := entry
    have hboth := (parse_section_outcome hdoc name device_type).bind fun cfgs _ =>
      ih.bind fun more _ => Outcome.ok (cfgs.append more)
    refine hboth.congr ?_ ?_
    · rw [SectionsSafe]
      tauto
    · constructor
      · rintro ⟨hfirst, hrest, -⟩ other type object hmem hobject
        rcases List.mem_cons.mp hmem with heq | hmem
        · cases heq
          exact hfirst object hobject
        · exact hrest other type object hmem hobject
      · intro h
        exact ⟨fun object => h name device_type object (by simp),
          fun other type object hmem => h other type object (List.mem_cons_of_mem _ hmem), trivial⟩

/-- A member that must be there, of a type with an accessor of its own. -/
theorem parse_member_outcome {α : Type} (hdoc : doc.is_object = true) (name : String)
    (get : Value ρ → Option α) :
    Outcome (parse_member doc name (fun value => (get value).isSome) fun value =>
      Value.demand (get value)) True
      (∃ value, doc.lookup name = some value ∧ (get value).isSome = true) := by
  rw [parse_member, member_eq hdoc]
  cases doc.lookup name with
  | none => exact Outcome.rejected.congr Iff.rfl (by simp)
  | some value =>
    simp only [Option.elim_some, Option.some.injEq, exists_eq_left']
    cases get value with
    | none => exact Outcome.rejected.congr Iff.rfl (by simp)
    | some a => exact (Outcome.ok a).congr Iff.rfl (by simp)

theorem parse_framework_cfg_outcome (hdoc : doc.is_object = true) :
    Outcome (parse_framework_cfg doc) True
      (∀ value, doc.lookup "master_sdk" = some value → value.is_bool = true) := by
  rw [parse_framework_cfg, member_eq hdoc]
  cases doc.lookup "master_sdk" with
  | none => exact (Outcome.ok _).congr Iff.rfl (by simp)
  | some value =>
    cases value with
    | bool master_sdk => exact (Outcome.ok _).congr Iff.rfl (by simp [Value.is_bool, Value.bool?])
    | _ => exact Outcome.rejected.congr Iff.rfl (by simp [Value.is_bool, Value.bool?])

theorem parse_logger_cfg_outcome (hdoc : doc.is_object = true) :
    Outcome (parse_logger_cfg doc) True
      (∀ value, doc.lookup "lidar_log_enable" = some value →
        value.is_bool = true ∧ UintAt doc "lidar_log_cache_size_MB" ∧
          ∃ path, doc.lookup "lidar_log_path" = some path ∧ path.is_string = true) := by
  rw [parse_logger_cfg, member_eq hdoc]
  cases doc.lookup "lidar_log_enable" with
  | none =>
    simp only [Option.elim_none, Value.has_member_object hdoc, Value.member, call_ok, ok_bind]
    cases doc.lookup "lidar_log_path" with
    | none => exact (Outcome.ok _).congr Iff.rfl (by simp)
    | some path => cases path <;> exact (Outcome.ok _).congr Iff.rfl (by simp)
  | some value =>
    cases value with
    | bool lidar_log_enable =>
      have hboth := (parse_member_outcome hdoc "lidar_log_cache_size_MB" Value.uint?).bind_safe
        fun size _ => (parse_member_outcome hdoc "lidar_log_path" Value.string?).bind_safe
        fun path _ => Outcome.ok (LivoxLidarLoggerCfg.mk lidar_log_enable size.toUInt64 path)
      exact hboth.congr Iff.rfl (by
        simp [Value.is_bool, Value.bool?, UintAt, Value.is_uint, Value.is_string])
    | _ => exact Outcome.rejected.congr Iff.rfl (by simp [Value.is_bool, Value.bool?])

/-- How the reader ends, for every document. -/
theorem parse_outcome (doc : Value ρ) :
    Outcome (parse doc) (DocumentSafe doc)
      (doc.is_object = true ∧ SettingsShape doc ∧ SectionsShape doc dev_type_map) := by
  cases hdoc : doc.is_object with
  | false =>
    have hfault : parse doc = .error (.fault .precondition) := by
      rw [parse, parse_framework_cfg, Value.has_member_not_object hdoc]
      rfl
    rw [hfault]
    exact (Outcome.fault _).congr (by simp [DocumentSafe, hdoc]) (by simp)
  | true =>
    have hall := (parse_framework_cfg_outcome hdoc).bind fun sdk_framework_cfg _ =>
      (parse_logger_cfg_outcome hdoc).bind fun lidar_logger_cfg _ =>
      (parse_sections_outcome hdoc dev_type_map).bind fun cfgs _ =>
      Outcome.ok (ParsedCfg.mk cfgs lidar_logger_cfg sdk_framework_cfg)
    refine hall.congr ?_ ?_
    · simp only [DocumentSafe, hdoc, true_and, implies_true, and_true]
      constructor
      · exact fun h hsettings => h hsettings.master_sdk hsettings.lidar_log
      · exact fun h hmaster hlog => h ⟨hmaster, hlog⟩
    · constructor
      · rintro ⟨hmaster, hlog, hsections, -⟩
        exact ⟨rfl, ⟨hmaster, hlog⟩, hsections⟩
      · rintro ⟨-, hsettings, hsections⟩
        exact ⟨hsettings.master_sdk, hsettings.lidar_log, hsections, trivial⟩

end Shapes

end parse_cfg_file

end livox_lidar
