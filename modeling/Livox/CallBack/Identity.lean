import Livox.CallBack.Spec
import Livox.Lddc

open checked execution

namespace livox_ros

/-- What changes the device table: the registration of a configured lidar, and
the report of any lidar. -/
inductive TableEvent (F : Type) where
  | register (config : UserLivoxLidarConfig F)
  | report (handle : UInt32)

namespace LdsLidar

variable {F : Type}

def table_step (lds : LdsLidar F) : TableEvent F → Checked (LdsLidar F)
  | .register config => do
    let (lds, _) ← lds.register_lidar config
    .ok lds
  | .report handle => do
    let (lds, _) ← lidar_info_change_callback lds handle
    .ok lds

/-- The device is that of the lidar, and so is what the publishers derive from
it. -/
structure Identifies (device : LidarDevice F) (handle : UInt32) : Prop where
  lidar_type : device.lidar_type = LidarProtoType.kLivoxLidarType.val
  own_handle : device.handle = handle
  lidar_id : init_custom_msg_lidar_id device = handle.toUInt8
  topic : private_pub_topic device =
    "livox/lidar_" ++ replace_period_by_underline (ip_num_to_string handle)
  imu_topic : private_imu_pub_topic device =
    "livox/imu_" ++ replace_period_by_underline (ip_num_to_string handle)

theorem identifies_iff {device : LidarDevice F} {handle : UInt32} :
    Identifies device handle ↔
      device.lidar_type = LidarProtoType.kLivoxLidarType.val ∧ device.handle = handle := by
  constructor
  · exact fun h => ⟨h.lidar_type, h.own_handle⟩
  · rintro ⟨htype, rfl⟩
    have hid : init_custom_msg_lidar_id device = device.handle.toUInt8 := if_pos htype
    exact ⟨htype, rfl, hid, rfl, rfl⟩

/-- The index at which a lidar's packets are stored is one of the table, holds
the device of that lidar, and is no other lidar's. -/
structure Consistent (lds : LdsLidar F) : Prop where
  identity : ∀ handle index, lds.get_lidar_device handle = some index →
    ∃ device, index.toNat < kMaxSourceLidar ∧ lds.lidars[index.toNat]? = some device ∧
      Identifies device handle
  distinct : ∀ handle other index, lds.get_lidar_device handle = some index →
    lds.get_lidar_device other = some index → handle = other

/-- The guard: a report admits no lidar to the table, except the one whose
handle is that of an empty device. -/
def AdmitsNothingNew [Zero F] (lds : LdsLidar F) : TableEvent F → Prop
  | .register _ => True
  | .report handle =>
    lds.device_of handle ≠ none ∨ lds.cache_index.free_slot = none ∨ handle = 0

/-- Each lidar of the table has its own device. -/
structure Identified [Zero F] (lds : LdsLidar F) : Prop where
  registry : lds.Registry
  identifies : ∀ handle device, lds.device_of handle = some device → Identifies device handle

variable [Zero F]

theorem Identified.consistent {lds : LdsLidar F} (h : lds.Identified) : lds.Consistent where
  identity := by
    intro handle index hindex
    obtain ⟨device, hread, hdevice⟩ := h.registry.lidar_eq hindex
    refine ⟨device, h.registry.index_lt hindex, ?_, h.identifies handle device hdevice⟩
    rwa [device_of, hindex] at hdevice
  distinct := fun _ _ _ hhandle hother => h.registry.accounted.index_of_injective hhandle hother

theorem new_identified : (new : LdsLidar F).Identified where
  registry := new_registry
  identifies := by
    intro handle device hdevice
    obtain ⟨config, hconfig, _⟩ := new_filled.device handle device hdevice
    cases hconfig

/-- Storing for a lidar a device that identifies it. -/
theorem Identified.stored {lds t : LdsLidar F} (h : lds.Identified) {handle : UInt32}
    {device : LidarDevice F} (hstored : lds.Stored handle device t)
    (hdevice : Identifies device handle) : t.Identified where
  registry := hstored.registry
  identifies := by
    intro other found hfound
    rw [hstored.device_of] at hfound
    split at hfound
    · rename_i heq
      subst heq
      obtain rfl := Option.some.inj hfound
      exact hdevice
    · exact h.identifies other found hfound

/-- Registering a lidar that has a place makes its device identify it, whatever
the device was. -/
theorem Identified.register {lds t : LdsLidar F} (h : lds.Identified)
    {config : UserLivoxLidarConfig F} (hstep : lds.table_step (.register config) = .ok t) :
    t.Identified := by
  cases hplace : lds.place_for config.handle with
  | none =>
    simp only [table_step, h.registry.register_lidar_full hplace, ok_bind] at hstep
    cases hstep
    exact h
  | some device =>
    obtain ⟨u, hregister, hstored⟩ := h.registry.register_lidar hplace
    simp only [table_step, hregister, ok_bind] at hstep
    cases hstep
    exact h.stored hstored (identifies_iff.mpr ⟨rfl, rfl⟩)

/-- A report that admits nothing new changes no identity. -/
theorem Identified.report {lds t : LdsLidar F} (h : lds.Identified) {handle : UInt32}
    (hguard : lds.AdmitsNothingNew (.report handle))
    (hstep : lds.table_step (.report handle) = .ok t) : t.Identified := by
  cases hdevice : lds.device_of handle with
  | some device =>
    obtain ⟨u, hcallback, hstored⟩ := info_change_of_device h.registry hdevice
    simp only [table_step, hcallback, ok_bind] at hstep
    cases hstep
    have hsame := send_config_same device
    have hidentifies := h.identifies handle device hdevice
    refine h.stored hstored (identifies_iff.mpr ⟨?_, ?_⟩)
    · exact hsame.lidar_type.trans hidentifies.lidar_type
    · exact hsame.identity.trans hidentifies.own_handle
  | none =>
    by_cases hfull : lds.cache_index.free_slot = none
    · simp only [table_step, info_change_of_full h.registry hdevice hfull, ok_bind] at hstep
      cases hstep
      exact h
    · obtain ⟨u, hcallback, hstored⟩ := info_change_of_new h.registry hdevice hfull
      simp only [table_step, hcallback, ok_bind] at hstep
      cases hstep
      have hzero : handle = 0 := (hguard.resolve_left (not_not.mpr hdevice)).resolve_left hfull
      exact h.stored hstored (identifies_iff.mpr ⟨rfl, hzero.symm⟩)

/-- A lidar that is admitted gets a device with the handle 0. -/
theorem admission_not_consistent {lds : LdsLidar F} (h : lds.Identified) {event : TableEvent F}
    (hguard : ¬ lds.AdmitsNothingNew event) : ∃ t, lds.table_step event = .ok t ∧ ¬ t.Consistent := by
  cases event with
  | register config => exact absurd trivial hguard
  | report handle =>
    obtain ⟨hnew, hrest⟩ := not_or.mp hguard
    obtain ⟨hroom, hhandle⟩ := not_or.mp hrest
    obtain ⟨t, hcallback, hstored⟩ := info_change_of_new h.registry (not_not.mp hnew) hroom
    refine ⟨t, by simp only [table_step, hcallback, ok_bind], fun hconsistent => hhandle ?_⟩
    have hdevice : t.device_of handle = some (admitted_device F) := by
      rw [hstored.device_of, if_pos rfl]
    obtain ⟨index, hindex⟩ := hstored.registry.index_of_device hdevice
    obtain ⟨device, _, hread, hidentifies⟩ := hconsistent.identity handle index hindex
    rw [device_of, hindex] at hdevice
    obtain rfl := Option.some.inj (hread.symm.trans hdevice)
    exact hidentifies.own_handle.symm

end LdsLidar

/-- The table and the cache agree in exactly the runs of registrations and
reports, in any order, in which no report admits a lidar. -/
theorem registry_consistent_iff {F : Type} [Zero F] (events : List (TableEvent F)) :
    StatesSatisfy LdsLidar.table_step LdsLidar.Consistent LdsLidar.new events ↔
      StepsSatisfy LdsLidar.table_step LdsLidar.AdmitsNothingNew LdsLidar.new events := by
  refine statesSatisfy_iff_stepsSatisfy (fun (lds : LdsLidar F) (h : lds.Identified) => h.consistent)
    ?_ (fun lds event h hguard => LdsLidar.admission_not_consistent h hguard)
    LdsLidar.new_identified events
  intro lds event t h hguard hstep
  cases event with
  | register config => exact h.register hstep
  | report handle => exact h.report hguard hstep

/-- The table is empty and the lidar 192.168.1.100 is reported: its messages
are published on the topic of the address 0.0.0.0. -/
theorem reported_lidar_loses_identity :
    ¬ StatesSatisfy LdsLidar.table_step LdsLidar.Consistent (LdsLidar.new : LdsLidar ℝ)
      [.report 0x6401A8C0] := by
  intro hstates
  obtain ⟨t, hrun, hindex, hzero⟩ : ∃ t : LdsLidar ℝ,
      exec LdsLidar.table_step LdsLidar.new [.report 0x6401A8C0] = .ok t ∧
        t.get_lidar_device 0x6401A8C0 = some 0 ∧ t.lidars[0]?.map LidarDevice.handle = some 0 :=
    ⟨_, rfl, by decide +kernel, by decide +kernel⟩
  obtain ⟨device, _, hread, hidentifies⟩ := (hstates.last hrun).identity _ _ hindex
  have hhandle : t.lidars[0]?.map LidarDevice.handle = some 0x6401A8C0 := by
    rw [← hidentifies.own_handle]
    exact congrArg (Option.map LidarDevice.handle) hread
  simp [hhandle] at hzero

end livox_ros
