import Livox.LdsLidar.Registry

open checked

namespace livox_ros

namespace LdsLidar

variable {F : Type}

/-- The configuration of a lidar: of several with its handle, the last one. -/
def last_config (configs : List (UserLivoxLidarConfig F)) (handle : UInt32) :
    Option (UserLivoxLidarConfig F) :=
  configs.reverse.find? fun config => config.handle == handle

theorem last_config_append (earlier later : List (UserLivoxLidarConfig F)) (handle : UInt32) :
    last_config (earlier ++ later) handle =
      (last_config later handle).or (last_config earlier handle) := by
  simp [last_config, List.find?_append]

theorem last_config_concat (configs : List (UserLivoxLidarConfig F))
    (config : UserLivoxLidarConfig F) (handle : UInt32) :
    last_config (configs ++ [config]) handle =
      if config.handle = handle then some config else last_config configs handle := by
  by_cases heq : config.handle = handle
  · simp [last_config, heq]
  · simp [last_config, heq]

theorem last_config_mem {configs : List (UserLivoxLidarConfig F)} {handle : UInt32}
    {config : UserLivoxLidarConfig F} (h : last_config configs handle = some config) :
    config ∈ configs ∧ config.handle = handle :=
  ⟨by simpa using List.mem_of_find?_eq_some h, by simpa using List.find?_some h⟩

variable [Zero F]

theorem place_for_eq_none_iff {lds : LdsLidar F} {handle : UInt32} :
    lds.place_for handle = none ↔
      lds.device_of handle = none ∧ lds.cache_index.free_slot = none := by
  unfold place_for
  cases lds.device_of handle <;> simp

/-- Registering a lidar for which there is a place fills that place in. -/
theorem Registry.register_lidar {lds : LdsLidar F} (h : lds.Registry)
    {config : UserLivoxLidarConfig F} {device : LidarDevice F}
    (hplace : lds.place_for config.handle = some device) :
    ∃ t, lds.register_lidar config = .ok (t, some (lidar_ext_parameter config)) ∧
      lds.Stored config.handle (fill_in config device) t := by
  obtain ⟨index, cache_index, t, hget, hmodify, hstored⟩ := h.place hplace (fill_in config)
  exact ⟨t, by simp [LdsLidar.register_lidar, hget, hmodify], hstored⟩

theorem Registry.register_lidar_full {lds : LdsLidar F} (h : lds.Registry)
    {config : UserLivoxLidarConfig F} (hplace : lds.place_for config.handle = none) :
    lds.register_lidar config = .ok (lds, none) := by
  simp [LdsLidar.register_lidar, h.place_full hplace]

/-- The table after these configurations have been registered: each of its
devices has been filled in from its configuration, and each lidar with a
configuration is in it or came too late for a slot. -/
structure Filled (configs : List (UserLivoxLidarConfig F)) (lds : LdsLidar F) : Prop where
  registry : lds.Registry
  device : ∀ handle device, lds.device_of handle = some device →
    ∃ config, last_config configs handle = some config ∧
      device = fill_in config (LidarDevice.zero F)
  present : ∀ config ∈ configs,
    lds.device_of config.handle ≠ none ∨ lds.cache_index.free_slot = none

theorem new_filled : (new : LdsLidar F).Filled [] where
  registry := new_registry
  device := by
    intro handle device hdevice
    have hnone : (new : LdsLidar F).get_lidar_device handle = none := by
      change CacheIndex.new.index_of handle = none
      rw [CacheIndex.index_of_eq]
      simp [CacheIndex.new]
    simp [device_of, hnone] at hdevice
  present := by simp

/-- A place holds nothing that `fill_in` would leave behind. -/
theorem Filled.fill_place {configs : List (UserLivoxLidarConfig F)} {lds : LdsLidar F}
    (h : lds.Filled configs) {handle : UInt32} {device : LidarDevice F}
    (hplace : lds.place_for handle = some device) (config : UserLivoxLidarConfig F) :
    fill_in config device = fill_in config (LidarDevice.zero F) := by
  unfold place_for at hplace
  cases hdevice : lds.device_of handle with
  | some found =>
    obtain rfl : found = device := by simpa [hdevice] using hplace
    obtain ⟨earlier, _, rfl⟩ := h.device handle found hdevice
    rfl
  | none =>
    obtain ⟨i, _, rfl⟩ : ∃ i, lds.cache_index.free_slot = some i ∧ LidarDevice.zero F = device := by
      simpa [hdevice] using hplace
    rfl

theorem Filled.register {configs : List (UserLivoxLidarConfig F)} {lds : LdsLidar F}
    (h : lds.Filled configs) (config : UserLivoxLidarConfig F) :
    ∃ t lidar_param, lds.register_lidar config = .ok (t, lidar_param) ∧
      t.Filled (configs ++ [config]) := by
  cases hplace : lds.place_for config.handle with
  | none =>
    refine ⟨lds, none, h.registry.register_lidar_full hplace, h.registry, ?_, ?_⟩
    · intro handle device hdevice
      have hne : config.handle ≠ handle := by
        rintro rfl
        exact absurd ((place_for_eq_none_iff.mp hplace).1.symm.trans hdevice) (by simp)
      rw [last_config_concat, if_neg hne]
      exact h.device handle device hdevice
    · exact fun _ _ => Or.inr (place_for_eq_none_iff.mp hplace).2
  | some device =>
    obtain ⟨t, hregister, hstored⟩ := h.registry.register_lidar hplace
    refine ⟨t, _, hregister, hstored.registry, ?_, ?_⟩
    · intro handle found hfound
      rw [hstored.device_of] at hfound
      rw [last_config_concat]
      by_cases heq : handle = config.handle
      · rw [if_pos heq] at hfound
        refine ⟨config, if_pos heq.symm, ?_⟩
        rw [← h.fill_place hplace config]
        exact (Option.some.inj hfound).symm
      · rw [if_neg heq] at hfound
        rw [if_neg (Ne.symm heq)]
        exact h.device handle found hfound
    · intro other hother
      rw [hstored.device_of]
      split
      · exact Or.inl (by simp)
      · rename_i hne
        rcases List.mem_append.mp hother with hold | hnew
        · exact (h.present other hold).imp_right hstored.full
        · obtain rfl := List.mem_singleton.mp hnew
          exact absurd rfl hne

/-- `InitLivoxLidar` always completes, with every configuration registered. -/
theorem init_livox_lidar_filled (user_configs : List (UserLivoxLidarConfig F)) :
    ∃ lds lidar_params, new.init_livox_lidar user_configs = .ok (lds, lidar_params) ∧
      lds.Filled user_configs := by
  have hrun : ∀ (configs rest : List (UserLivoxLidarConfig F)) (lds : LdsLidar F),
      lds.Filled configs → ∃ t lidar_params,
        lds.init_livox_lidar rest = .ok (t, lidar_params) ∧ t.Filled (configs ++ rest) := by
    intro configs rest
    induction rest generalizing configs with
    | nil => exact fun lds hlds => ⟨lds, [], rfl, by simpa using hlds⟩
    | cons config rest ih =>
      intro lds hlds
      obtain ⟨t, lidar_param, hregister, ht⟩ := hlds.register config
      obtain ⟨u, lidar_params, hinit, hu⟩ := ih (configs ++ [config]) t ht
      refine ⟨u, lidar_param.toList ++ lidar_params, by simp [init_livox_lidar, hregister, hinit], ?_⟩
      rwa [List.append_assoc] at hu
  exact hrun [] user_configs new new_filled

end LdsLidar

end livox_ros
