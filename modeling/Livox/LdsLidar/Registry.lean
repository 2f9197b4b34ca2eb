import Livox.LdsLidar

open checked

namespace livox_ros

namespace LdsLidar

variable {F : Type}

/-- The device that the cache routes a handle to: what the table is for is this
partial map, and the slots are only how it is stored. -/
def device_of (lds : LdsLidar F) (handle : UInt32) : Option (LidarDevice F) :=
  match lds.get_lidar_device handle with
  | none => none
  | some index => lds.lidars[index.toNat]?

/-- The device that `GetFreeIndex` gives a lidar: its own, or else an unused
one, as long as there is one. -/
def place_for [Zero F] (lds : LdsLidar F) (handle : UInt32) : Option (LidarDevice F) :=
  match lds.device_of handle with
  | some device => some device
  | none => lds.cache_index.free_slot.map fun _ => LidarDevice.zero F

/-- The cache accounts for its slots, and nothing has been stored in a device
whose slot is free. -/
structure Registry [Zero F] (lds : LdsLidar F) : Prop where
  accounted : lds.cache_index.IsAccounted
  free : ∀ i : Fin kMaxSourceLidar, getElem lds.cache_index.index_cache i i.isLt = false →
    getElem lds.lidars i i.isLt = LidarDevice.zero F

theorem new_registry [Zero F] : (new : LdsLidar F).Registry where
  accounted := CacheIndex.new_isAccounted
  free := by simp [new]

/-- The table after a device has been stored for one lidar: no other lidar's
device changes, and no slot is given back. -/
structure Stored [Zero F] (lds : LdsLidar F) (handle : UInt32) (device : LidarDevice F)
    (t : LdsLidar F) : Prop where
  registry : t.Registry
  full : lds.cache_index.free_slot = none → t.cache_index.free_slot = none
  device_of : ∀ other, t.device_of other =
    if other = handle then some device else lds.device_of other

/-- The table with another device at an index. -/
def with_lidar (lds : LdsLidar F) (index : UInt8) (hlt : index.toNat < kMaxSourceLidar)
    (device : LidarDevice F) : LdsLidar F :=
  { lds with lidars := lds.lidars.set index.toNat device hlt }

theorem device_of_with_lidar (lds : LdsLidar F) {index : UInt8}
    (hlt : index.toNat < kMaxSourceLidar) (device : LidarDevice F) (other : UInt32) :
    (lds.with_lidar index hlt device).device_of other =
      if lds.get_lidar_device other = some index then some device else lds.device_of other := by
  have hsame : (lds.with_lidar index hlt device).get_lidar_device other =
      lds.get_lidar_device other := rfl
  rw [device_of, device_of, hsame]
  cases hother : lds.get_lidar_device other with
  | none => rfl
  | some place =>
    by_cases heq : place = index
    · subst heq
      simp [with_lidar, hlt]
    · have hne : index.toNat ≠ place.toNat := fun hplace => heq (UInt8.toNat_inj.mp hplace).symm
      simp [with_lidar, hne, heq]

section Lookup

variable [Zero F] {lds : LdsLidar F} (h : lds.Registry)
include h

theorem Registry.index_lt {handle : UInt32} {index : UInt8}
    (hindex : lds.get_lidar_device handle = some index) : index.toNat < kMaxSourceLidar :=
  h.accounted.index_of_lt hindex

/-- A handle has a device exactly when it has an index, and the device is the
one at that index. -/
theorem Registry.lidar_eq {handle : UInt32} {index : UInt8}
    (hindex : lds.get_lidar_device handle = some index) :
    ∃ device, lds.lidar index = .ok device ∧ lds.device_of handle = some device := by
  have hlt := h.index_lt hindex
  refine ⟨lds.lidars[index.toNat], by simp [lidar, readAt_of_lt _ hlt], ?_⟩
  simp [device_of, hindex, hlt]

theorem Registry.device_of_eq_none_iff {handle : UInt32} :
    lds.device_of handle = none ↔ lds.get_lidar_device handle = none := by
  constructor
  · intro hnone
    cases hindex : lds.get_lidar_device handle with
    | none => rfl
    | some index =>
      obtain ⟨device, _, hdevice⟩ := h.lidar_eq hindex
      simp [hnone] at hdevice
  · intro hnone
    simp [device_of, hnone]

theorem Registry.index_of_device {handle : UInt32} {device : LidarDevice F}
    (hdevice : lds.device_of handle = some device) :
    ∃ index, lds.get_lidar_device handle = some index := by
  rw [← Option.ne_none_iff_exists', ne_eq, ← h.device_of_eq_none_iff]
  simp [hdevice]

/-- Storing in a used slot leaves the free ones alone. -/
theorem Registry.with_lidar {index : UInt8} (hlt : index.toNat < kMaxSourceLidar)
    (hused : lds.cache_index.IsUsed index) (device : LidarDevice F) :
    (lds.with_lidar index hlt device).Registry where
  accounted := h.accounted
  free := by
    intro i hi
    have hfree : lds.cache_index.index_cache[(i : Nat)] = false := hi
    have hne : index.toNat ≠ i := by
      intro heq
      rw [CacheIndex.IsUsed, heq] at hused
      simp [hfree] at hused
    have hold : (lds.with_lidar index hlt device).lidars[i] = lds.lidars[i] := by
      simp only [LdsLidar.with_lidar]
      exact Vector.getElem_set_ne _ _ hne
    rw [hold]
    exact h.free i hi

theorem Registry.modify_lidar {handle : UInt32} {index : UInt8} {device : LidarDevice F}
    (hindex : lds.get_lidar_device handle = some index) (hdevice : lds.device_of handle = some device)
    (change : LidarDevice F → LidarDevice F) :
    ∃ t, lds.modify_lidar index change = .ok t ∧ lds.Stored handle (change device) t := by
  have hlt := h.index_lt hindex
  have hused : lds.cache_index.IsUsed index := by
    rw [get_lidar_device, ← CacheIndex.index_of, CacheIndex.index_of_eq] at hindex
    exact h.accounted.used_of_slot _ _ hindex
  obtain ⟨found, hread, hfound⟩ := h.lidar_eq hindex
  obtain rfl : found = device := Option.some.inj (hfound.symm.trans hdevice)
  refine ⟨lds.with_lidar index hlt (change found), ?_, h.with_lidar hlt hused _, id, fun other => ?_⟩
  · simp [LdsLidar.modify_lidar, hread, writeAt_of_lt _ _ hlt, LdsLidar.with_lidar]
  · have howner : lds.get_lidar_device other = some index ↔ other = handle :=
      ⟨fun hother => h.accounted.index_of_injective hother hindex, fun heq => heq ▸ hindex⟩
    rw [device_of_with_lidar]
    simp only [howner]

/-- A lidar without an index gets a device in which nothing has been stored. -/
theorem Registry.admit {handle : UInt32} {i : Fin kMaxSourceLidar}
    (hnew : lds.device_of handle = none) (hslot : lds.cache_index.free_slot = some i)
    (change : LidarDevice F → LidarDevice F) :
    ∃ index cache_index t,
      lds.cache_index.get_free_index LidarProtoType.kLivoxLidarType.val handle =
        (some index, cache_index) ∧
      { lds with cache_index }.modify_lidar index change = .ok t ∧
      lds.Stored handle (change (LidarDevice.zero F)) t := by
  have hindex : lds.cache_index.index_of handle = none := h.device_of_eq_none_iff.mp hnew
  obtain ⟨index, cache_index, hget, hplace, haccounted, hbits, hroutes⟩ :=
    h.accounted.get_free_index_of_new hindex hslot
  have hfree : lds.cache_index.index_cache[i] = false := by simpa using List.find?_some hslot
  have hregistry : Registry { lds with cache_index } := by
    refine ⟨haccounted, fun j hj => h.free j ?_⟩
    simp only [hbits] at hj
    have hne : (i : Nat) ≠ j := by
      intro heq
      obtain rfl : i = j := Fin.ext heq
      simp at hj
    simpa [Vector.getElem_set_ne _ _ hne] using hj
  have hroute : get_lidar_device { lds with cache_index } handle = some index :=
    (hroutes handle).trans (if_pos rfl)
  have hzero : device_of { lds with cache_index } handle = some (LidarDevice.zero F) := by
    simp only [device_of, hroute, hplace]
    simpa using h.free i hfree
  obtain ⟨t, hmodify, hstored⟩ := hregistry.modify_lidar hroute hzero change
  refine ⟨index, cache_index, t, hget, hmodify, hstored.registry, fun hfull => ?_, fun other => ?_⟩
  · simp [hfull] at hslot
  · have hothers : ∀ other, other ≠ handle →
        device_of { lds with cache_index } other = lds.device_of other := by
      intro other hne
      have hsame : get_lidar_device { lds with cache_index } other = lds.get_lidar_device other :=
        (hroutes other).trans (if_neg hne)
      rw [device_of, device_of, hsame]
    rw [hstored.device_of]
    by_cases heq : other = handle
    · rw [if_pos heq, if_pos heq]
    · rw [if_neg heq, if_neg heq, hothers other heq]

theorem Registry.place_full {handle : UInt32} (hplace : lds.place_for handle = none) :
    lds.cache_index.get_free_index LidarProtoType.kLivoxLidarType.val handle =
      (none, lds.cache_index) := by
  unfold place_for at hplace
  cases hdevice : lds.device_of handle with
  | some device => simp [hdevice] at hplace
  | none =>
    have hfull : lds.cache_index.free_slot = none := by simpa [hdevice] using hplace
    exact CacheIndex.get_free_index_of_full (h.device_of_eq_none_iff.mp hdevice) hfull

/-- Taking a place and storing into it, whether the lidar had one before. -/
theorem Registry.place {handle : UInt32} {device : LidarDevice F}
    (hplace : lds.place_for handle = some device) (change : LidarDevice F → LidarDevice F) :
    ∃ index cache_index t,
      lds.cache_index.get_free_index LidarProtoType.kLivoxLidarType.val handle =
        (some index, cache_index) ∧
      { lds with cache_index }.modify_lidar index change = .ok t ∧
      lds.Stored handle (change device) t := by
  unfold place_for at hplace
  cases hdevice : lds.device_of handle with
  | some found =>
    obtain rfl : found = device := by simpa [hdevice] using hplace
    obtain ⟨index, hindex⟩ := h.index_of_device hdevice
    obtain ⟨t, hmodify, hstored⟩ := h.modify_lidar hindex hdevice change
    exact ⟨index, lds.cache_index, t, CacheIndex.get_free_index_of_mapped hindex, hmodify, hstored⟩
  | none =>
    cases hslot : lds.cache_index.free_slot with
    | none => simp [hdevice, hslot] at hplace
    | some i =>
      obtain rfl : LidarDevice.zero F = device := by simpa [hdevice, hslot] using hplace
      exact h.admit hdevice hslot change

end Lookup

end LdsLidar

end livox_ros
