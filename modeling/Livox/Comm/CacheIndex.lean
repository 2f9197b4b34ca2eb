import Livox.Comm.Types
import Livox.Library.Exec
import Livox.Library.DecimalText
import Livox.Library.OrderedMap
import Livox.Library.Slots

open checked decimal_text ordered_map slots

namespace livox_ros

structure CacheIndex where
  map_index : Std.TreeMap String UInt8
  index_cache : Vector Bool kMaxSourceLidar

namespace CacheIndex

def new : CacheIndex where
  map_index := ∅
  index_cache := Vector.replicate kMaxSourceLidar false

/-- Only lidars of the Livox type have a key. -/
def generate_index_key (livox_lidar_type : UInt8) (handle : UInt32) : Option String :=
  if livox_lidar_type = LidarProtoType.kLivoxLidarType.val then
    some ("livox_lidar_" ++ toString handle)
  else none

/-- The first slot that the scan of `GetFreeIndex` finds unused. -/
def free_slot (cache : CacheIndex) : Option (Fin kMaxSourceLidar) :=
  (List.finRange kMaxSourceLidar).find? fun i => !getElem cache.index_cache i i.isLt

/-- The second locked section of `GetFreeIndex`: take the first free slot for
the key, without another look at the map. -/
def allocate (cache : CacheIndex) (key : String) : Option UInt8 × CacheIndex :=
  match cache.free_slot with
  | some i =>
    (some (UInt8.ofNat i),
      { map_index := cache.map_index.insert key (UInt8.ofNat i)
        index_cache := cache.index_cache.set i true i.isLt })
  | none => (none, cache)

/-- `map_index_[key]`, which makes up an entry for a key that has none. -/
def subscript (cache : CacheIndex) (key : String) : UInt8 × CacheIndex :=
  match cache.map_index[key]? with
  | some index => (index, cache)
  | none => (0, { cache with map_index := cache.map_index.insert key 0 })

/-- The locked section of `ResetIndex`. -/
def erase (cache : CacheIndex) (key : String) (index : UInt8) : Checked CacheIndex := do
  let index_cache ← writeAt cache.index_cache index.toNat false
  .ok { map_index := cache.map_index.erase key, index_cache }

/-- `GetFreeIndex` with no other call in between its two sections. -/
def get_free_index (cache : CacheIndex) (livox_lidar_type : UInt8) (handle : UInt32) :
    Option UInt8 × CacheIndex :=
  match generate_index_key livox_lidar_type handle with
  | none => (none, cache)
  | some key =>
    match cache.map_index[key]? with
    | some index => (some index, cache)
    | none => cache.allocate key

/-- `GetIndex` with no other call in between its lookups. -/
def get_index (cache : CacheIndex) (livox_lidar_type : UInt8) (handle : UInt32) : Option UInt8 :=
  match generate_index_key livox_lidar_type handle with
  | none => none
  | some key => cache.map_index[key]?

def IsUsed (cache : CacheIndex) (i : UInt8) : Prop := cache.index_cache[i.toNat]? = some true

instance (cache : CacheIndex) (i : UInt8) : Decidable (cache.IsUsed i) :=
  inferInstanceAs (Decidable (_ = _))

/-- The map and the bits agree: a bit is set exactly when one key has the slot. -/
def IsAccounted (cache : CacheIndex) : Prop :=
  Accounted (fun key : String => cache.map_index[key]?) cache.IsUsed

theorem new_isAccounted : new.IsAccounted := by
  have hempty : ∀ i : UInt8, new.IsUsed i ↔ False := by
    intro i
    simp [new, IsUsed, Vector.getElem?_replicate]
  exact Accounted.empty.congr (by simp [new]) hempty

theorem IsAccounted.index_lt {cache : CacheIndex} (h : cache.IsAccounted) {key : String}
    {index : UInt8} (hkey : cache.map_index[key]? = some index) : index.toNat < kMaxSourceLidar := by
  have hused : cache.index_cache[index.toNat]? = some true := h.used_of_slot key index hkey
  obtain ⟨hlt, _⟩ := Vector.getElem?_eq_some_iff.mp hused
  exact hlt

theorem free_slot_toNat (i : Fin kMaxSourceLidar) : (UInt8.ofNat i).toNat = i := by
  have hlt : (i : Nat) < 32 := i.isLt
  simp only [UInt8.toNat_ofNat']
  omega

theorem free_slot_not_used {cache : CacheIndex} {i : Fin kMaxSourceLidar}
    (h : cache.free_slot = some i) : ¬ cache.IsUsed (UInt8.ofNat i) := by
  have hfree : cache.index_cache[i] = false := by simpa using List.find?_some h
  rw [IsUsed, free_slot_toNat]
  simpa using hfree

/-- Allocating for a key without a slot keeps the accounts. -/
theorem IsAccounted.allocate {cache : CacheIndex} (h : cache.IsAccounted) {key : String}
    (hnew : cache.map_index[key]? = none) : (cache.allocate key).2.IsAccounted := by
  unfold CacheIndex.allocate
  cases hslot : cache.free_slot with
  | none => exact h
  | some i =>
    apply h.assign hnew (free_slot_not_used hslot) (fun l => lookup_insert _ _ _ _)
    intro j
    have hj : j = UInt8.ofNat i ↔ (i : Nat) = j.toNat := by
      rw [← UInt8.toNat_inj, free_slot_toNat, eq_comm]
    simp only [IsUsed, Vector.getElem?_set, hj]
    split <;> simp_all

/-- The cache without a key and with a slot that is free. -/
def erased (cache : CacheIndex) (key : String) (index : UInt8)
    (hlt : index.toNat < kMaxSourceLidar) : CacheIndex where
  map_index := cache.map_index.erase key
  index_cache := cache.index_cache.set index.toNat false hlt

theorem erase_of_lt (cache : CacheIndex) (key : String) {index : UInt8}
    (hlt : index.toNat < kMaxSourceLidar) :
    cache.erase key index = .ok (cache.erased key index hlt) := by
  simp [CacheIndex.erase, writeAt_of_lt _ _ hlt, erased]

theorem erased_isUsed_iff (cache : CacheIndex) (key : String) {index : UInt8}
    (hlt : index.toNat < kMaxSourceLidar) (j : UInt8) :
    (cache.erased key index hlt).IsUsed j ↔ j ≠ index ∧ cache.IsUsed j := by
  have hj : j = index ↔ index.toNat = j.toNat := by rw [← UInt8.toNat_inj, eq_comm]
  simp only [IsUsed, erased, Vector.getElem?_set, ne_eq, hj]
  split <;> simp_all

/-- Erasing a key with the slot that it has keeps the accounts. -/
theorem IsAccounted.erase {cache : CacheIndex} (h : cache.IsAccounted) {key : String} {index : UInt8}
    (hkey : cache.map_index[key]? = some index) :
    ∃ t, cache.erase key index = .ok t ∧ t.IsAccounted ∧
      t.map_index = cache.map_index.erase key := by
  have hlt := h.index_lt hkey
  refine ⟨cache.erased key index hlt, erase_of_lt cache key hlt, ?_, rfl⟩
  exact h.release hkey (fun l => lookup_erase _ _ _) (erased_isUsed_iff cache key hlt)

/-- Erasing a key that is gone, with a slot that is free, changes nothing. -/
theorem IsAccounted.erase_of_free {cache : CacheIndex} (h : cache.IsAccounted) {key : String}
    {index : UInt8} (hlt : index.toNat < kMaxSourceLidar) (hkey : cache.map_index[key]? = none)
    (hfree : ¬ cache.IsUsed index) :
    ∃ t, cache.erase key index = .ok t ∧ t.IsAccounted ∧
      t.map_index = cache.map_index.erase key := by
  refine ⟨cache.erased key index hlt, erase_of_lt cache key hlt, h.congr ?_ ?_, rfl⟩
  · intro other
    simp only [erased]
    rw [lookup_erase]
    by_cases heq : key = other
    · subst heq
      simp [hkey]
    · rw [if_neg heq]
  · intro j
    rw [erased_isUsed_iff]
    exact ⟨fun hused => hused.2, fun hused => ⟨fun heq => hfree (heq ▸ hused), hused⟩⟩

theorem index_key_injective {a b : UInt32}
    (h : "livox_lidar_" ++ toString a = "livox_lidar_" ++ toString b) : a = b := by
  have hdecimal : toString a = toString b := (String.append_right_inj _).mp h
  have hdigits := congrArg String.toList hdecimal
  change (toString a.toNat).toList = (toString b.toNat).toList at hdigits
  simp only [Nat.toString_eq_repr, Nat.toList_repr] at hdigits
  exact UInt32.toNat_inj.mp (toDigits_inj hdigits)

/-- The index of a lidar of the Livox type. -/
def index_of (cache : CacheIndex) (handle : UInt32) : Option UInt8 :=
  cache.get_index LidarProtoType.kLivoxLidarType.val handle

theorem index_of_eq (cache : CacheIndex) (handle : UInt32) :
    cache.index_of handle = cache.map_index["livox_lidar_" ++ toString handle]? := by
  simp [index_of, get_index, generate_index_key]

theorem IsAccounted.index_of_injective {cache : CacheIndex} (h : cache.IsAccounted) {a b : UInt32}
    {index : UInt8} (ha : cache.index_of a = some index) (hb : cache.index_of b = some index) :
    a = b := by
  rw [index_of_eq] at ha hb
  exact index_key_injective (h.injective _ _ index ha hb)

theorem IsAccounted.index_of_lt {cache : CacheIndex} (h : cache.IsAccounted) {handle : UInt32}
    {index : UInt8} (hindex : cache.index_of handle = some index) : index.toNat < kMaxSourceLidar := by
  rw [index_of_eq] at hindex
  exact h.index_lt hindex

theorem get_free_index_of_mapped {cache : CacheIndex} {handle : UInt32} {index : UInt8}
    (h : cache.index_of handle = some index) :
    cache.get_free_index LidarProtoType.kLivoxLidarType.val handle = (some index, cache) := by
  rw [index_of_eq] at h
  simp [get_free_index, generate_index_key, h]

theorem get_free_index_of_full {cache : CacheIndex} {handle : UInt32}
    (hnew : cache.index_of handle = none) (hfull : cache.free_slot = none) :
    cache.get_free_index LidarProtoType.kLivoxLidarType.val handle = (none, cache) := by
  rw [index_of_eq] at hnew
  simp [get_free_index, generate_index_key, hnew, allocate, hfull]

/-- A new lidar takes the first free slot, and the other lidars keep theirs. -/
theorem IsAccounted.get_free_index_of_new {cache : CacheIndex} (h : cache.IsAccounted)
    {handle : UInt32} {i : Fin kMaxSourceLidar} (hnew : cache.index_of handle = none)
    (hslot : cache.free_slot = some i) :
    ∃ index t, cache.get_free_index LidarProtoType.kLivoxLidarType.val handle = (some index, t) ∧
      index.toNat = i ∧ t.IsAccounted ∧
      t.index_cache = cache.index_cache.set i true i.isLt ∧
      ∀ other, t.index_of other = if other = handle then some index else cache.index_of other := by
  rw [index_of_eq] at hnew
  refine ⟨UInt8.ofNat i, (cache.allocate ("livox_lidar_" ++ toString handle)).2, ?_,
    free_slot_toNat i, h.allocate hnew, ?_, ?_⟩
  · simp [get_free_index, generate_index_key, hnew, CacheIndex.allocate, hslot]
  · simp [CacheIndex.allocate, hslot]
  · intro other
    have hkeys : "livox_lidar_" ++ toString handle = "livox_lidar_" ++ toString other ↔
        other = handle := ⟨fun heq => (index_key_injective heq).symm, fun heq => by rw [heq]⟩
    simp only [index_of_eq, CacheIndex.allocate, hslot]
    rw [lookup_insert]
    simp only [hkeys]

end CacheIndex

end livox_ros
