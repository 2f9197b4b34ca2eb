import Livox.Comm.CacheIndex

open checked execution ordered_map slots

namespace livox_ros

/-- Where a thread is in a call. Each of the named positions is in front of one
locked section or one unlocked map lookup. -/
inductive CacheCall where
  | idle
  | get_free_lookup (key : String)
  | get_free_allocate (key : String)
  | get_find (key : String)
  | get_subscript (key : String)
  | lvx_find (key : String)
  | lvx_subscript (key : String)
  | reset_find (key : String)
  | reset_subscript (key : String)
  | reset_erase (key : String) (index : UInt8)
  deriving DecidableEq

inductive CacheFunction where
  | get_free_index
  | get_index
  | lvx_get_index
  | reset_index

/-- The position at which a call with this key begins. -/
def CacheFunction.entry : CacheFunction → String → CacheCall
  | get_free_index, key => .get_free_lookup key
  | get_index, key => .get_find key
  | lvx_get_index, key => .lvx_find key
  | reset_index, key => .reset_find key

/-- The cache with any number of threads in its functions. `obtained` has the
index of every successful lookup since its key was last reset. -/
structure CacheRun where
  cache : CacheIndex
  calls : Nat → CacheCall
  obtained : List (String × UInt8)

/-- A thread enters a function, or does the next section of the one it is in. -/
inductive CacheEvent where
  | call (thread : Nat) (function : CacheFunction) (livox_lidar_type : UInt8) (handle : UInt32)
  | advance (thread : Nat)

namespace CacheRun

def start : CacheRun where
  cache := CacheIndex.new
  calls := fun _ => .idle
  obtained := []

def goto (s : CacheRun) (thread : Nat) (call : CacheCall) : CacheRun :=
  { s with calls := Function.update s.calls thread call }

/-- The call returns with this index. -/
def obtain_index (s : CacheRun) (thread : Nat) (key : String) (index : UInt8) : CacheRun :=
  { s with calls := Function.update s.calls thread .idle, obtained := s.obtained ++ [(key, index)] }

/-- One section of the function that the thread is in. -/
def section_step (s : CacheRun) (thread : Nat) : CacheCall → Checked CacheRun
  | .idle => .ok s
  | .get_free_lookup key =>
    match s.cache.map_index[key]? with
    | some index => .ok (s.obtain_index thread key index)
    | none => .ok (s.goto thread (.get_free_allocate key))
  | .get_free_allocate key =>
    match s.cache.allocate key with
    | (some index, cache) => .ok ({ s with cache }.obtain_index thread key index)
    | (none, cache) => .ok ({ s with cache }.goto thread .idle)
  | .get_find key =>
    if key ∈ s.cache.map_index then .ok (s.goto thread (.get_subscript key))
    else .ok (s.goto thread .idle)
  | .get_subscript key =>
    let (index, cache) := s.cache.subscript key
    .ok ({ s with cache }.obtain_index thread key index)
  | .lvx_find key =>
    if key ∈ s.cache.map_index then .ok (s.goto thread (.lvx_subscript key))
    else .ok (s.goto thread (.get_free_lookup key))
  | .lvx_subscript key =>
    let (index, cache) := s.cache.subscript key
    .ok ({ s with cache }.obtain_index thread key index)
  | .reset_find key =>
    if key ∈ s.cache.map_index then .ok (s.goto thread (.reset_subscript key))
    else .ok (s.goto thread .idle)
  | .reset_subscript key =>
    let (index, cache) := s.cache.subscript key
    .ok ({ s with cache }.goto thread (.reset_erase key index))
  | .reset_erase key index => do
    let cache ← s.cache.erase key index
    .ok
      { cache, calls := Function.update s.calls thread .idle
        obtained := s.obtained.filter fun entry => entry.1 ≠ key }

/-- A thread that is in a function enters no other; a lidar without a key ends
the call at once. -/
def step (s : CacheRun) : CacheEvent → Checked CacheRun
  | .call thread function livox_lidar_type handle =>
    match s.calls thread, CacheIndex.generate_index_key livox_lidar_type handle with
    | .idle, some key => .ok (s.goto thread (function.entry key))
    | _, _ => .ok s
  | .advance thread => s.section_step thread (s.calls thread)

/-- A slot's bit is set exactly when one key maps to it whenever no call is in
progress, and a key that has not been reset obtains one index only. -/
structure SlotsAccounted (s : CacheRun) : Prop where
  bits : (∀ thread, s.calls thread = .idle) → ∀ i : Fin kMaxSourceLidar,
    getElem s.cache.index_cache i i.isLt = true ↔
      ∃! key : String, s.cache.map_index[key]? = some (UInt8.ofNat i)
  unique : ∀ key i j, (key, i) ∈ s.obtained → (key, j) ∈ s.obtained → i = j

/-- The condition under which a section keeps the accounts: an allocation runs
for a key that still has no slot (or finds none free), a subscript finds its
key, and an erasure finds the index that was read for the key, or that another
reset has been there first and the slot has stayed free. -/
def SectionSafe (cache : CacheIndex) : CacheCall → Prop
  | .get_free_allocate key => cache.map_index[key]? = none ∨ cache.free_slot = none
  | .get_subscript key | .lvx_subscript key | .reset_subscript key => key ∈ cache.map_index
  | .reset_erase key index =>
    cache.map_index[key]? = some index ∨ cache.map_index[key]? = none ∧ ¬ cache.IsUsed index
  | _ => True

instance (cache : CacheIndex) : DecidablePred (SectionSafe cache)
  | .get_free_allocate _ => inferInstanceAs (Decidable (_ ∨ _))
  | .get_subscript _ | .lvx_subscript _ | .reset_subscript _ => inferInstanceAs (Decidable (_ ∈ _))
  | .reset_erase _ _ => inferInstanceAs (Decidable (_ ∨ _ ∧ _))
  | .idle | .get_free_lookup _ | .get_find _ | .lvx_find _ | .reset_find _ => isTrue trivial

def StepSafe (s : CacheRun) : CacheEvent → Prop
  | .call _ _ _ _ => True
  | .advance thread => SectionSafe s.cache (s.calls thread)

instance (s : CacheRun) : DecidablePred s.StepSafe
  | .call _ _ _ _ => isTrue trivial
  | .advance _ => inferInstanceAs (Decidable (SectionSafe _ _))

/-- The invariant of the safe runs. -/
structure Accounted (s : CacheRun) : Prop where
  cache : s.cache.IsAccounted
  obtained : ∀ key index, (key, index) ∈ s.obtained → s.cache.map_index[key]? = some index
  reset : ∀ thread key index, s.calls thread = .reset_erase key index →
    index.toNat < kMaxSourceLidar

theorem Accounted.slotsAccounted {s : CacheRun} (h : s.Accounted) : s.SlotsAccounted where
  bits _ i := by
    rw [← h.cache.used_iff_existsUnique, CacheIndex.IsUsed, CacheIndex.free_slot_toNat]
    simp
  unique key i j hi hj := by
    have hsame := (h.obtained key i hi).symm.trans (h.obtained key j hj)
    exact Option.some.inj hsame

theorem start_accounted : start.Accounted where
  cache := CacheIndex.new_isAccounted
  obtained := by simp [start]
  reset := by simp [start]

theorem Accounted.goto {s : CacheRun} (h : s.Accounted) (thread : Nat) {call : CacheCall}
    (hcall : ∀ key index, call = .reset_erase key index → index.toNat < kMaxSourceLidar) :
    (s.goto thread call).Accounted where
  cache := h.cache
  obtained := h.obtained
  reset other key index heq := by
    by_cases hother : other = thread
    · subst hother
      exact hcall key index (by simpa [CacheRun.goto] using heq)
    · exact h.reset other key index (by simpa [CacheRun.goto, hother] using heq)

theorem Accounted.obtain_index {s : CacheRun} (h : s.Accounted) (thread : Nat) {key : String}
    {index : UInt8} (hkey : s.cache.map_index[key]? = some index) :
    (s.obtain_index thread key index).Accounted where
  cache := h.cache
  obtained other found hmem := by
    rcases List.mem_append.mp hmem with hold | hnew
    · exact h.obtained other found hold
    · obtain ⟨rfl, rfl⟩ : other = key ∧ found = index := by simpa using hnew
      exact hkey
  reset := (@Accounted.goto s h thread .idle (by simp)).reset

theorem Accounted.idle {s : CacheRun} (h : s.Accounted) (thread : Nat) :
    (s.goto thread .idle).Accounted := h.goto thread (by simp)

/-- The allocation section for a key that has no slot. -/
theorem allocate_section {s : CacheRun} (h : s.Accounted) {thread : Nat} {key : String}
    (hsafe : s.cache.map_index[key]? = none ∨ s.cache.free_slot = none) :
    ∃ t, s.section_step thread (.get_free_allocate key) = .ok t ∧ t.Accounted := by
  cases hslot : s.cache.free_slot with
  | none =>
    refine ⟨s.goto thread .idle, ?_, h.idle thread⟩
    simp [section_step, CacheIndex.allocate, hslot]
  | some i =>
    have hnew : s.cache.map_index[key]? = none := hsafe.resolve_right (by simp [hslot])
    have hcache := h.cache.allocate hnew
    have hallocate : s.cache.allocate key = (some (UInt8.ofNat i), (s.cache.allocate key).2) := by
      simp [CacheIndex.allocate, hslot]
    have hlookup : ∀ other : String, (s.cache.allocate key).2.map_index[other]? =
        if key = other then some (UInt8.ofNat i) else s.cache.map_index[other]? := by
      intro other
      simp only [CacheIndex.allocate, hslot]
      exact lookup_insert _ _ _ _
    have hnext : { s with cache := (s.cache.allocate key).2 }.Accounted := by
      refine ⟨hcache, ?_, h.reset⟩
      intro other index hmem
      have hold := h.obtained other index hmem
      have hne : key ≠ other := by
        rintro rfl
        simp [hnew] at hold
      rw [hlookup, if_neg hne]
      exact hold
    have hkey : (s.cache.allocate key).2.map_index[key]? = some (UInt8.ofNat i) := by
      rw [hlookup, if_pos rfl]
    refine ⟨_, ?_, hnext.obtain_index thread hkey⟩
    simp only [section_step]
    rw [hallocate]

/-- The erasing section for the index that the key still has, or for a slot
that an earlier reset of the key has freed. -/
theorem erase_section {s : CacheRun} (h : s.Accounted) {thread : Nat} {key : String} {index : UInt8}
    (hlt : index.toNat < kMaxSourceLidar)
    (hsafe : s.cache.map_index[key]? = some index ∨
      s.cache.map_index[key]? = none ∧ ¬ s.cache.IsUsed index) :
    ∃ t, s.section_step thread (.reset_erase key index) = .ok t ∧ t.Accounted := by
  have hcompletes : ∃ cache, s.cache.erase key index = .ok cache ∧ cache.IsAccounted ∧
      cache.map_index = s.cache.map_index.erase key := by
    rcases hsafe with hkey | ⟨hkey, hfree⟩
    · exact h.cache.erase hkey
    · exact h.cache.erase_of_free hlt hkey hfree
  obtain ⟨cache, herase, hcache, hmap⟩ := hcompletes
  refine ⟨
    { cache, calls := Function.update s.calls thread .idle
      obtained := s.obtained.filter fun entry => entry.1 ≠ key },
    by simp [section_step, herase], hcache, ?_, (h.idle thread).reset⟩
  intro other found hmem
  obtain ⟨hmem, hne⟩ := List.mem_filter.mp hmem
  have hne : key ≠ other := by
    rintro rfl
    simp at hne
  rw [hmap, lookup_erase, if_neg hne]
  exact h.obtained other found hmem

theorem subscript_of_mem {cache : CacheIndex} {key : String} (h : key ∈ cache.map_index) :
    ∃ index, cache.map_index[key]? = some index ∧ cache.subscript key = (index, cache) := by
  obtain ⟨index, hindex⟩ := mem_iff_lookup.mp h
  exact ⟨index, hindex, by simp [CacheIndex.subscript, hindex]⟩

/-- Every safe section completes and keeps the accounts. -/
theorem section_accounted {s : CacheRun} (h : s.Accounted) {thread : Nat} {call : CacheCall}
    (hcall : s.calls thread = call) (hsafe : SectionSafe s.cache call) :
    ∃ t, s.section_step thread call = .ok t ∧ t.Accounted := by
  cases call with
  | idle => exact ⟨s, rfl, h⟩
  | get_free_lookup key =>
    simp only [section_step]
    cases hkey : s.cache.map_index[key]? with
    | none => exact ⟨_, rfl, h.goto thread (by simp)⟩
    | some index => exact ⟨_, rfl, h.obtain_index thread hkey⟩
  | get_free_allocate key => exact allocate_section h hsafe
  | get_find key =>
    simp only [section_step]
    split
    · exact ⟨_, rfl, h.goto thread (by simp)⟩
    · exact ⟨_, rfl, h.idle thread⟩
  | get_subscript key =>
    obtain ⟨index, hindex, hsubscript⟩ := subscript_of_mem hsafe
    exact ⟨_, by simp only [section_step, hsubscript], h.obtain_index thread hindex⟩
  | lvx_find key =>
    simp only [section_step]
    split
    · exact ⟨_, rfl, h.goto thread (by simp)⟩
    · exact ⟨_, rfl, h.goto thread (by simp)⟩
  | lvx_subscript key =>
    obtain ⟨index, hindex, hsubscript⟩ := subscript_of_mem hsafe
    exact ⟨_, by simp only [section_step, hsubscript], h.obtain_index thread hindex⟩
  | reset_find key =>
    simp only [section_step]
    split
    · exact ⟨_, rfl, h.goto thread (by simp)⟩
    · exact ⟨_, rfl, h.idle thread⟩
  | reset_subscript key =>
    obtain ⟨index, hindex, hsubscript⟩ := subscript_of_mem hsafe
    refine ⟨s.goto thread (.reset_erase key index), by simp only [section_step, hsubscript],
      h.goto thread ?_⟩
    rintro _ _ ⟨⟩
    exact h.cache.index_lt hindex
  | reset_erase key index => exact erase_section h (h.reset thread key index hcall) hsafe

theorem step_accounted {s : CacheRun} {event : CacheEvent} (h : s.Accounted)
    (hsafe : s.StepSafe event) : ∃ t, s.step event = .ok t ∧ t.Accounted := by
  cases event with
  | call thread function livox_lidar_type handle =>
    simp only [step]
    split
    · refine ⟨_, rfl, h.goto thread ?_⟩
      cases function <;> simp [CacheFunction.entry]
    · exact ⟨s, rfl, h⟩
  | advance thread => exact section_accounted h rfl hsafe

/-- In every interleaving of any number of calls whose sections are safe, the
run completes and all its states account for the slots. -/
theorem slots_accounted_of_safe_sections (events : List CacheEvent)
    (hsafe : StepsSatisfy step StepSafe start events) :
    ∃ t, exec step start events = .ok t ∧ StatesSatisfy step SlotsAccounted start events := by
  obtain ⟨t, hrun, hstates⟩ :=
    StepsSatisfy.completes (fun s event => step_accounted) start_accounted hsafe
  exact ⟨t, hrun, hstates.mono fun s => Accounted.slotsAccounted⟩

/-- Two threads look up the same new lidar, and then both allocate for it. -/
def double_registration : List CacheEvent :=
  [.call 0 .get_free_index 8 7, .call 1 .get_free_index 8 7, .advance 0, .advance 1, .advance 0,
    .advance 1]

theorem double_registration_leaks_slot :
    (exec step start double_registration).toOption.map (fun s =>
        (s.cache.map_index.toList, s.cache.index_cache.toList.take 2)) =
      some ([("livox_lidar_7", 1)], [true, true]) ∧
    ¬ StatesSatisfy step SlotsAccounted start double_registration := by
  refine ⟨by decide +kernel, fun h => ?_⟩
  have hobtained : (exec step start double_registration).toOption.map CacheRun.obtained =
      some [("livox_lidar_7", 0), ("livox_lidar_7", 1)] := by decide +kernel
  cases hrun : exec step start double_registration with
  | error fault => simp [hrun, Except.toOption] at hobtained
  | ok s =>
    have hobtained : s.obtained = [("livox_lidar_7", 0), ("livox_lidar_7", 1)] := by
      simpa [hrun, Except.toOption] using hobtained
    have hsame := (h.last hrun).unique "livox_lidar_7" 0 1 (by simp [hobtained]) (by simp [hobtained])
    cases hsame

/-- One thread registers a lidar, looks it up and resets it. -/
def single_registration : List CacheEvent :=
  [.call 0 .get_free_index 8 7, .advance 0, .advance 0, .call 1 .get_index 8 7, .advance 1,
    .advance 1, .call 0 .reset_index 8 7, .advance 0, .advance 0, .advance 0]

theorem slots_accounted_of_safe_sections_single :
    ∃ t, exec step start single_registration = .ok t ∧ t.SlotsAccounted := by
  obtain ⟨t, hrun, hstates⟩ :=
    slots_accounted_of_safe_sections single_registration (by decide +kernel)
  exact ⟨t, hrun, hstates.last hrun⟩

end CacheRun

end livox_ros
