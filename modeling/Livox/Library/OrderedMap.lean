import Mathlib

namespace ordered_map

variable {α β : Type} {cmp : α → α → Ordering} [Std.TransCmp cmp] [Std.LawfulEqCmp cmp]
  [DecidableEq α]

/-- Looking up after an insertion, over the equality of the keys. -/
theorem lookup_insert (m : Std.TreeMap α β cmp) (k a : α) (value : β) :
    (m.insert k value)[a]? = if k = a then some value else m[a]? := by
  rw [Std.TreeMap.getElem?_insert]
  by_cases h : k = a
  · subst h
    simp
  · rw [if_neg h, if_neg fun heq => h (Std.LawfulEqCmp.eq_of_compare heq)]

/-- Looking up after a removal, over the equality of the keys. -/
theorem lookup_erase (m : Std.TreeMap α β cmp) (k a : α) :
    (m.erase k)[a]? = if k = a then none else m[a]? := by
  rw [Std.TreeMap.getElem?_erase]
  by_cases h : k = a
  · subst h
    simp
  · rw [if_neg h, if_neg fun heq => h (Std.LawfulEqCmp.eq_of_compare heq)]

omit [Std.LawfulEqCmp cmp] [DecidableEq α] in
theorem mem_iff_lookup {m : Std.TreeMap α β cmp} {a : α} : a ∈ m ↔ ∃ value, m[a]? = some value := by
  rw [Std.TreeMap.mem_iff_isSome_getElem?, Option.isSome_iff_exists]

omit [DecidableEq α] in
theorem mem_insert_iff {m : Std.TreeMap α β cmp} {k a : α} {value : β} :
    a ∈ m.insert k value ↔ a = k ∨ a ∈ m := by
  rw [Std.TreeMap.mem_insert, Std.LawfulEqCmp.compare_eq_iff_eq, eq_comm]

omit [DecidableEq α] in
theorem mem_erase_iff {m : Std.TreeMap α β cmp} {k a : α} : a ∈ m.erase k ↔ a ≠ k ∧ a ∈ m := by
  rw [Std.TreeMap.mem_erase, ne_eq, Std.LawfulEqCmp.compare_eq_iff_eq, eq_comm]

omit [DecidableEq α] in
/-- Removing a key after a look whether it is there. -/
theorem mem_ite_erase_iff {m : Std.TreeMap α β cmp} {k a : α} :
    (a ∈ if k ∈ m then m.erase k else m) ↔ a ≠ k ∧ a ∈ m := by
  split
  case isTrue => exact mem_erase_iff
  case isFalse hunknown =>
    refine (and_iff_right_of_imp ?_).symm
    rintro hmem rfl
    exact hunknown hmem

/-- Inserting under a key that is new. -/
theorem lookup_insertIfNew {m : Std.TreeMap α β cmp} {k : α} (h : m[k]? = none) (a : α) (value : β) :
    (m.insertIfNew k value)[a]? = if k = a then some value else m[a]? := by
  have hnew : k ∉ m := by
    rintro hmem
    obtain ⟨held, hheld⟩ := mem_iff_lookup.mp hmem
    rw [h] at hheld
    cases hheld
  rw [Std.TreeMap.getElem?_insertIfNew]
  by_cases heq : k = a
  · subst heq
    simp [hnew]
  · rw [if_neg heq, if_neg fun hboth => heq (Std.LawfulEqCmp.eq_of_compare hboth.1)]

omit [Std.TransCmp cmp] [Std.LawfulEqCmp cmp] in
/-- Filling a map under distinct keys that are new, in a way that stores a value under a key that is
new: every value is found again. -/
theorem foldl_of_nodup {γ : Type} {key : γ → α} {value : γ → β}
    {f : Std.TreeMap α β cmp → γ → Std.TreeMap α β cmp}
    (hf : ∀ m x, m[key x]? = none →
      (f m x).size = m.size + 1 ∧
        ∀ a, (f m x)[a]? = if key x = a then some (value x) else m[a]?)
    {xs : List γ} {m : Std.TreeMap α β cmp} (hnodup : (xs.map key).Nodup)
    (hnew : ∀ x ∈ xs, m[key x]? = none) :
    (xs.foldl f m).size = m.size + xs.length ∧
      (∀ x ∈ xs, (xs.foldl f m)[key x]? = some (value x)) ∧
      ∀ a, a ∉ xs.map key → (xs.foldl f m)[a]? = m[a]? := by
  induction xs generalizing m with
  | nil => simp
  | cons x xs ih =>
    obtain ⟨hfirst, hnodup⟩ := List.nodup_cons.mp hnodup
    obtain ⟨hsize, hlookup⟩ := hf m x (hnew x (by simp))
    have hothers : ∀ y ∈ xs, (f m x)[key y]? = none := by
      intro y hy
      have hne : key x ≠ key y := fun heq => hfirst (heq ▸ List.mem_map_of_mem hy)
      rw [hlookup, if_neg hne]
      exact hnew y (List.mem_cons_of_mem x hy)
    obtain ⟨hrestSize, hfound, hbeside⟩ := ih hnodup hothers
    refine ⟨?_, ?_, ?_⟩
    · rw [List.foldl_cons, hrestSize, hsize, List.length_cons]
      omega
    · intro y hy
      rcases List.mem_cons.mp hy with rfl | hy
      · rw [List.foldl_cons, hbeside _ hfirst, hlookup, if_pos rfl]
      · exact hfound y hy
    · intro a ha
      rw [List.map_cons, List.mem_cons, not_or] at ha
      rw [List.foldl_cons, hbeside a ha.2, hlookup, if_neg fun heq => ha.1 heq.symm]

section InsertAll

variable {key : β → α} {xs : List β} {m : Std.TreeMap α β cmp} {a : α} {x : β}

omit [DecidableEq α] in
/-- The keys of a map in which values are put one after the other. -/
theorem mem_foldl_insert_iff :
    a ∈ xs.foldl (fun m x => m.insert (key x) x) m ↔ a ∈ m ∨ ∃ x ∈ xs, key x = a := by
  induction xs generalizing m with
  | nil => simp
  | cons x xs ih =>
    rw [List.foldl_cons, ih, mem_insert_iff, List.exists_mem_cons_iff, eq_comm (a := a), or_comm (a := _ = a),
      or_assoc]

end InsertAll

end ordered_map
