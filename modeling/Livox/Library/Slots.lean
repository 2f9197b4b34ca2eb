import Mathlib

namespace slots

variable {K S : Type}

/-- A table that assigns slots to keys and a set of used slots agree: a slot is
used exactly when it has an owner, and no slot has two. -/
structure Accounted (slot_of : K → Option S) (used : S → Prop) : Prop where
  used_of_slot : ∀ k i, slot_of k = some i → used i
  owner : ∀ i, used i → ∃ k, slot_of k = some i
  injective : ∀ k l i, slot_of k = some i → slot_of l = some i → k = l

theorem Accounted.empty : Accounted (fun _ : K => none) (fun _ : S => False) where
  used_of_slot := by simp
  owner := by simp
  injective := by simp

theorem Accounted.used_iff_existsUnique {slot_of : K → Option S} {used : S → Prop}
    (h : Accounted slot_of used) (i : S) : used i ↔ ∃! k, slot_of k = some i := by
  constructor
  · intro hused
    obtain ⟨k, hk⟩ := h.owner i hused
    exact ⟨k, hk, fun l hl => h.injective l k i hl hk⟩
  · rintro ⟨k, hk, _⟩
    exact h.used_of_slot k i hk

theorem Accounted.congr {slot_of slot_of' : K → Option S} {used used' : S → Prop}
    (h : Accounted slot_of used) (hslot : ∀ k, slot_of' k = slot_of k)
    (hused : ∀ i, used' i ↔ used i) : Accounted slot_of' used' := by
  obtain rfl : slot_of' = slot_of := funext hslot
  obtain rfl : used' = used := funext fun i => propext (hused i)
  exact h

/-- A free slot may be assigned to a key that has none. -/
theorem Accounted.assign [DecidableEq K] {slot_of slot_of' : K → Option S} {used used' : S → Prop}
    (h : Accounted slot_of used) {k : K} {i : S} (hnew : slot_of k = none) (hfree : ¬ used i)
    (hslot : ∀ l, slot_of' l = if k = l then some i else slot_of l)
    (hused : ∀ j, used' j ↔ j = i ∨ used j) : Accounted slot_of' used' where
  used_of_slot l j hl := by
    rw [hslot] at hl
    rw [hused]
    split at hl
    · exact Or.inl (Option.some.inj hl).symm
    · exact Or.inr (h.used_of_slot l j hl)
  owner j hj := by
    rcases (hused j).mp hj with rfl | hold
    · exact ⟨k, by rw [hslot, if_pos rfl]⟩
    · obtain ⟨l, hl⟩ := h.owner j hold
      have hne : k ≠ l := by
        rintro rfl
        simp [hnew] at hl
      exact ⟨l, by rwa [hslot, if_neg hne]⟩
  injective a b j ha hb := by
    have hold : ∀ l, slot_of l ≠ some i := fun l hl => hfree (h.used_of_slot l i hl)
    rw [hslot] at ha hb
    split at ha <;> split at hb
    · simp_all
    · obtain rfl := Option.some.inj ha
      exact absurd hb (hold b)
    · obtain rfl := Option.some.inj hb
      exact absurd ha (hold a)
    · exact h.injective a b j ha hb

/-- Taking a key out together with its slot keeps the accounts. -/
theorem Accounted.release [DecidableEq K] {slot_of slot_of' : K → Option S} {used used' : S → Prop}
    (h : Accounted slot_of used) {k : K} {i : S} (hk : slot_of k = some i)
    (hslot : ∀ l, slot_of' l = if k = l then none else slot_of l)
    (hused : ∀ j, used' j ↔ j ≠ i ∧ used j) : Accounted slot_of' used' where
  used_of_slot l j hl := by
    rw [hslot] at hl
    split at hl
    · cases hl
    · rename_i hne
      refine (hused j).mpr ⟨?_, h.used_of_slot l j hl⟩
      rintro rfl
      exact hne (h.injective k l j hk hl)
  owner j hj := by
    obtain ⟨hne, hold⟩ := (hused j).mp hj
    obtain ⟨l, hl⟩ := h.owner j hold
    have hkl : k ≠ l := by
      rintro rfl
      rw [hk] at hl
      exact hne (Option.some.inj hl).symm
    exact ⟨l, by rwa [hslot, if_neg hkl]⟩
  injective a b j ha hb := by
    rw [hslot] at ha hb
    split at ha
    · cases ha
    · split at hb
      · cases hb
      · exact h.injective a b j ha hb

end slots
