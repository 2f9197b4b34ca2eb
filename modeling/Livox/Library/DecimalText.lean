import Mathlib

namespace decimal_text

section Separator

variable {α : Type} {a : α} {xs ys front back : List α}

/-- What stands behind the last separator, and what stands before it. -/
theorem append_cons_inj_of_notMem_right (hxs : a ∉ xs) (hys : a ∉ ys)
    (h : front ++ a :: xs = back ++ a :: ys) : front = back ∧ xs = ys := by
  rcases List.append_eq_append_iff.mp h with ⟨between, rfl, hrest⟩ | ⟨between, rfl, hrest⟩
  · cases between with
    | nil => exact ⟨(List.append_nil _).symm, List.tail_eq_of_cons_eq hrest⟩
    | cons b between =>
      have hxs' : xs = between ++ a :: ys := List.tail_eq_of_cons_eq hrest
      exact absurd (hxs' ▸ by simp) hxs
  · cases between with
    | nil => exact ⟨List.append_nil _, (List.tail_eq_of_cons_eq hrest).symm⟩
    | cons b between =>
      have hys' : ys = between ++ a :: xs := List.tail_eq_of_cons_eq hrest
      exact absurd (hys' ▸ by simp) hys

/-- What stands before the first separator, and what stands behind it. -/
theorem append_cons_inj_of_notMem_left (hxs : a ∉ xs) (hys : a ∉ ys)
    (h : xs ++ a :: front = ys ++ a :: back) : xs = ys ∧ front = back := by
  have hreverse := congrArg List.reverse h
  simp only [List.reverse_append, List.reverse_cons, List.append_assoc,
    List.singleton_append] at hreverse
  obtain ⟨hfront, hbehind⟩ := append_cons_inj_of_notMem_right (by simpa using hxs)
    (by simpa using hys) hreverse
  exact ⟨List.reverse_inj.mp hbehind, List.reverse_inj.mp hfront⟩

end Separator

section Digits

variable {n m : Nat} {c : Char}

theorem mem_toDigits_bound (hc : c ∈ Nat.toDigits 10 n) : 48 ≤ c.toNat ∧ c.toNat ≤ 57 := by
  have hdigit := Nat.isDigit_of_mem_toDigits (by decide) (by decide) hc
  simpa [Char.isDigit, UInt32.le_iff_toNat_le] using hdigit

theorem toDigits_inj (h : Nat.toDigits 10 n = Nat.toDigits 10 m) : n = m := by
  have hvalue := congrArg (Nat.ofDigitChars 10 · 0) h
  simpa only [Nat.ofDigitChars_ten_toDigits] using hvalue

end Digits

end decimal_text
