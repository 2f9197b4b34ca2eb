import Livox.Library.Exec

open checked execution

namespace fairness

variable {σ ι α : Type}

/-- Every party gets a turn again and again. -/
def Fair (turn : Nat → ι) : Prop := ∀ i n, ∃ m, n ≤ m ∧ turn m = i

/-- The parties that have the first turns. -/
def turns (turn : Nat → ι) (n : Nat) : List ι := (List.range n).map turn

/-- The run in which the parties take their turns comes to a state with the property. -/
def Reaches (step : σ → ι → Checked σ) (turn : Nat → ι) (s : σ) (P : σ → Prop) : Prop :=
  ∃ n t, exec step s (turns turn n) = .ok t ∧ P t

section Turns

variable {step : σ → ι → Checked σ} {turn : Nat → ι} {s t : σ} {P : σ → Prop}

theorem turns_add (turn : Nat → ι) (n m : Nat) :
    turns turn (n + m) = turns turn n ++ turns (fun k => turn (n + k)) m := by
  simp [turns, List.range_add, Function.comp_def]

theorem Fair.after (h : Fair turn) (n : Nat) : Fair fun k => turn (n + k) := by
  intro i k
  obtain ⟨m, hle, hm⟩ := h i (n + k)
  refine ⟨m - n, by omega, ?_⟩
  show turn (n + (m - n)) = i
  rwa [Nat.add_sub_of_le (by omega)]

theorem Reaches.of_now (h : P s) : Reaches step turn s P := ⟨0, s, rfl, h⟩

theorem Reaches.of_after {n : Nat} (h : exec step s (turns turn n) = .ok t)
    (hrest : Reaches step (fun k => turn (n + k)) t P) : Reaches step turn s P := by
  obtain ⟨m, u, hrun, hu⟩ := hrest
  refine ⟨n + m, u, ?_, hu⟩
  rw [turns_add, exec_append_eq_ok_iff]
  exact ⟨t, h, hrun⟩

theorem not_reaches_of_invariant {inv : σ → Prop}
    (hstep : ∀ s i t, inv s → step s i = .ok t → inv t) (hnot : ∀ s, inv s → ¬ P s)
    (hinit : inv s) : ¬ Reaches step turn s P := by
  rintro ⟨n, t, hrun, ht⟩
  exact hnot t (exec_invariant hstep hinit hrun) ht

end Turns

/-- The steps that a rank is good for: inside the invariant every step completes, and it lowers the
rank or leaves both the rank and the party that can lower it as they are. -/
structure Ranked (step : σ → ι → Checked σ) [LT α] (inv : σ → Prop) (rank : σ → α)
    (helpful : σ → ι) (s : σ) (i : ι) (t : σ) : Prop where
  completes : step s i = .ok t
  inv : inv t
  rank : rank t < rank s ∨ rank t = rank s ∧ i ≠ helpful s ∧ helpful t = helpful s

section Ranked

variable [Preorder α] {step : σ → ι → Checked σ} {turn : Nat → ι} {inv P : σ → Prop}
  {rank : σ → α} {helpful : σ → ι} {s : σ}

/-- By the turn of the helpful party the rank is lower, unless the property has come to hold. -/
theorem lower_by_helpful_turn
    (hstep : ∀ s i, inv s → ¬ P s → ∃ t, Ranked step inv rank helpful s i t) (hinit : inv s)
    (hnot : ¬ P s) {m : Nat} (hturn : turn m = helpful s) :
    ∃ n t, exec step s (turns turn n) = .ok t ∧ inv t ∧ (P t ∨ rank t < rank s) := by
  induction m generalizing turn s with
  | zero =>
    obtain ⟨t, hone⟩ := hstep s (turn 0) hinit hnot
    rcases hone.rank with hlower | ⟨-, hother, -⟩
    · exact ⟨1, t, by simp [turns, exec, hone.completes], hone.inv, .inr hlower⟩
    · exact absurd hturn hother
  | succ m ih =>
    obtain ⟨t, hone⟩ := hstep s (turn 0) hinit hnot
    have hfirst : exec step s (turns turn 1) = .ok t := by simp [turns, exec, hone.completes]
    by_cases ht : P t
    · exact ⟨1, t, hfirst, hone.inv, .inl ht⟩
    rcases hone.rank with hlower | ⟨hsame, -, hkept⟩
    · exact ⟨1, t, hfirst, hone.inv, .inr hlower⟩
    · have hlater : turn (1 + m) = helpful t := by
        rw [Nat.add_comm, hturn, hkept]
      obtain ⟨n, u, hrun, hu, hrest⟩ := @ih (fun k => turn (1 + k)) t hone.inv ht hlater
      refine ⟨1 + n, u, ?_, hu, by rwa [hsame] at hrest⟩
      rw [turns_add, exec_append_eq_ok_iff]
      exact ⟨t, hfirst, hrun⟩

/-- The rule for progress under fairness: as long as the property does not hold there is a party
whose step lowers the rank, and no step raises it or takes the turn from that party. -/
theorem Fair.reaches [WellFoundedLT α] (hfair : Fair turn)
    (hstep : ∀ s i, inv s → ¬ P s → ∃ t, Ranked step inv rank helpful s i t) (hinit : inv s) :
    Reaches step turn s P := by
  induction hrank : rank s using WellFoundedLT.induction generalizing turn s with
  | ind r ih =>
    by_cases hs : P s
    · exact Reaches.of_now hs
    obtain ⟨m, -, hturn⟩ := hfair (helpful s) 0
    obtain ⟨n, t, hrun, ht, hdone | hlower⟩ := lower_by_helpful_turn hstep hinit hs hturn
    · exact ⟨n, t, hrun, hdone⟩
    · apply Reaches.of_after hrun
      exact ih (rank t) (by rwa [← hrank]) (hfair.after n) ht rfl

end Ranked

end fairness
