import Mathlib

namespace loop

/-- How one iteration ends: the loop goes on, or it is left with a result. -/
inductive Turn (σ ρ : Type) where
  | next (s : σ)
  | leave (result : ρ)
  deriving DecidableEq, Repr

/-- A loop with `fuel` iterations to go; `none` when these do not end it. -/
def run {σ ρ ε : Type} (body : σ → Except ε (Turn σ ρ)) : Nat → σ → Option (Except ε ρ)
  | 0, _ => none
  | fuel + 1, s =>
    match body s with
    | .ok (.next t) => run body fuel t
    | .ok (.leave result) => some (.ok result)
    | .error fault => some (.error fault)

section Ends

variable {σ ρ ε : Type}

/-- The loop ends with this outcome, a result or a fault. -/
def Ends (body : σ → Except ε (Turn σ ρ)) (s : σ) (outcome : Except ε ρ) : Prop :=
  ∃ fuel, run body fuel s = some outcome

variable {body : σ → Except ε (Turn σ ρ)} {s t : σ} {outcome other : Except ε ρ}

theorem run_of_le {fuel more : Nat} (hle : fuel ≤ more) (h : run body fuel s = some outcome) :
    run body more s = some outcome := by
  induction fuel generalizing s more with
  | zero => simp [run] at h
  | succ fuel ih =>
    obtain ⟨more, rfl⟩ : ∃ k, more = k + 1 := ⟨more - 1, by omega⟩
    rw [run] at h ⊢
    split at h
    · exact ih (by omega) h
    · exact h
    · exact h

theorem Ends.unique (h : Ends body s outcome) (hother : Ends body s other) : outcome = other := by
  obtain ⟨fuel, hfuel⟩ := h
  obtain ⟨more, hmore⟩ := hother
  have hleft := run_of_le (Nat.le_max_left fuel more) hfuel
  have hright := run_of_le (Nat.le_max_right fuel more) hmore
  exact Option.some.inj (hleft.symm.trans hright)

theorem ends_leave {result : ρ} (h : body s = .ok (.leave result)) : Ends body s (.ok result) :=
  ⟨1, by simp [run, h]⟩

theorem ends_error {fault : ε} (h : body s = .error fault) : Ends body s (.error fault) :=
  ⟨1, by simp [run, h]⟩

/-- An iteration that does not go on ends the loop with its own outcome. -/
theorem ends_of_map_leave (h : body s = outcome.map Turn.leave) : Ends body s outcome := by
  cases outcome with
  | ok result => exact ends_leave h
  | error fault => exact ends_error h

theorem run_next (h : body s = .ok (.next t)) (fuel : Nat) :
    run body (fuel + 1) s = run body fuel t := by
  simp [run, h]

theorem ends_next_iff (h : body s = .ok (.next t)) : Ends body s outcome ↔ Ends body t outcome := by
  constructor
  · rintro ⟨fuel, hfuel⟩
    cases fuel with
    | zero => simp [run] at hfuel
    | succ fuel => exact ⟨fuel, (run_next h fuel).symm.trans hfuel⟩
  · rintro ⟨fuel, hfuel⟩
    exact ⟨fuel + 1, (run_next h fuel).trans hfuel⟩

/-- A loop that no iteration leaves does not end with a result. -/
theorem not_ends_ok_of_not_leave (hbody : ∀ s result, body s ≠ .ok (.leave result)) (result : ρ) :
    ¬ Ends body s (.ok result) := by
  rintro ⟨fuel, hfuel⟩
  induction fuel generalizing s with
  | zero => simp [run] at hfuel
  | succ fuel ih =>
    rw [run] at hfuel
    split at hfuel
    · exact ih hfuel
    · exact hbody s _ (by assumption)
    · simp at hfuel

/-- The rule for total correctness: inside the invariant at a measure every iteration ends the loop
with a good outcome or goes on inside the invariant at a smaller measure. -/
theorem ends_of_measure {inv : Nat → σ → Prop} {good : Except ε ρ → Prop}
    (hbody : ∀ n s, inv n s → (∃ t m, body s = .ok (.next t) ∧ m < n ∧ inv m t) ∨
      ∃ outcome, Ends body s outcome ∧ good outcome)
    {n : Nat} (hinit : inv n s) : ∃ outcome, Ends body s outcome ∧ good outcome := by
  induction n using Nat.strong_induction_on generalizing s with
  | _ n ih =>
    rcases hbody n s hinit with ⟨t, m, hnext, hlt, ht⟩ | hend
    · obtain ⟨outcome, hrest, hgood⟩ := ih m hlt ht
      exact ⟨outcome, (ends_next_iff hnext).mpr hrest, hgood⟩
    · exact hend

/-- The rule for divergence: inside the invariant every iteration goes on. -/
theorem not_ends_of_invariant {inv : σ → Prop}
    (hbody : ∀ s, inv s → ∃ t, body s = .ok (.next t) ∧ inv t) (hinit : inv s)
    (outcome : Except ε ρ) : ¬ Ends body s outcome := by
  rintro ⟨fuel, hfuel⟩
  induction fuel generalizing s with
  | zero => simp [run] at hfuel
  | succ fuel ih =>
    obtain ⟨t, hnext, ht⟩ := hbody s hinit
    exact ih ht ((run_next hnext fuel).symm.trans hfuel)

end Ends

end loop
