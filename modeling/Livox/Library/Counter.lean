import Livox.Library.Exec

open checked execution

namespace counter

/-- A cell that any number of threads advance with compare-and-swap, and what each thread that is in
its loop has read. -/
structure Counter (α : Type) where
  value : α
  read : Nat → Option α

/-- A thread loads the cell, or tries to exchange what it has read for its successor. The weak
exchange may fail without a reason. -/
inductive Access where
  | load (thread : Nat)
  | exchange (thread : Nat) (spurious : Bool)
  deriving DecidableEq, Repr

def Access.thread : Access → Nat
  | .load thread => thread
  | .exchange thread _ => thread

section Access

variable {α : Type} [DecidableEq α]

def Counter.start (first : α) : Counter α where
  value := first
  read := fun _ => none

/-- The counter after an access, with the value that the thread returns when its exchange succeeds;
one that fails reads the cell again. A thread that is not at an access leaves everything as it is. -/
def Counter.access (next : α → α) (s : Counter α) : Access → Counter α × Option α
  | .load thread =>
    match s.read thread with
    | none => ({ s with read := Function.update s.read thread (some s.value) }, none)
    | some _ => (s, none)
  | .exchange thread spurious =>
    match s.read thread with
    | none => (s, none)
    | some value =>
      if value = s.value ∧ spurious = false then
        ({ value := next value, read := Function.update s.read thread none }, some (next value))
      else ({ s with read := Function.update s.read thread (some s.value) }, none)

/-- Whatever the threads have read: an access returns the successor of the cell and leaves it there,
or returns nothing and leaves the cell as it is. -/
theorem Counter.access_cases (next : α → α) (s : Counter α) (a : Access) :
    ((s.access next a).2 = none ∧ (s.access next a).1.value = s.value) ∨
      ((s.access next a).2 = some (next s.value) ∧ (s.access next a).1.value = next s.value) := by
  cases a with
  | load thread =>
    left
    rw [Counter.access]
    split <;> exact ⟨rfl, rfl⟩
  | exchange thread spurious =>
    rw [Counter.access]
    split
    · exact Or.inl ⟨rfl, rfl⟩
    · split
      · rename_i hsame
        obtain ⟨rfl, -⟩ := hsame
        exact Or.inr ⟨rfl, rfl⟩
      · exact Or.inl ⟨rfl, rfl⟩

end Access

section Generator

variable {α : Type} [DecidableEq α] {next : α → α} {first : α}

/-- A counter with the values that have been returned, in the order of the exchanges. -/
structure Generator (α : Type) where
  cell : Counter α
  results : List α

namespace Generator

def start (first : α) : Generator α where
  cell := .start first
  results := []

def step (next : α → α) (s : Generator α) (a : Access) : Checked (Generator α) :=
  let (cell, result) := s.cell.access next a
  .ok { cell, results := s.results ++ result.toList }

/-- The values that come when `next` is applied over and over. -/
def successors (next : α → α) (first : α) (n : Nat) : List α :=
  (List.range n).map fun i => next^[i + 1] first

/-- As many values have been returned as the cell has been advanced. -/
structure Counts (next : α → α) (first : α) (s : Generator α) : Prop where
  value : s.cell.value = next^[s.results.length] first
  results : s.results = successors next first s.results.length

omit [DecidableEq α] in
theorem successors_succ (next : α → α) (first : α) (n : Nat) :
    successors next first (n + 1) = successors next first n ++ [next^[n + 1] first] := by
  rw [successors, successors, List.range_succ, List.map_append, List.map_singleton]

theorem Counts.step {s t : Generator α} {a : Access} (h : s.Counts next first)
    (hstep : s.step next a = .ok t) : t.Counts next first := by
  have hcases := s.cell.access_cases next a
  rw [Generator.step] at hstep
  cases haccess : s.cell.access next a with
  | mk cell result =>
  rw [haccess] at hcases hstep
  obtain rfl := Except.ok.inj hstep
  rcases hcases with ⟨rfl, hvalue⟩ | ⟨rfl, hvalue⟩
  · rw [Option.toList_none, List.append_nil]
    exact ⟨hvalue.trans h.value, h.results⟩
  · have hlast : next s.cell.value = next^[s.results.length + 1] first := by
      rw [h.value, Function.iterate_succ_apply']
    have hlength : (s.results ++ (some (next s.cell.value)).toList).length = s.results.length + 1 := by
      simp
    refine ⟨?_, ?_⟩
    · rw [hlength]
      exact hvalue.trans hlast
    · rw [hlength, successors_succ, ← h.results, Option.toList_some, hlast]

/-- In every interleaving the values come in the order of `next`. -/
theorem statesSatisfy_counts (next : α → α) (first : α) (accesses : List Access) :
    StatesSatisfy (Generator.step next) (Counts next first) (start first) accesses :=
  statesSatisfy_invariant (fun _ _ _ h hstep => h.step hstep) ⟨rfl, rfl⟩ accesses

end Generator

/-- The values that `next` goes through from `first` on come again after `period` of them, and not
before. -/
def Cycles (next : α → α) (first : α) (period : Nat) : Prop :=
  ∀ i j, next^[i] first = next^[j] first ↔ i % period = j % period

section Wraps

variable {number : α → Nat} {period : Nat}

omit [DecidableEq α] in
/-- A counter that goes up to `period` and wraps to one. -/
theorem number_iterate (hperiod : 0 < period) (hfirst : number first = 1)
    (hnext : ∀ a, number a ≤ period →
      number (next a) = if number a = period then 1 else number a + 1) (i : Nat) :
    number (next^[i] first) = i % period + 1 := by
  induction i with
  | zero => rw [Function.iterate_zero_apply, hfirst, Nat.zero_mod]
  | succ i ih =>
    have hless := Nat.mod_lt i hperiod
    rw [Function.iterate_succ_apply', hnext _ (by omega), ih, ← Nat.mod_add_mod i]
    by_cases hlast : i % period + 1 = period
    · rw [if_pos hlast, hlast, Nat.mod_self]
    · rw [if_neg hlast, Nat.mod_eq_of_lt (show i % period + 1 < period by omega)]

omit [DecidableEq α] in
theorem cycles_of_wraps (hnumber : number.Injective) (hperiod : 0 < period)
    (hfirst : number first = 1)
    (hnext : ∀ a, number a ≤ period →
      number (next a) = if number a = period then 1 else number a + 1) :
    Cycles next first period := by
  intro i j
  rw [← hnumber.eq_iff, number_iterate hperiod hfirst hnext, number_iterate hperiod hfirst hnext]
  omega

end Wraps

omit [DecidableEq α] in
/-- No value comes twice among as many in a row as the period has. -/
theorem Cycles.nodup_of_infix {period n : Nat} (h : Cycles next first period) {window : List α}
    (hwindow : window <:+: Generator.successors next first n) (hlength : window.length ≤ period) :
    window.Nodup := by
  obtain ⟨front, back, happend⟩ := hwindow
  have hplace : ∀ i (hi : i < window.length), window[i] = next^[front.length + i + 1] first := by
    intro i hi
    have hat : (Generator.successors next first n)[front.length + i]? = some window[i] := by
      rw [← happend, List.getElem?_append_left (by simp; omega),
        List.getElem?_append_right (by omega), Nat.add_sub_cancel_left, List.getElem?_eq_getElem hi]
    rw [Generator.successors, List.getElem?_map] at hat
    obtain ⟨place, hplace, hvalue⟩ := Option.map_eq_some_iff.mp hat
    obtain ⟨_, rfl⟩ := List.getElem?_eq_some_iff.mp hplace
    rw [List.getElem_range] at hvalue
    exact hvalue.symm
  rw [List.nodup_iff_injective_getElem]
  rintro ⟨i, hi⟩ ⟨j, hj⟩ heq
  have hvalues : next^[front.length + i + 1] first = next^[front.length + j + 1] first := by
    rw [← hplace i hi, ← hplace j hj]
    exact heq
  -- two places that are less than a period apart
  have hsame : i ≡ j [MOD period] := by
    apply Nat.ModEq.add_left_cancel' (front.length + 1)
    rw [add_right_comm, add_right_comm _ 1 j]
    exact (h _ _).mp hvalues
  exact Fin.ext (hsame.eq_of_lt_of_lt (by omega) (by omega))

end Generator

end counter
