import Mathlib

namespace checked

/-- The ways in which a memory-unsafe execution loses its meaning. A step that
would read or write storage it does not own ends in one of these instead of in
a state, so that "the run completes" says that no such access happened. The null
pointer of a field that is to be told from the others has the field's name. -/
inductive Fault where
  | outOfBounds (index size : Nat)
  | nullDereference
  | nullField (name : String)
  | freedStorage
  | divisionByZero
  | precondition
  deriving DecidableEq, Repr

abbrev Checked (α : Type) := Except Fault α

section Bind

variable {ε α β : Type}

theorem bind_eq_ok_iff {x : Except ε α} {f : α → Except ε β} {b : β} :
    (x >>= f) = .ok b ↔ ∃ a, x = .ok a ∧ f a = .ok b := by
  cases x <;> simp [bind, Except.bind]

/-- A computation of two steps comes through when the first does and then the second. -/
theorem bind_completes_iff {x : Except ε α} {f : α → Except ε β} {P Q : Prop}
    (hx : (∃ a, x = .ok a) ↔ P) (hf : ∀ a, x = .ok a → ((∃ b, f a = .ok b) ↔ Q)) :
    (∃ b, (x >>= f) = .ok b) ↔ P ∧ Q := by
  constructor
  · rintro ⟨b, h⟩
    obtain ⟨a, ha, hb⟩ := bind_eq_ok_iff.mp h
    exact ⟨hx.mp ⟨a, ha⟩, (hf a ha).mp ⟨b, hb⟩⟩
  · rintro ⟨hp, hq⟩
    obtain ⟨a, ha⟩ := hx.mpr hp
    obtain ⟨b, hb⟩ := (hf a ha).mpr hq
    exact ⟨b, bind_eq_ok_iff.mpr ⟨a, ha, hb⟩⟩

theorem map_eq_ok_iff {x : Except ε α} {f : α → β} {b : β} :
    x.map f = .ok b ↔ ∃ a, x = .ok a ∧ f a = b := by
  cases x <;> simp [Except.map]

theorem map_completes_iff {x : Except ε α} {f : α → β} :
    (∃ b, x.map f = .ok b) ↔ ∃ a, x = .ok a := by
  simp only [map_eq_ok_iff]
  constructor
  · rintro ⟨b, a, ha, -⟩
    exact ⟨a, ha⟩
  · rintro ⟨a, ha⟩
    exact ⟨f a, a, ha, rfl⟩

@[simp] theorem ok_bind (a : α) (f : α → Except ε β) :
    ((Except.ok a : Except ε α) >>= f) = f a := rfl

@[simp] theorem error_bind (e : ε) (f : α → Except ε β) :
    ((Except.error e : Except ε α) >>= f) = .error e := rfl

end Bind

/-- Write one cell of an array of fixed size; an index at or past the end has
no cell to write. -/
def writeAt {α : Type} {n : Nat} (a : Vector α n) (i : Nat) (value : α) : Checked (Vector α n) :=
  if h : i < n then .ok (a.set i value h) else .error (.outOfBounds i n)

theorem writeAt_of_lt {α : Type} {n : Nat} (a : Vector α n) {i : Nat} (value : α) (h : i < n) :
    writeAt a i value = .ok (a.set i value h) := by
  simp [writeAt, h]

/-- Read one cell of an array of fixed size. -/
def readAt {α : Type} {n : Nat} (a : Vector α n) (i : Nat) : Checked α :=
  if h : i < n then .ok a[i] else .error (.outOfBounds i n)

theorem readAt_of_lt {α : Type} {n : Nat} (a : Vector α n) {i : Nat} (h : i < n) :
    readAt a i = .ok a[i] := by
  simp [readAt, h]

/-- Reading the positions of a list one after the other reads the list. -/
theorem mapM_range_eq_ok {α : Type} {read : Nat → Checked α} {xs : List α}
    (h : ∀ i (hi : i < xs.length), read i = .ok xs[i]) :
    (List.range xs.length).mapM read = .ok xs := by
  induction xs using List.reverseRecOn with
  | nil => rfl
  | append_singleton xs x ih =>
    have hfront : ∀ i (hi : i < xs.length), read i = .ok xs[i] := by
      intro i hi
      have hread := h i (by simp; omega)
      rwa [List.getElem_append_left hi] at hread
    have hlast : read xs.length = .ok x := by
      have hread := h xs.length (by simp)
      rwa [List.getElem_concat_length rfl] at hread
    rw [List.length_append, List.length_singleton, List.range_succ, List.mapM_append, ih hfront]
    simp [hlast]

section Traversal

variable {ε α β : Type} {f : α → Except ε β}

theorem mapM_cons_eq (x : α) (xs : List α) :
    (x :: xs).mapM f = (f x).bind fun y => (xs.mapM f).map (y :: ·) := by
  rw [List.mapM_cons]
  cases f x with
  | error e => rfl
  | ok y => cases xs.mapM f <;> rfl

/-- A list is traversed to its end when every element is. -/
theorem mapM_eq_ok_iff {xs : List α} {ys : List β} :
    xs.mapM f = .ok ys ↔ List.Forall₂ (fun x y => f x = .ok y) xs ys := by
  induction xs generalizing ys with
  | nil =>
    rw [List.forall₂_nil_left_iff]
    exact ⟨fun h => (Except.ok.inj h).symm, fun h => h ▸ rfl⟩
  | cons x xs ih =>
    rw [mapM_cons_eq, List.forall₂_cons_left_iff]
    cases hfirst : f x with
    | error e => simp [Except.bind]
    | ok y =>
      cases hrest : xs.mapM f with
      | error e =>
        have hnot : ∀ zs, ¬ List.Forall₂ (fun x y => f x = .ok y) xs zs := fun zs hzs => by
          simp [ih.mpr hzs] at hrest
        simp [Except.bind, Except.map, hnot]
      | ok zs =>
        have hall : ∀ {more}, List.Forall₂ (fun x y => f x = .ok y) xs more ↔ zs = more := fun {more} => by
          rw [← ih, hrest, Except.ok.injEq]
        simp [Except.bind, Except.map, hall, eq_comm]

/-- The first element that fails decides how the traversal of a list fails. -/
theorem mapM_eq_error_iff {xs : List α} {e : ε} :
    xs.mapM f = .error e ↔ ∃ front x back, xs = front ++ x :: back ∧
      (∀ y ∈ front, ∃ b, f y = .ok b) ∧ f x = .error e := by
  induction xs with
  | nil => simp [pure, Except.pure]
  | cons x xs ih =>
    rw [mapM_cons_eq]
    cases hfirst : f x with
    | error fault =>
      constructor
      · intro h
        obtain rfl : fault = e := by simpa [Except.bind] using h
        exact ⟨[], x, xs, rfl, by simp, hfirst⟩
      · rintro ⟨front, y, back, hsplit, hfront, hy⟩
        cases front with
        | nil =>
          obtain ⟨rfl, rfl⟩ := List.cons.inj hsplit
          simpa [Except.bind, hfirst] using hy
        | cons z front =>
          obtain ⟨rfl, -⟩ := List.cons.inj hsplit
          obtain ⟨b, hb⟩ := hfront x List.mem_cons_self
          simp [hfirst] at hb
    | ok y =>
      have hmap : ((Except.ok y).bind fun y => (xs.mapM f).map (y :: ·)) = .error e ↔
          xs.mapM f = .error e := by
        cases xs.mapM f <;> simp [Except.bind, Except.map]
      rw [hmap, ih]
      constructor
      · rintro ⟨front, z, back, rfl, hfront, hz⟩
        exact ⟨x :: front, z, back, rfl, by simpa [hfirst] using hfront, hz⟩
      · rintro ⟨front, z, back, hsplit, hfront, hz⟩
        cases front with
        | nil =>
          obtain ⟨rfl, rfl⟩ := List.cons.inj hsplit
          simp [hfirst] at hz
        | cons w front =>
          obtain ⟨rfl, rfl⟩ := List.cons.inj hsplit
          exact ⟨front, z, back, rfl, fun v hv => hfront v (List.mem_cons_of_mem _ hv), hz⟩

end Traversal

/-- Read one cell of a list that stands for a heap array. -/
def readList {α : Type} (a : List α) (i : Nat) : Checked α :=
  match a[i]? with
  | some value => .ok value
  | none => .error (.outOfBounds i a.length)

theorem readList_eq_ok_iff {α : Type} {a : List α} {i : Nat} {value : α} :
    readList a i = .ok value ↔ a[i]? = some value := by
  unfold readList
  cases a[i]? <;> simp

/-- Write one cell of a list that stands for a heap array. -/
def writeList {α : Type} (a : List α) (i : Nat) (value : α) : Checked (List α) :=
  if i < a.length then .ok (a.set i value) else .error (.outOfBounds i a.length)

theorem writeList_of_lt {α : Type} {a : List α} {i : Nat} (value : α) (h : i < a.length) :
    writeList a i value = .ok (a.set i value) := by
  simp [writeList, h]

end checked

namespace execution

open checked

variable {σ ι : Type} {step : σ → ι → Checked σ}

/-- Run a list of events. Since the events are arbitrary, a list is also a
schedule: every interleaving of several parties is one list. -/
def exec (step : σ → ι → Checked σ) : σ → List ι → Checked σ
  | s, [] => .ok s
  | s, e :: es => step s e >>= fun t => exec step t es

theorem exec_cons (s : σ) (e : ι) (es : List ι) :
    exec step s (e :: es) = step s e >>= fun t => exec step t es := rfl

theorem exec_cons_eq_ok_iff {s t : σ} {e : ι} {es : List ι} :
    exec step s (e :: es) = .ok t ↔ ∃ u, step s e = .ok u ∧ exec step u es = .ok t := by
  rw [exec_cons, bind_eq_ok_iff]

theorem exec_append_eq_ok_iff {s t : σ} {es fs : List ι} :
    exec step s (es ++ fs) = .ok t ↔ ∃ u, exec step s es = .ok u ∧ exec step u fs = .ok t := by
  induction es generalizing s with
  | nil => simp [exec]
  | cons e es ih =>
    rw [List.cons_append, exec_cons_eq_ok_iff]
    simp only [ih, exec_cons_eq_ok_iff]
    constructor
    · rintro ⟨v, hone, u, hrun, hrest⟩
      exact ⟨u, ⟨v, hone, hrun⟩, hrest⟩
    · rintro ⟨u, ⟨v, hone, hrun⟩, hrest⟩
      exact ⟨v, hone, u, hrun, hrest⟩

/-- `P` holds in the first state and in every state the run reaches. -/
def StatesSatisfy (step : σ → ι → Checked σ) (P : σ → Prop) : σ → List ι → Prop
  | s, [] => P s
  | s, e :: es => P s ∧ ∀ t, step s e = .ok t → StatesSatisfy step P t es

/-- `guard` holds of every event of the run, in the state before the event. -/
def StepsSatisfy (step : σ → ι → Checked σ) (guard : σ → ι → Prop) : σ → List ι → Prop
  | _, [] => True
  | s, e :: es => guard s e ∧ ∀ t, step s e = .ok t → StepsSatisfy step guard t es

instance decidableStatesSatisfy {P : σ → Prop} [DecidablePred P] :
    ∀ s es, Decidable (StatesSatisfy step P s es)
  | s, [] => inferInstanceAs (Decidable (P s))
  | s, e :: es =>
    match h : step s e with
    | .error _ => decidable_of_iff (P s) (by simp [StatesSatisfy, h])
    | .ok t =>
      have : Decidable (StatesSatisfy step P t es) := decidableStatesSatisfy t es
      decidable_of_iff (P s ∧ StatesSatisfy step P t es) (by simp [StatesSatisfy, h])

instance decidableStepsSatisfy {guard : σ → ι → Prop} [∀ s e, Decidable (guard s e)] :
    ∀ s es, Decidable (StepsSatisfy step guard s es)
  | _, [] => isTrue trivial
  | s, e :: es =>
    match h : step s e with
    | .error _ => decidable_of_iff (guard s e) (by simp [StepsSatisfy, h])
    | .ok t =>
      have : Decidable (StepsSatisfy step guard t es) := decidableStepsSatisfy t es
      decidable_of_iff (guard s e ∧ StepsSatisfy step guard t es) (by simp [StepsSatisfy, h])

theorem StatesSatisfy.first {P : σ → Prop} {s : σ} {es : List ι}
    (h : StatesSatisfy step P s es) : P s := by
  cases es with
  | nil => exact h
  | cons e es => exact h.1

/-- The states a run reaches are the final states of its prefixes. -/
theorem statesSatisfy_iff_reached {P : σ → Prop} {s : σ} {es : List ι} :
    StatesSatisfy step P s es ↔
      ∀ fs t, fs <+: es → exec step s fs = .ok t → P t := by
  induction es generalizing s with
  | nil =>
    constructor
    · intro h fs t hfs hrun
      obtain rfl := List.prefix_nil.mp hfs
      cases hrun
      exact h
    · intro h
      exact h [] s (List.prefix_refl _) rfl
  | cons e es ih =>
    constructor
    · rintro ⟨hfirst, hrest⟩ fs t hfs hrun
      cases fs with
      | nil =>
        cases hrun
        exact hfirst
      | cons f fs =>
        obtain ⟨rfl, htail⟩ := List.cons_prefix_cons.mp hfs
        obtain ⟨u, hstep, hrun⟩ := exec_cons_eq_ok_iff.mp hrun
        exact ih.mp (hrest u hstep) fs t htail hrun
    · intro h
      refine ⟨h [] s (List.nil_prefix) rfl, fun t hstep => ih.mpr ?_⟩
      intro fs u hfs hrun
      exact h (e :: fs) u (List.cons_prefix_cons.mpr ⟨rfl, hfs⟩)
        (exec_cons_eq_ok_iff.mpr ⟨t, hstep, hrun⟩)

theorem StatesSatisfy.last {P : σ → Prop} {s t : σ} {es : List ι}
    (h : StatesSatisfy step P s es) (hrun : exec step s es = .ok t) : P t :=
  statesSatisfy_iff_reached.mp h es t (List.prefix_refl _) hrun

theorem StatesSatisfy.mono {P Q : σ → Prop} (hpq : ∀ s, P s → Q s) {s : σ} {es : List ι}
    (h : StatesSatisfy step P s es) : StatesSatisfy step Q s es := by
  rw [statesSatisfy_iff_reached] at h ⊢
  exact fun fs t hfs hrun => hpq t (h fs t hfs hrun)

theorem StepsSatisfy.mono {guard weaker : σ → ι → Prop} (hweaker : ∀ s e, guard s e → weaker s e)
    {s : σ} {es : List ι} (h : StepsSatisfy step guard s es) : StepsSatisfy step weaker s es := by
  induction es generalizing s with
  | nil => exact trivial
  | cons e es ih => exact ⟨hweaker s e h.1, fun t hone => ih (h.2 t hone)⟩

/-- The induction over a run: what one step preserves, every run preserves. -/
theorem exec_invariant {inv : σ → Prop}
    (hstep : ∀ s e t, inv s → step s e = .ok t → inv t) {s t : σ} {es : List ι}
    (hinit : inv s) (hrun : exec step s es = .ok t) : inv t := by
  induction es generalizing s with
  | nil =>
    cases hrun
    exact hinit
  | cons e es ih =>
    obtain ⟨u, hone, hrest⟩ := exec_cons_eq_ok_iff.mp hrun
    exact ih (hstep s e u hinit hone) hrest

theorem statesSatisfy_invariant {inv : σ → Prop}
    (hstep : ∀ s e t, inv s → step s e = .ok t → inv t) {s : σ} (hinit : inv s)
    (es : List ι) : StatesSatisfy step inv s es :=
  statesSatisfy_iff_reached.mpr fun _ _ _ hrun => exec_invariant hstep hinit hrun

/-- The same induction when only the guarded steps preserve the invariant. -/
theorem StepsSatisfy.invariant {inv : σ → Prop} {guard : σ → ι → Prop}
    (hstep : ∀ s e t, inv s → guard s e → step s e = .ok t → inv t) {s : σ} {es : List ι}
    (hinit : inv s) (hguard : StepsSatisfy step guard s es) : StatesSatisfy step inv s es := by
  induction es generalizing s with
  | nil => exact hinit
  | cons e es ih =>
    exact ⟨hinit, fun t hone => ih (hstep s e t hinit hguard.1 hone) (hguard.2 t hone)⟩

/-- What the guarded steps have inside the invariant, every step of the run has. -/
theorem StepsSatisfy.of_invariant {inv : σ → Prop} {guard weaker : σ → ι → Prop}
    (hstep : ∀ s e t, inv s → guard s e → step s e = .ok t → inv t)
    (hweaker : ∀ s e, inv s → guard s e → weaker s e) {s : σ} {es : List ι}
    (hinit : inv s) (hguard : StepsSatisfy step guard s es) : StepsSatisfy step weaker s es := by
  induction es generalizing s with
  | nil => exact trivial
  | cons e es ih =>
    exact ⟨hweaker s e hinit hguard.1,
      fun t hone => ih (hstep s e t hinit hguard.1 hone) (hguard.2 t hone)⟩

/-- Guarded steps that complete inside the invariant make every guarded run
complete, inside the invariant all along. -/
theorem StepsSatisfy.completes {inv : σ → Prop} {guard : σ → ι → Prop}
    (hstep : ∀ s e, inv s → guard s e → ∃ t, step s e = .ok t ∧ inv t) {s : σ} {es : List ι}
    (hinit : inv s) (hguard : StepsSatisfy step guard s es) :
    ∃ t, exec step s es = .ok t ∧ StatesSatisfy step inv s es := by
  induction es generalizing s with
  | nil => exact ⟨s, rfl, hinit⟩
  | cons e es ih =>
    obtain ⟨u, hone, hu⟩ := hstep s e hinit hguard.1
    obtain ⟨t, hrun, hrest⟩ := ih hu (hguard.2 u hone)
    refine ⟨t, exec_cons_eq_ok_iff.mpr ⟨u, hone, hrun⟩, hinit, fun v hv => ?_⟩
    obtain rfl : u = v := by simpa [hone] using hv
    exact hrest

/-- Events that leave `R` as it is can be left out of a run: the other run follows it with the
events that are kept. -/
theorem StepsSatisfy.erase {R : σ → σ → Prop} {guard : σ → ι → Prop} {kept : ι → Bool}
    (hkept : ∀ s s' e t, R s s' → guard s e → kept e = true → step s e = .ok t →
      ∃ t', step s' e = .ok t' ∧ R t t')
    (herased : ∀ s s' e t, R s s' → guard s e → kept e = false → step s e = .ok t → R t s')
    {s s' t : σ} {es : List ι} (hinit : R s s') (hguard : StepsSatisfy step guard s es)
    (hrun : exec step s es = .ok t) :
    ∃ t', exec step s' (es.filter kept) = .ok t' ∧ R t t' := by
  induction es generalizing s s' with
  | nil =>
    cases hrun
    exact ⟨s', rfl, hinit⟩
  | cons e es ih =>
    obtain ⟨u, hone, hrest⟩ := exec_cons_eq_ok_iff.mp hrun
    cases hkeep : kept e with
    | true =>
      obtain ⟨u', hone', hu⟩ := hkept s s' e u hinit hguard.1 hkeep hone
      obtain ⟨t', hrun', ht⟩ := ih hu (hguard.2 u hone) hrest
      rw [List.filter_cons_of_pos hkeep]
      exact ⟨t', exec_cons_eq_ok_iff.mpr ⟨u', hone', hrun'⟩, ht⟩
    | false =>
      rw [List.filter_cons_of_neg (by simp [hkeep])]
      exact ih (herased s s' e u hinit hguard.1 hkeep hone) (hguard.2 u hone) hrest

/-- The guard of an event in the middle of a run. -/
theorem StepsSatisfy.guard_of_exec {guard : σ → ι → Prop} {s t : σ} {e : ι} {es fs : List ι}
    (h : StepsSatisfy step guard s (es ++ e :: fs)) (hrun : exec step s es = .ok t) : guard t e := by
  induction es generalizing s with
  | nil =>
    cases hrun
    exact h.1
  | cons f es ih =>
    obtain ⟨u, hone, hrest⟩ := exec_cons_eq_ok_iff.mp hrun
    exact ih (h.2 u hone) hrest

/-- A guard that only looks at the events holds of the steps when it holds of
the list. -/
theorem stepsSatisfy_of_forall {allowed : ι → Prop} {s : σ} {es : List ι}
    (h : ∀ e ∈ es, allowed e) : StepsSatisfy step (fun _ e => allowed e) s es := by
  induction es generalizing s with
  | nil => exact trivial
  | cons e es ih => exact ⟨h e (by simp), fun t _ => ih fun f hf => h f (List.mem_cons_of_mem _ hf)⟩

/-- When an unguarded step breaks the property at once, a run has the property all along just if its
steps are guarded and its states are as the property needs them under the invariant. -/
theorem statesSatisfy_iff_stepsSatisfy_and_statesSatisfy {inv P Q : σ → Prop} {guard : σ → ι → Prop}
    (hinv : ∀ s, inv s → (P s ↔ Q s))
    (hstep : ∀ s e t, inv s → guard s e → step s e = .ok t → inv t)
    (hbreak : ∀ s e, inv s → ¬ guard s e → ∃ t, step s e = .ok t ∧ ¬ P t)
    {s : σ} (hinit : inv s) (es : List ι) :
    StatesSatisfy step P s es ↔ StepsSatisfy step guard s es ∧ StatesSatisfy step Q s es := by
  induction es generalizing s with
  | nil => exact (hinv s hinit).trans (and_iff_right trivial).symm
  | cons e es ih =>
    constructor
    · rintro ⟨hfirst, hrest⟩
      have hguard : guard s e := by
        by_contra hnot
        obtain ⟨t, hone, hbad⟩ := hbreak s e hinit hnot
        exact hbad (hrest t hone).first
      have hboth := fun t hone => (ih (hstep s e t hinit hguard hone)).mp (hrest t hone)
      exact ⟨⟨hguard, fun t hone => (hboth t hone).1⟩, (hinv s hinit).mp hfirst,
        fun t hone => (hboth t hone).2⟩
    · rintro ⟨⟨hguard, hsteps⟩, hfirst, hstates⟩
      exact ⟨(hinv s hinit).mpr hfirst, fun t hone =>
        (ih (hstep s e t hinit hguard hone)).mpr ⟨hsteps t hone, hstates t hone⟩⟩

/-- The case of a property that the invariant alone gives: the guard is not only enough for it but
exactly what it needs. -/
theorem statesSatisfy_iff_stepsSatisfy {inv P : σ → Prop} {guard : σ → ι → Prop}
    (hinv : ∀ s, inv s → P s)
    (hstep : ∀ s e t, inv s → guard s e → step s e = .ok t → inv t)
    (hbreak : ∀ s e, inv s → ¬ guard s e → ∃ t, step s e = .ok t ∧ ¬ P t)
    {s : σ} (hinit : inv s) (es : List ι) :
    StatesSatisfy step P s es ↔ StepsSatisfy step guard s es := by
  have htrue : StatesSatisfy step (fun _ => True) s es :=
    statesSatisfy_iff_reached.mpr fun _ _ _ _ => trivial
  rw [statesSatisfy_iff_stepsSatisfy_and_statesSatisfy
    (fun s hs => iff_of_true (hinv s hs) trivial) hstep hbreak hinit es]
  exact and_iff_left htrue

/-- When every guarded step completes, and every other one breaks the property
at once or does not complete, the guard is what a run needs to complete with the
property all along. -/
theorem runs_iff_stepsSatisfy {inv P : σ → Prop} {guard : σ → ι → Prop}
    (hinv : ∀ s, inv s → P s)
    (hstep : ∀ s e, inv s → guard s e → ∃ t, step s e = .ok t ∧ inv t)
    (hbreak : ∀ s e t, inv s → ¬ guard s e → step s e = .ok t → ¬ P t)
    {s : σ} (hinit : inv s) (es : List ι) :
    ((∃ t, exec step s es = .ok t) ∧ StatesSatisfy step P s es) ↔ StepsSatisfy step guard s es := by
  constructor
  · induction es generalizing s with
    | nil => exact fun _ => trivial
    | cons e es ih =>
      rintro ⟨⟨t, hrun⟩, _, hrest⟩
      obtain ⟨u, hone, hrun⟩ := exec_cons_eq_ok_iff.mp hrun
      have hu := hrest u hone
      have hguard : guard s e := by
        by_contra hnot
        exact hbreak s e u hinit hnot hone hu.first
      obtain ⟨v, hv, hinv⟩ := hstep s e hinit hguard
      obtain rfl : u = v := by simpa [hone] using hv
      refine ⟨hguard, fun v hv => ?_⟩
      obtain rfl : u = v := by simpa [hone] using hv
      exact ih hinv ⟨⟨t, hrun⟩, hu⟩
  · intro hguard
    obtain ⟨t, hrun, hstates⟩ := hguard.completes hstep hinit
    exact ⟨⟨t, hrun⟩, hstates.mono hinv⟩

/-- A run completes exactly when each of its steps does, given an invariant
that tells which steps those are. -/
theorem completes_iff_stepsSatisfy {inv : σ → Prop} {guard : σ → ι → Prop}
    (hstep : ∀ s e t, inv s → step s e = .ok t → inv t)
    (hguard : ∀ s e, inv s → ((∃ t, step s e = .ok t) ↔ guard s e))
    {s : σ} (hinit : inv s) (es : List ι) :
    (∃ t, exec step s es = .ok t) ↔ StepsSatisfy step guard s es := by
  induction es generalizing s with
  | nil => exact ⟨fun _ => trivial, fun _ => ⟨s, rfl⟩⟩
  | cons e es ih =>
    constructor
    · rintro ⟨t, hrun⟩
      obtain ⟨u, hone, hrest⟩ := exec_cons_eq_ok_iff.mp hrun
      refine ⟨(hguard s e hinit).mp ⟨u, hone⟩, fun v hv => ?_⟩
      obtain rfl : u = v := by simpa [hone] using hv
      exact (ih (hstep s e u hinit hone)).mp ⟨t, hrest⟩
    · rintro ⟨hone, hrest⟩
      obtain ⟨u, hu⟩ := (hguard s e hinit).mpr hone
      obtain ⟨t, ht⟩ := (ih (hstep s e u hinit hu)).mpr (hrest u hu)
      exact ⟨t, exec_cons_eq_ok_iff.mpr ⟨u, hu, ht⟩⟩

end execution
