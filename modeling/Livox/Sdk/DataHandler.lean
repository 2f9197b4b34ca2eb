import Livox.Library.Counter
import Livox.Library.OrderedMap

open checked execution counter ordered_map

namespace livox_lidar

namespace data_handler

/-- What `GenerateObserverId` puts in the place of the value that it has read. -/
def desired (value : UInt16) : UInt16 := if value = 0xFFFF then 1 else value + 1

/-- A callback with the data of its client, and the how manieth id it has been given. -/
structure Observer (C D : Type) where
  cb : C
  client_data : D
  number : Nat

/-- An id that has been generated, and the how manieth it is. -/
structure ObserverId where
  id : UInt16
  number : Nat

/-- `DataHandler` with any number of threads in its functions. `generated` counts the ids, and
`adding` has those that `AddPointCloudObserver` has not stored an observer under yet. -/
structure DataHandler (C D : Type) where
  observer_id : Counter UInt16
  generated : Nat
  adding : Nat → Option ObserverId
  observers : Std.TreeMap UInt16 (Observer C D)

/-- `AddPointCloudObserver` accesses the counter until it has an id, and stores the observer under
the lock; `RemovePointCloudObserver` is one locked section. -/
inductive ObserverEvent (C D : Type) where
  | generate_observer_id (a : Access)
  | store (thread : Nat) (cb : C) (client_data : D)
  | remove_point_cloud_observer (id : UInt16)

section Step

variable {C D : Type}

def DataHandler.new : DataHandler C D where
  observer_id := .start 1
  generated := 0
  adding := fun _ => none
  observers := ∅

/-- A thread that has an id to store under generates no other. -/
def DataHandler.step (s : DataHandler C D) : ObserverEvent C D → Checked (DataHandler C D)
  | .generate_observer_id a =>
    match s.adding a.thread with
    | some _ => .ok s
    | none =>
      match s.observer_id.access desired a with
      | (observer_id, none) => .ok { s with observer_id }
      | (observer_id, some id) =>
        .ok
          { s with
            observer_id
            generated := s.generated + 1
            adding := Function.update s.adding a.thread (some { id, number := s.generated }) }
  | .store thread cb client_data =>
    match s.adding thread with
    | none => .ok s
    | some added =>
      .ok
        { s with
          adding := Function.update s.adding thread none
          observers := s.observers.insert added.id { cb, client_data, number := added.number } }
  | .remove_point_cloud_observer id =>
    if id ∈ s.observers then .ok { s with observers := s.observers.erase id } else .ok s

/-- A call of `AddPointCloudObserver` that returns has an id that is not zero and that no registered
observer has, and leaves every registered observer where it is. -/
def DataHandler.NeverReplaces (s : DataHandler C D) : ObserverEvent C D → Prop
  | .store thread cb client_data => ∀ added, s.adding thread = some added →
      added.id ≠ 0 ∧ s.observers[added.id]? = none ∧
        ∀ t, s.step (.store thread cb client_data) = .ok t →
          ∀ (id : UInt16) (observer : Observer C D), s.observers[id]? = some observer →
            t.observers[id]? = some observer
  | _ => True

/-- No observer that is still registered has been given its id a multiple of 65535 ids before. -/
def DataHandler.Unexpired (s : DataHandler C D) : ObserverEvent C D → Prop
  | .store thread _ _ => ∀ added, s.adding thread = some added →
      ∀ (id : UInt16) (observer : Observer C D), s.observers[id]? = some observer →
        observer.number % 65535 ≠ added.number % 65535
  | _ => True

end Step

section Ids

variable {C D : Type} {s t : DataHandler C D}

/-- The ids are of 16 bits, zero left out, in turn. -/
theorem toNat_desired (value : UInt16) (hvalue : value.toNat ≤ 65535) :
    (desired value).toNat = if value.toNat = 65535 then 1 else value.toNat + 1 := by
  have hlast : value = 0xFFFF ↔ value.toNat = 65535 := UInt16.toNat_inj.symm
  rw [desired]
  by_cases h : value = 0xFFFF
  · rw [if_pos h, if_pos (hlast.mp h)]
    rfl
  · rw [if_neg h, if_neg (mt hlast.mpr h), UInt16.toNat_add]
    have hless : value.toNat ≠ 65535 := mt hlast.mpr h
    show (value.toNat + 1) % 2 ^ 16 = value.toNat + 1
    omega

theorem toNat_iterate_desired (i : Nat) : (desired^[i] 1).toNat = i % 65535 + 1 :=
  @number_iterate _ desired 1 UInt16.toNat 65535 (by omega) rfl toNat_desired i

theorem desired_cycles : Cycles desired 1 65535 :=
  cycles_of_wraps (fun _ _ => UInt16.toNat_inj.mp) (by omega) rfl toNat_desired

/-- The id of a number. -/
def id_of (number : Nat) : UInt16 := desired^[number + 1] 1

theorem id_of_ne_zero (number : Nat) : id_of number ≠ 0 := by
  intro hzero
  have hvalue := toNat_iterate_desired (number + 1)
  rw [show desired^[number + 1] 1 = 0 from hzero] at hvalue
  cases hvalue

theorem id_of_eq_iff {number other : Nat} :
    id_of number = id_of other ↔ number % 65535 = other % 65535 := by
  rw [id_of, id_of, desired_cycles]
  omega

/-- Every id is the one of its number. -/
structure DataHandler.Numbered (s : DataHandler C D) : Prop where
  observer_id : s.observer_id.value = desired^[s.generated] 1
  adding : ∀ thread added, s.adding thread = some added → added.id = id_of added.number
  observers : ∀ id observer, s.observers[id]? = some observer → id = id_of observer.number

theorem DataHandler.Numbered.generate (h : s.Numbered) {a : Access}
    (hstep : s.step (.generate_observer_id a) = .ok t) : t.Numbered := by
  have hcases := s.observer_id.access_cases desired a
  rw [DataHandler.step] at hstep
  split at hstep
  · obtain rfl := Except.ok.inj hstep
    exact h
  · cases haccess : s.observer_id.access desired a with
    | mk observer_id result =>
    rw [haccess] at hcases hstep
    rcases hcases with ⟨rfl, hvalue⟩ | ⟨rfl, hvalue⟩
    · obtain rfl := Except.ok.inj hstep
      exact ⟨hvalue.trans h.observer_id, h.adding, h.observers⟩
    · obtain rfl := Except.ok.inj hstep
      have hnext : desired s.observer_id.value = id_of s.generated := by
        rw [h.observer_id, id_of, Function.iterate_succ_apply']
      refine ⟨hvalue.trans hnext, ?_, h.observers⟩
      intro thread added hadding
      simp only [Function.update_apply] at hadding
      split at hadding
      · obtain rfl := Option.some.inj hadding
        exact hnext
      · exact h.adding thread added hadding

theorem DataHandler.Numbered.store (h : s.Numbered) {thread : Nat} {cb : C} {client_data : D}
    (hstep : s.step (.store thread cb client_data) = .ok t) : t.Numbered := by
  rw [DataHandler.step] at hstep
  split at hstep
  · obtain rfl := Except.ok.inj hstep
    exact h
  · rename_i added hadded
    obtain rfl := Except.ok.inj hstep
    refine ⟨h.observer_id, ?_, ?_⟩
    · intro other added hadding
      simp only [Function.update_apply] at hadding
      split at hadding
      · cases hadding
      · exact h.adding other added hadding
    · intro id observer hobserver
      simp only [lookup_insert] at hobserver
      split at hobserver
      · rename_i hid
        obtain rfl := Option.some.inj hobserver
        rw [← hid]
        exact h.adding thread added hadded
      · exact h.observers id observer hobserver

theorem DataHandler.Numbered.remove (h : s.Numbered) {id : UInt16}
    (hstep : s.step (.remove_point_cloud_observer id) = .ok t) : t.Numbered := by
  rw [DataHandler.step] at hstep
  split at hstep
  · obtain rfl := Except.ok.inj hstep
    refine ⟨h.observer_id, h.adding, ?_⟩
    intro other observer hobserver
    simp only [lookup_erase] at hobserver
    split at hobserver
    · cases hobserver
    · exact h.observers other observer hobserver
  · obtain rfl := Except.ok.inj hstep
    exact h

theorem DataHandler.Numbered.step (h : s.Numbered) {e : ObserverEvent C D}
    (hstep : s.step e = .ok t) : t.Numbered := by
  cases e with
  | generate_observer_id a => exact h.generate hstep
  | store thread cb client_data => exact h.store hstep
  | remove_point_cloud_observer id => exact h.remove hstep

/-- Among numbered ids a call replaces no observer exactly when none that has its id is left. -/
theorem DataHandler.Numbered.neverReplaces_iff (h : s.Numbered) (e : ObserverEvent C D) :
    s.NeverReplaces e ↔ s.Unexpired e := by
  cases e with
  | generate_observer_id a | remove_point_cloud_observer id => exact Iff.rfl
  | store thread cb client_data =>
    rw [NeverReplaces, Unexpired]
    refine forall₂_congr fun added hadded => ?_
    have hid := h.adding thread added hadded
    constructor
    · rintro ⟨-, hfree, -⟩ id observer hobserver hsame
      have hshared : id = added.id := by
        rw [h.observers id observer hobserver, hid, id_of_eq_iff]
        exact hsame
      rw [hshared, hfree] at hobserver
      cases hobserver
    · intro hunexpired
      have hfree : s.observers[added.id]? = none := by
        cases hobserver : s.observers[added.id]? with
        | none => rfl
        | some observer =>
          have hshared := h.observers added.id observer hobserver
          rw [hid, id_of_eq_iff] at hshared
          exact absurd hshared.symm (hunexpired added.id observer hobserver)
      refine ⟨hid ▸ id_of_ne_zero added.number, hfree, ?_⟩
      intro t hstep id observer hobserver
      simp only [DataHandler.step, hadded] at hstep
      obtain rfl := Except.ok.inj hstep
      rw [lookup_insert, if_neg]
      · exact hobserver
      · rintro rfl
        rw [hfree] at hobserver
        cases hobserver

/-- In every run, of any number of threads, no call replaces an observer exactly when no observer
stays registered until 65535 more ids have been generated, or a multiple of that, for one that is
stored then. -/
theorem observers_never_replaced_iff (C D : Type) (events : List (ObserverEvent C D)) :
    StepsSatisfy DataHandler.step DataHandler.NeverReplaces DataHandler.new events ↔
      StepsSatisfy DataHandler.step DataHandler.Unexpired DataHandler.new events := by
  have hnew : (DataHandler.new : DataHandler C D).Numbered := by
    refine ⟨rfl, ?_, ?_⟩ <;> simp [DataHandler.new]
  constructor
  · exact StepsSatisfy.of_invariant (fun _ _ _ h _ hstep => h.step hstep)
      (fun _ e h => (h.neverReplaces_iff e).mp) hnew
  · exact StepsSatisfy.of_invariant (fun _ _ _ h _ hstep => h.step hstep)
      (fun _ e h => (h.neverReplaces_iff e).mpr) hnew

/-- A thread has an id. -/
def generate (C D : Type) : List (ObserverEvent C D) :=
  [.generate_observer_id (.load 0), .generate_observer_id (.exchange 0 false)]

/-- A thread adds observers one after the other, and has the id of the next. -/
def observers_added : Nat → List (ObserverEvent Unit Unit)
  | 0 => generate Unit Unit
  | n + 1 => observers_added n ++ .store 0 () () :: generate Unit Unit

/-- What is known after that many. -/
structure DataHandler.Added (s : DataHandler Unit Unit) (n : Nat) : Prop where
  observer_id : s.observer_id = .start (desired^[n + 1] 1)
  generated : s.generated = n + 1
  adding : s.adding 0 = some { id := id_of n, number := n }
  first : 0 < n → s.observers[id_of 0]? ≠ none

theorem generate_exec {s : DataHandler Unit Unit} {n : Nat}
    (hobserver_id : s.observer_id = .start (desired^[n] 1)) (hgenerated : s.generated = n)
    (hadding : s.adding 0 = none) (hfirst : 0 < n → s.observers[id_of 0]? ≠ none) :
    ∃ t, exec DataHandler.step s (generate Unit Unit) = .ok t ∧ t.Added n := by
  refine ⟨{ s with
    observer_id := .start (desired^[n + 1] 1)
    generated := n + 1
    adding := Function.update s.adding 0 (some { id := id_of n, number := n }) },
    ?_, rfl, rfl, by simp, hfirst⟩
  simp [generate, exec, DataHandler.step, Access.thread, hadding, Counter.access, hobserver_id,
    hgenerated, Counter.start, id_of, Function.iterate_succ_apply']

theorem observers_added_exec (n : Nat) :
    ∃ s, exec DataHandler.step DataHandler.new (observers_added n) = .ok s ∧ s.Added n := by
  induction n with
  | zero => exact generate_exec rfl rfl rfl (by simp)
  | succ n ih =>
    obtain ⟨s, hrun, hadded⟩ := ih
    have hstore : ∃ t, s.step (.store 0 () ()) = .ok t ∧ t.observer_id = s.observer_id ∧
        t.generated = s.generated ∧ t.adding 0 = none ∧ t.observers[id_of 0]? ≠ none := by
      refine ⟨{ s with
        adding := Function.update s.adding 0 none
        observers := s.observers.insert (id_of n) { cb := (), client_data := (), number := n } },
        by simp only [DataHandler.step, hadded.adding], rfl, rfl, by simp, ?_⟩
      simp only [lookup_insert]
      split
      · simp
      · rename_i hid
        apply hadded.first
        by_contra hzero
        obtain rfl : n = 0 := by omega
        exact hid rfl
    obtain ⟨t, hstep, hobserver_id, hgenerated, hadding, hfirst⟩ := hstore
    obtain ⟨u, hmore, hnext⟩ := generate_exec (hobserver_id.trans hadded.observer_id)
      (hgenerated.trans hadded.generated) hadding fun _ => hfirst
    exact ⟨u, exec_append_eq_ok_iff.mpr ⟨s, hrun, exec_cons_eq_ok_iff.mpr ⟨t, hstep, hmore⟩⟩, hnext⟩

/-- The 65536th observer has the id of the first. -/
theorem first_observer_replaced :
    ¬ ∀ events : List (ObserverEvent Unit Unit),
      StepsSatisfy DataHandler.step DataHandler.NeverReplaces DataHandler.new events := by
  intro h
  obtain ⟨s, hrun, hadded⟩ := observers_added_exec 65535
  have hnever := (h (observers_added 65535 ++ [.store 0 () ()])).guard_of_exec hrun
  have hfree := (hnever _ hadded.adding).2.1
  rw [show id_of 65535 = id_of 0 from id_of_eq_iff.mpr rfl] at hfree
  exact hadded.first (by omega) hfree

end Ids

end data_handler

end livox_lidar
