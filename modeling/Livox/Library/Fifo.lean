import Mathlib

namespace fifo

/-- A queue that holds at most `capacity` values, as the sequence of the values
it holds from the oldest to the newest. -/
structure Bounded (α : Type) where
  capacity : Nat
  contents : List α
  fits : contents.length ≤ capacity

inductive Operation (α : Type) where
  | push (value : α)
  | pop

/-- A bounded queue together with everything it has accepted and given back. -/
structure Log (α : Type) where
  queue : Bounded α
  accepted : List α
  popped : List α

/-- The full queue refuses the value; otherwise the value joins at the back. -/
def Log.push {α : Type} (log : Log α) (value : α) : Log α :=
  if h : log.queue.contents.length < log.queue.capacity then
    { queue :=
        { capacity := log.queue.capacity
          contents := log.queue.contents ++ [value]
          fits := by simpa using h }
      accepted := log.accepted ++ [value]
      popped := log.popped }
  else log

/-- The empty queue gives nothing back; otherwise the oldest value leaves. -/
def Log.pop {α : Type} (log : Log α) : Log α :=
  { queue :=
      { capacity := log.queue.capacity
        contents := log.queue.contents.tail
        fits := by
          have h := log.queue.fits
          simp only [List.length_tail]
          omega }
    accepted := log.accepted
    popped := log.popped ++ log.queue.contents.head?.toList }

def Log.step {α : Type} (log : Log α) : Operation α → Log α
  | .push value => log.push value
  | .pop => log.pop

def Log.empty (α : Type) (capacity : Nat) : Log α :=
  { queue := { capacity, contents := [], fits := Nat.zero_le _ }, accepted := [], popped := [] }

theorem Log.push_of_lt {α : Type} {log : Log α} {value : α}
    (h : log.queue.contents.length < log.queue.capacity) :
    (log.push value).queue.contents = log.queue.contents ++ [value] ∧
      (log.push value).accepted = log.accepted ++ [value] ∧
      (log.push value).popped = log.popped := by
  simp [Log.push, h]

theorem Log.push_of_full {α : Type} {log : Log α} {value : α}
    (h : log.queue.contents.length = log.queue.capacity) : log.push value = log := by
  simp [Log.push, h]

@[simp] theorem Log.push_popped {α : Type} (log : Log α) (value : α) :
    (log.push value).popped = log.popped := by
  unfold Log.push
  split <;> rfl

@[simp] theorem Log.step_capacity {α : Type} (log : Log α) (op : Operation α) :
    (log.step op).queue.capacity = log.queue.capacity := by
  cases op with
  | push value =>
    by_cases h : log.queue.contents.length < log.queue.capacity <;> simp [Log.step, Log.push, h]
  | pop => rfl

/-- Values leave in the order in which they were accepted, none is lost and
none is repeated: the accepted ones are the popped ones and then the held. -/
def Log.Conserves {α : Type} (log : Log α) : Prop :=
  log.accepted = log.popped ++ log.queue.contents

theorem Log.empty_conserves (α : Type) (capacity : Nat) : (Log.empty α capacity).Conserves := rfl

theorem Log.step_conserves {α : Type} {log : Log α} (h : log.Conserves) (op : Operation α) :
    (log.step op).Conserves := by
  cases op with
  | push value =>
    by_cases hroom : log.queue.contents.length < log.queue.capacity
    · obtain ⟨hcontents, haccepted, hpopped⟩ := @Log.push_of_lt _ log value hroom
      simp only [Log.step, Log.Conserves, hcontents, haccepted, hpopped]
      rw [h, List.append_assoc]
    · simpa [Log.step, Log.push, hroom] using h
  | pop =>
    have hsplit : log.queue.contents =
        log.queue.contents.head?.toList ++ log.queue.contents.tail := by
      cases log.queue.contents <;> rfl
    simp only [Log.step, Log.pop, Log.Conserves, List.append_assoc]
    rw [← hsplit]
    exact h

theorem Log.run_conserves {α : Type} {log : Log α} (h : log.Conserves) (ops : List (Operation α)) :
    (ops.foldl Log.step log).Conserves := by
  induction ops generalizing log with
  | nil => exact h
  | cons op ops ih => exact ih (Log.step_conserves h op)

/-- The values that these operations push, whether they are accepted or not. -/
def offered {α : Type} (ops : List (Operation α)) : List α :=
  ops.filterMap fun
    | .push value => some value
    | .pop => none

@[simp] theorem offered_push {α : Type} (value : α) : offered [Operation.push value] = [value] := rfl

@[simp] theorem offered_pop (α : Type) : offered [(Operation.pop : Operation α)] = [] := rfl

theorem offered_append {α : Type} (front back : List (Operation α)) :
    offered (front ++ back) = offered front ++ offered back :=
  List.filterMap_append

/-- The accepted values are some of the offered ones, in their order. -/
theorem Log.run_accepted_sublist {α : Type} (log : Log α) (ops : List (Operation α)) :
    (ops.foldl Log.step log).accepted.Sublist (log.accepted ++ offered ops) := by
  induction ops generalizing log with
  | nil => simp [offered]
  | cons op ops ih =>
    refine (ih (log.step op)).trans ?_
    cases op with
    | push value =>
      have hoffered : offered (.push value :: ops) = value :: offered ops := rfl
      rw [hoffered]
      by_cases hroom : log.queue.contents.length < log.queue.capacity
      · obtain ⟨-, haccepted, -⟩ := @Log.push_of_lt _ log value hroom
        rw [Log.step, haccepted, List.append_assoc, List.singleton_append]
      · have hrefused : log.step (.push value) = log := by simp [Log.step, Log.push, hroom]
        rw [hrefused]
        exact (List.sublist_cons_self _ _).append_left _
    | pop => exact List.Sublist.refl _

end fifo

namespace ring_buffer

variable {w m : Nat} {α : Type}

/-- Two counters that run freely modulo `2 ^ w` over `2 ^ m` slots hold `xs`:
their difference is the number of values, and value `k` lies in the slot that
the masked counter `rd + k` selects. -/
structure Holds (m : Nat) (slots : List α) (mask rd wr : BitVec w) (xs : List α) : Prop where
  width : m < w
  size : slots.length = 2 ^ m
  mask_val : mask.toNat = 2 ^ m - 1
  used : (wr - rd).toNat = xs.length
  fits : xs.length ≤ 2 ^ m
  slot : ∀ k, k < xs.length → slots[(rd.toNat + k) % 2 ^ m]? = xs[k]?

/-- Masking a counter selects its residue modulo the number of slots. -/
theorem masked_index {mask : BitVec w} (hmask : mask.toNat = 2 ^ m - 1) (counter : BitVec w) :
    (counter &&& mask).toNat = counter.toNat % 2 ^ m := by
  rw [BitVec.toNat_and, hmask, Nat.and_two_pow_sub_one_eq_mod]

/-- Wrapping modulo `2 ^ w` does not disturb the residue modulo `2 ^ m`. -/
theorem wrapped_index (hwidth : m < w) (n : Nat) : n % 2 ^ w % 2 ^ m = n % 2 ^ m :=
  Nat.mod_mod_of_dvd n (Nat.pow_dvd_pow 2 hwidth.le)

theorem one_toNat (hwidth : m < w) : (1 : BitVec w).toNat = 1 := by
  have hbig : 1 < 2 ^ w := Nat.one_lt_two_pow (by omega)
  simp only [BitVec.ofNat_eq_ofNat, BitVec.toNat_ofNat]
  exact Nat.mod_eq_of_lt hbig

theorem succ_index (hwidth : m < w) (counter : BitVec w) (k : Nat) :
    ((counter + 1).toNat + k) % 2 ^ m = (counter.toNat + (k + 1)) % 2 ^ m := by
  have hsucc : (counter + 1).toNat = (counter.toNat + 1) % 2 ^ w := by
    rw [BitVec.toNat_add, one_toNat hwidth]
  rw [hsucc, Nat.add_mod, wrapped_index hwidth, ← Nat.add_mod]
  congr 1
  omega

/-- Two offsets less than a full turn apart select different slots. -/
theorem index_ne {start j k : Nat} (hjk : j < k) (hturn : k - j < 2 ^ m) :
    (start + j) % 2 ^ m ≠ (start + k) % 2 ^ m := by
  intro h
  have hdvd : 2 ^ m ∣ (start + k) - (start + j) := (Nat.modEq_iff_dvd' (by omega)).mp h
  have hle := Nat.le_of_dvd (by omega) hdvd
  omega

/-- Counters that are equal hold nothing. -/
theorem Holds.empty (hwidth : m < w) {slots : List α} (hsize : slots.length = 2 ^ m)
    {mask : BitVec w} (hmask : mask.toNat = 2 ^ m - 1) (counter : BitVec w) :
    Holds m slots mask counter counter [] where
  width := hwidth
  size := hsize
  mask_val := hmask
  used := by simp
  fits := Nat.zero_le _
  slot := by simp

theorem Holds.eq_iff_nil {slots : List α} {mask rd wr : BitVec w} {xs : List α}
    (h : Holds m slots mask rd wr xs) : rd = wr ↔ xs = [] := by
  rw [← List.length_eq_zero_iff, ← h.used]
  constructor
  · rintro rfl
    simp
  · intro hzero
    have hdiff : wr - rd = 0 := BitVec.eq_of_toNat_eq (by simpa using hzero)
    exact (sub_eq_zero.mp hdiff).symm

/-- The unsigned distance exceeds the mask exactly when every slot is taken. -/
theorem Holds.mask_lt_iff_full {slots : List α} {mask rd wr : BitVec w} {xs : List α}
    (h : Holds m slots mask rd wr xs) : mask < wr - rd ↔ xs.length = 2 ^ m := by
  rw [BitVec.lt_def, h.mask_val, h.used]
  have hpos : 0 < 2 ^ m := Nat.two_pow_pos m
  have hfits := h.fits
  omega

/-- The slot of the write counter is the one behind the newest value. -/
theorem Holds.write_index {slots : List α} {mask rd wr : BitVec w} {xs : List α}
    (h : Holds m slots mask rd wr xs) :
    wr.toNat % 2 ^ m = (rd.toNat + xs.length) % 2 ^ m := by
  have hwr : wr.toNat = ((wr - rd).toNat + rd.toNat) % 2 ^ w := by
    rw [← BitVec.toNat_add, BitVec.sub_add_cancel]
  rw [hwr, wrapped_index h.width, h.used, Nat.add_comm]

/-- Writing at the write counter and advancing it appends one value. -/
theorem Holds.push {slots : List α} {mask rd wr : BitVec w} {xs : List α}
    (h : Holds m slots mask rd wr xs) (hroom : xs.length < 2 ^ m) (value : α) :
    Holds m (slots.set (wr &&& mask).toNat value) mask rd (wr + 1) (xs ++ [value]) where
  width := h.width
  size := by simpa using h.size
  mask_val := h.mask_val
  used := by
    have hshift : wr + 1 - rd = wr - rd + 1 := by ring
    have hlt : xs.length + 1 < 2 ^ w := by
      have hpow : 2 ^ m < 2 ^ w := Nat.pow_lt_pow_right (by decide) h.width
      omega
    rw [hshift, BitVec.toNat_add, h.used, one_toNat h.width, Nat.mod_eq_of_lt hlt]
    simp
  fits := by simpa using hroom
  slot := by
    intro k hk
    rw [masked_index h.mask_val, h.write_index]
    have hbound : (rd.toNat + xs.length) % 2 ^ m < slots.length := by
      rw [h.size]
      exact Nat.mod_lt _ (Nat.two_pow_pos m)
    rcases Nat.lt_succ_iff_lt_or_eq.mp (by simpa using hk : k < xs.length + 1) with hold | rfl
    · have hne := @index_ne m rd.toNat k xs.length hold (by omega)
      rw [List.getElem?_set_ne hne.symm, h.slot k hold, List.getElem?_append_left hold]
    · rw [List.getElem?_set_self hbound]
      simp

/-- Reading at the read counter gives the oldest value, and advancing the
counter removes it. -/
theorem Holds.pop {slots : List α} {mask rd wr : BitVec w} {x : α} {xs : List α}
    (h : Holds m slots mask rd wr (x :: xs)) :
    slots[(rd &&& mask).toNat]? = some x ∧ Holds m slots mask (rd + 1) wr xs := by
  constructor
  · rw [masked_index h.mask_val]
    simpa using h.slot 0 (by simp)
  · refine ⟨h.width, h.size, h.mask_val, ?_, ?_, ?_⟩
    · have hshift : wr - rd = wr - (rd + 1) + 1 := by ring
      have hused := h.used
      rw [hshift, BitVec.toNat_add, one_toNat h.width, List.length_cons] at hused
      have hlt : (wr - (rd + 1)).toNat < 2 ^ w := BitVec.isLt _
      rcases Nat.lt_or_ge ((wr - (rd + 1)).toNat + 1) (2 ^ w) with hsmall | hbig
      · rw [Nat.mod_eq_of_lt hsmall] at hused
        omega
      · have hwrap : (wr - (rd + 1)).toNat + 1 = 2 ^ w := by omega
        rw [hwrap, Nat.mod_self] at hused
        omega
    · have hfits := h.fits
      simp only [List.length_cons] at hfits
      omega
    · intro k hk
      rw [succ_index h.width]
      simpa using h.slot (k + 1) (by simpa using hk)

end ring_buffer
