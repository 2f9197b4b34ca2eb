import Mathlib

namespace swap_queue

/-- A list that producers append to, and the batch that its one consumer has swapped out of it and
works through. `posted` and `taken` remember what has been appended and what the consumer is done
with, `swapped` how much had been appended when it swapped last. -/
structure SwapQueue (α : Type) where
  posted : List α
  pending : List α
  swapped : Nat
  batch : List α
  taken : List α

namespace SwapQueue

section Operations

variable {α : Type}

def empty (α : Type) : SwapQueue α :=
  { posted := [], pending := [], swapped := 0, batch := [], taken := [] }

/-- A producer appends under the lock. -/
def post (b : SwapQueue α) (values : List α) : SwapQueue α :=
  { b with posted := b.posted ++ values, pending := b.pending ++ values }

/-- The consumer swaps the list for an empty one under the lock. What is left of its last batch would
be lost. -/
def swap (b : SwapQueue α) : SwapQueue α :=
  { b with pending := [], swapped := b.posted.length, batch := b.pending }

/-- The consumer is done with the next value of its batch. -/
def take (b : SwapQueue α) : SwapQueue α :=
  { b with batch := b.batch.tail, taken := b.taken ++ b.batch.head?.toList }

/-- The consumer is done with the whole batch at once. -/
def take_all (b : SwapQueue α) : SwapQueue α :=
  { b with batch := [], taken := b.taken ++ b.batch }

end Operations

/-- Nothing is lost, repeated or reordered: the consumer has, or is done with, what was appended
before it swapped last, and the list holds the rest. -/
structure Conserves {α : Type} (b : SwapQueue α) : Prop where
  swapped_le : b.swapped ≤ b.posted.length
  done : b.taken ++ b.batch = b.posted.take b.swapped
  waiting : b.pending = b.posted.drop b.swapped

section Laws

variable {α : Type} {b : SwapQueue α}

theorem empty_conserves (α : Type) : (empty α).Conserves := ⟨le_refl _, rfl, rfl⟩

theorem Conserves.posted_eq (h : b.Conserves) : b.posted = b.taken ++ b.batch ++ b.pending := by
  rw [h.done, h.waiting, List.take_append_drop]

theorem Conserves.post (h : b.Conserves) (values : List α) : (b.post values).Conserves where
  swapped_le := by
    have hle := h.swapped_le
    simp only [SwapQueue.post, List.length_append]
    omega
  done := by
    simp only [SwapQueue.post]
    rw [List.take_append_of_le_length h.swapped_le]
    exact h.done
  waiting := by
    simp only [SwapQueue.post]
    rw [List.drop_append_of_le_length h.swapped_le, h.waiting]

/-- A consumer that is done with its batch swaps without losing anything. -/
theorem Conserves.swap (h : b.Conserves) (hdone : b.batch = []) : b.swap.Conserves where
  swapped_le := le_refl _
  done := by
    have hposted := h.posted_eq
    rw [hdone, List.append_nil] at hposted
    simp only [SwapQueue.swap, List.take_length]
    exact hposted.symm
  waiting := by simp [SwapQueue.swap]

theorem Conserves.take (h : b.Conserves) : b.take.Conserves where
  swapped_le := h.swapped_le
  done := by
    have hsplit : b.batch.head?.toList ++ b.batch.tail = b.batch := by
      cases b.batch <;> rfl
    simp only [SwapQueue.take]
    rw [List.append_assoc, hsplit]
    exact h.done
  waiting := h.waiting

theorem Conserves.take_all (h : b.Conserves) : b.take_all.Conserves where
  swapped_le := h.swapped_le
  done := by
    simp only [SwapQueue.take_all, List.append_nil]
    exact h.done
  waiting := h.waiting

/-- What the consumer is done with comes first in what has been appended. -/
theorem Conserves.taken_prefix (h : b.Conserves) : b.taken <+: b.posted := by
  rw [h.posted_eq, List.append_assoc]
  exact List.prefix_append _ _

/-- Between two batches the consumer is done with just what was appended before the last swap. -/
theorem Conserves.taken_eq (h : b.Conserves) (hdone : b.batch = []) :
    b.taken = b.posted.take b.swapped := by
  rw [← h.done, hdone, List.append_nil]

end Laws

end SwapQueue

end swap_queue
