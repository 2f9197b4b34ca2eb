import Mathlib

namespace slices

variable {α : Type}

/-- A piece of a sequence, with the position that it was taken from. -/
structure Piece (α : Type) where
  offset : Nat
  data : List α

/-- The piece at a position, of a given size where the sequence is long enough. -/
def piece (size : Nat) (image : List α) (offset : Nat) : Piece α :=
  ⟨offset, (image.drop offset).take size⟩

/-- The first pieces of a sequence. -/
def pieces (size : Nat) (image : List α) (count : Nat) : List (Piece α) :=
  (List.range count).map fun i => piece size image (i * size)

/-- The pieces are slices of the sequence that follow each other from its start without a
gap and without an overlap, each of the full size but perhaps the last. -/
structure InOrder (size : Nat) (image : List α) (row : List (Piece α)) : Prop where
  first : ∀ p ∈ row.head?, p.offset = 0
  consecutive : row.IsChain fun p q => q.offset = p.offset + p.data.length
  full : ∀ p ∈ row.dropLast, p.data.length = size
  slice : ∀ p ∈ row, p.data = (image.drop p.offset).take p.data.length ∧ p.data ≠ [] ∧
    p.data.length ≤ size

variable {size : Nat} {image : List α} {count : Nat}

theorem pieces_succ (size : Nat) (image : List α) (count : Nat) :
    pieces size image (count + 1) = pieces size image count ++ [piece size image (count * size)] := by
  simp [pieces, List.range_succ]

theorem length_pieces (size : Nat) (image : List α) (count : Nat) :
    (pieces size image count).length = count := by
  simp [pieces]

theorem length_piece (size : Nat) (image : List α) (offset : Nat) :
    (piece size image offset).data.length = min size (image.length - offset) := by
  simp [piece]

/-- Put together, the pieces are the front of the sequence. -/
theorem flatten_pieces (size : Nat) (image : List α) (count : Nat) :
    ((pieces size image count).map Piece.data).flatten = image.take (count * size) := by
  induction count with
  | zero => simp [pieces]
  | succ count ih =>
    rw [pieces_succ, List.map_append, List.flatten_append, ih, Nat.succ_mul, List.take_add]
    simp [piece]

/-- As many pieces as reach the end are the whole sequence. -/
theorem flatten_pieces_of_le (hcount : image.length ≤ count * size) :
    ((pieces size image count).map Piece.data).flatten = image := by
  rw [flatten_pieces, List.take_of_length_le hcount]

/-- The pieces are in order as long as each begins before the end. -/
theorem inOrder_pieces (hpos : 0 < size) (hcount : ∀ i < count, i * size < image.length) :
    InOrder size image (pieces size image count) := by
  have hsize : ∀ i < count, (i + 1) * size < image.length →
      (piece size image (i * size)).data.length = size := by
    intro i hi hnext
    rw [length_piece]
    rw [Nat.succ_mul] at hnext
    omega
  refine ⟨?_, ?_, ?_, ?_⟩
  · intro p hp
    cases count with
    | zero => cases hp
    | succ count =>
      simp only [pieces, List.range_succ_eq_map, List.map_cons, List.head?_cons,
        Option.mem_some_iff] at hp
      subst hp
      simp [piece]
  · rw [List.isChain_iff_getElem]
    intro i hi
    rw [length_pieces] at hi
    simp only [pieces, List.getElem_map, List.getElem_range]
    rw [hsize i (by omega) (hcount (i + 1) hi)]
    exact Nat.succ_mul i size
  · intro p hp
    obtain ⟨i, hi, rfl⟩ := List.mem_iff_getElem.mp hp
    rw [List.length_dropLast, length_pieces] at hi
    simp only [List.getElem_dropLast, pieces, List.getElem_map, List.getElem_range]
    exact hsize i (by omega) (hcount (i + 1) (by omega))
  · intro p hp
    obtain ⟨i, hi, rfl⟩ := List.mem_map.mp hp
    rw [List.mem_range] at hi
    have hbefore := hcount i hi
    refine ⟨?_, ?_, ?_⟩
    · simp [piece]
    · rw [← List.length_pos_iff, length_piece]
      omega
    · rw [length_piece]
      exact min_le_left _ _

end slices
