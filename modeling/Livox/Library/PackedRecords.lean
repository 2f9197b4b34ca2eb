import Mathlib

namespace packed_records

section Read

variable {α β : Type}

/-- The field at an offset of a record, where a buffer holds records of `step` cells. -/
def read (step : Nat) (data : List α) (i offset size : Nat) : List α :=
  (data.drop (i * step + offset)).take size

theorem drop_flatMap {step : Nat} {pack : β → List α} (hstep : ∀ b, (pack b).length = step)
    (records : List β) (i : Nat) :
    (records.flatMap pack).drop (i * step) = (records.drop i).flatMap pack := by
  induction records generalizing i with
  | nil => simp
  | cons record records ih =>
    cases i with
    | zero => simp
    | succ i =>
      rw [List.flatMap_cons, Nat.succ_mul, Nat.add_comm, ← List.drop_drop,
        List.drop_left' (hstep record), ih, List.drop_succ_cons]

theorem length_flatMap {step : Nat} {pack : β → List α} (hstep : ∀ b, (pack b).length = step)
    (records : List β) : (records.flatMap pack).length = records.length * step := by
  induction records with
  | nil => simp
  | cons record records ih =>
    rw [List.flatMap_cons, List.length_append, hstep, ih, List.length_cons, Nat.succ_mul,
      Nat.add_comm]

/-- Reading a field in the records reads it in the record that is meant. -/
theorem read_flatMap {step : Nat} {pack : β → List α} (hstep : ∀ b, (pack b).length = step)
    {records : List β} {i : Nat} {record : β} (hrecord : records[i]? = some record)
    {offset size : Nat} (hfield : offset + size ≤ step) :
    read step (records.flatMap pack) i offset size = ((pack record).drop offset).take size := by
  obtain ⟨hi, rfl⟩ := List.getElem?_eq_some_iff.mp hrecord
  have hroom : size ≤ ((pack records[i]).drop offset).length := by
    rw [List.length_drop, hstep]
    omega
  rw [read, ← List.drop_drop, drop_flatMap hstep, List.drop_eq_getElem_cons hi, List.flatMap_cons,
    List.drop_append_of_le_length (by rw [hstep]; omega), List.take_append_of_le_length hroom]

/-- A part of a record begins where the parts before it end. -/
theorem take_drop_flatten {front back : List (List α)} {part : List α} {offset size : Nat}
    (hoffset : front.flatten.length = offset) (hsize : part.length = size) :
    (((front ++ part :: back).flatten).drop offset).take size = part := by
  rw [List.flatten_append, List.drop_left' hoffset, List.flatten_cons, List.take_left' hsize]

end Read

end packed_records
