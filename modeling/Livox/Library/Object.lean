import Livox.Library.Exec
import Livox.Library.Memory

open checked

namespace memory

/-- The bytes of a piece of storage of fixed size. -/
abbrev Bytes (n : Nat) := { bs : List UInt8 // bs.length = n }

/-- A plain structure in memory: the bytes of each of its members. -/
abbrev Object (ι : Type) (size : ι → Nat) := (member : ι) → Bytes (size member)

namespace Object

variable {ι : Type} [DecidableEq ι] {size : ι → Nat}

/-- Copy bytes to the start of a member. More bytes than the member has would be
written over what lies behind it. -/
def memcpy (object : Object ι size) (member : ι) (src : List UInt8) : Checked (Object ι size) :=
  if h : src.length ≤ size member then
    .ok (Function.update object member
      ⟨src ++ (object member).1.drop src.length, by simp [(object member).2]; omega⟩)
  else .error (.outOfBounds src.length (size member))

/-- Copy a string and the zero that ends it. -/
def strcpy (object : Object ι size) (member : ι) (src : List UInt8) : Checked (Object ι size) :=
  object.memcpy member (src ++ [0])

theorem memcpy_completes_iff {object : Object ι size} {member : ι} {src : List UInt8} :
    (∃ result, object.memcpy member src = .ok result) ↔ src.length ≤ size member := by
  unfold memcpy
  constructor
  · rintro ⟨result, h⟩
    by_contra hlong
    rw [dif_neg hlong] at h
    cases h
  · intro h
    exact ⟨_, dif_pos h⟩

/-- What a copy leaves in the member, and that it leaves the others alone. -/
theorem memcpy_eq_ok {object result : Object ι size} {member : ι} {src : List UInt8}
    (h : object.memcpy member src = .ok result) :
    (result member).1 = src ++ (object member).1.drop src.length ∧
      ∀ other, other ≠ member → result other = object other := by
  unfold memcpy at h
  split at h
  · cases h
    exact ⟨by simp, fun other hother => Function.update_of_ne hother _ _⟩
  · cases h

/-- A copy of the whole member. -/
theorem memcpy_whole (object : Object ι size) {member : ι} {src : List UInt8}
    (hlen : src.length = size member) :
    ∃ result, object.memcpy member src = .ok result ∧ (result member).1 = src ∧
      ∀ other, other ≠ member → result other = object other := by
  obtain ⟨result, hcopy⟩ := memcpy_completes_iff.mpr (Nat.le_of_eq hlen)
  obtain ⟨hmember, hothers⟩ := memcpy_eq_ok hcopy
  refine ⟨result, hcopy, ?_, hothers⟩
  rw [hmember, List.drop_of_length_le (by rw [(object member).2, hlen]), List.append_nil]

end Object

/-- The string in a piece of storage: what stands before its first zero. -/
def string (storage : List UInt8) : List UInt8 := storage.takeWhile (· ≠ 0)

/-- The storage holds a string with its end. -/
def Terminated (storage : List UInt8) : Prop := 0 ∈ storage

instance (storage : List UInt8) : Decidable (Terminated storage) :=
  inferInstanceAs (Decidable (_ ∈ _))

/-- Read a string from its storage. Without a zero in the storage the reader
goes on behind it. -/
def readString (storage : List UInt8) : Checked (List UInt8) :=
  if Terminated storage then .ok (string storage)
  else .error (.outOfBounds storage.length storage.length)

theorem readString_eq_ok_iff {storage text : List UInt8} :
    readString storage = .ok text ↔ Terminated storage ∧ text = string storage := by
  unfold readString
  split
  · rename_i h
    simp [h, eq_comm]
  · rename_i h
    simp [h]

/-- A text without a zero is read as a whole. -/
theorem string_eq_self_iff {text : List UInt8} : string text = text ↔ 0 ∉ text := by
  rw [string, List.takeWhile_eq_self_iff]
  constructor
  · intro h hmem
    exact absurd (h 0 hmem) (by decide)
  · intro h b hb
    rw [decide_eq_true_eq]
    rintro rfl
    exact h hb

theorem string_append_zero {text : List UInt8} (htext : 0 ∉ text) (rest : List UInt8) :
    string (text ++ 0 :: rest) = text := by
  rw [string, List.takeWhile_append_of_pos]
  · simp
  · exact List.takeWhile_eq_self_iff.mp (string_eq_self_iff.mpr htext)

theorem terminated_append_zero (text rest : List UInt8) : Terminated (text ++ 0 :: rest) := by
  simp [Terminated]

/-- What a copied string leaves in its member. -/
theorem Object.strcpy_fits {ι : Type} [DecidableEq ι] {size : ι → Nat} (object : Object ι size)
    {member : ι} {src : List UInt8} (hsrc : 0 ∉ src) (hlen : src.length < size member) :
    ∃ result, object.strcpy member src = .ok result ∧ string (result member).1 = src ∧
      Terminated (result member).1 ∧ ∀ other, other ≠ member → result other = object other := by
  have hfits : (src ++ [0]).length ≤ size member := by
    rw [List.length_append, List.length_singleton]
    omega
  obtain ⟨result, hcopy⟩ := (@Object.memcpy_completes_iff _ _ _ object member _).mpr hfits
  obtain ⟨hmember, hothers⟩ := Object.memcpy_eq_ok hcopy
  rw [List.append_assoc, List.singleton_append] at hmember
  refine ⟨result, hcopy, ?_, ?_, hothers⟩
  · rw [hmember, string_append_zero hsrc]
  · rw [hmember]
    exact terminated_append_zero _ _

end memory
