import Livox.Library.Object

open checked

namespace rapidjson

/-- A value of a document. A number is an integer when it is written as one. -/
inductive Value (ρ : Type) where
  | null
  | bool (value : Bool)
  | integer (value : Int)
  | real (value : ρ)
  | string (text : List UInt8)
  | array (elements : List (Value ρ))
  | object (members : List (String × Value ρ))

namespace Value

variable {ρ : Type}

/-! What is in a value, whatever it is. -/

/-- The member of a name; the first of a name counts. -/
def lookup (name : String) : Value ρ → Option (Value ρ)
  | object members => (members.find? fun member => member.1 == name).map Prod.snd
  | _ => none

def bool? : Value ρ → Option Bool
  | bool value => some value
  | _ => none

def uint? : Value ρ → Option UInt32
  | integer value => if 0 ≤ value ∧ value < 2 ^ 32 then some (UInt32.ofNat value.toNat) else none
  | _ => none

/-- The string as it is written. -/
def text? : Value ρ → Option (List UInt8)
  | string text => some text
  | _ => none

/-- The string as a C string, which ends at the first zero. -/
def string? : Value ρ → Option (List UInt8)
  | string text => some (memory.string text)
  | _ => none

def elements? : Value ρ → Option (List (Value ρ))
  | array elements => some elements
  | _ => none

/-- Whether an integer is one that `GetInt` gives. -/
def is_int : Value ρ → Bool
  | integer value => -(2 ^ 31) ≤ value ∧ value < 2 ^ 31
  | _ => false

def is_number : Value ρ → Bool
  | integer _ | real _ => true
  | _ => false

/-! The accessors, which may be asked for what they test only. -/

def is_object : Value ρ → Bool
  | object _ => true
  | _ => false

def is_array (value : Value ρ) : Bool := value.elements?.isSome

def is_string (value : Value ρ) : Bool := value.string?.isSome

def is_uint (value : Value ρ) : Bool := value.uint?.isSome

def is_bool (value : Value ρ) : Bool := value.bool?.isSome

/-- What an accessor gives for a value that has it. -/
def demand {α : Type} : Option α → Checked α
  | some found => .ok found
  | none => .error .precondition

def get_bool (value : Value ρ) : Checked Bool := demand value.bool?

def get_uint (value : Value ρ) : Checked UInt32 := demand value.uint?

def get_string (value : Value ρ) : Checked (List UInt8) := demand value.string?

/-- The elements of an array, for `Size`, `operator[]` with an index and `GetArray`. -/
def get_array (value : Value ρ) : Checked (List (Value ρ)) := demand value.elements?

/-- `HasMember`, of an object. -/
def has_member (value : Value ρ) (name : String) : Checked Bool :=
  if value.is_object then .ok (value.lookup name).isSome else .error .precondition

/-- `operator[]` with a name, of an object with the member. -/
def member (value : Value ρ) (name : String) : Checked (Value ρ) := demand (value.lookup name)

variable {value : Value ρ} {name : String}

theorem has_member_object (h : value.is_object = true) :
    value.has_member name = .ok (value.lookup name).isSome :=
  if_pos h

theorem has_member_not_object (h : value.is_object = false) :
    value.has_member name = .error .precondition :=
  if_neg (by simp [h])

theorem uint?_eq_some_iff {number : UInt32} :
    value.uint? = some number ↔ value = integer number.toNat := by
  have hlt := number.toNat_lt
  constructor
  · intro h
    cases value with
    | integer n =>
      rw [uint?] at h
      split at h
      · rename_i hrange
        obtain rfl := Option.some.inj h
        rw [UInt32.toNat_ofNat_of_lt' (by rw [UInt32.size]; omega)]
        rw [Int.toNat_of_nonneg hrange.1]
      · cases h
    | _ => cases h
  · rintro rfl
    have hrange : 0 ≤ (number.toNat : Int) ∧ (number.toNat : Int) < 2 ^ 32 := by omega
    rw [uint?, if_pos hrange, Int.toNat_natCast, UInt32.ofNat_toNat]

end Value

end rapidjson
