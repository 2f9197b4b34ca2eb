import Mathlib.Data.List.Chain

namespace json

/-- What a writer of JSON is told to put out, call by call. Reals are of a type `ρ`. -/
inductive Token (ρ : Type) where
  | startObject
  | endObject
  | startArray
  | endArray
  | key (name : String)
  | number (n : Int)
  | real (x : ρ)
  | string (text : List UInt8)
  deriving DecidableEq, Repr

/-- A JSON value. -/
inductive Json (ρ : Type) where
  | number (n : Int)
  | real (x : ρ)
  | string (text : List UInt8)
  | array (items : List (Json ρ))
  | object (members : List (String × Json ρ))

variable {ρ : Type}

/-- The token is the whole of a value that is neither an array nor an object. -/
def Token.isLeaf : Token ρ → Bool
  | .number _ | .real _ | .string _ => true
  | _ => false

/-- The token begins a value. -/
def Token.beginsValue : Token ρ → Bool
  | .startObject | .startArray => true
  | token => token.isLeaf

mutual

/-- The calls that write a value. -/
def Json.tokens : Json ρ → List (Token ρ)
  | .number n => [.number n]
  | .real x => [.real x]
  | .string text => [.string text]
  | .array items => .startArray :: itemsTokens items
  | .object members => .startObject :: membersTokens members

def itemsTokens : List (Json ρ) → List (Token ρ)
  | [] => [.endArray]
  | item :: items => item.tokens ++ itemsTokens items

def membersTokens : List (String × Json ρ) → List (Token ρ)
  | [] => [.endObject]
  | (name, item) :: members => .key name :: (item.tokens ++ membersTokens members)

end

theorem Json.tokens_head (value : Json ρ) :
    ∃ token rest, value.tokens = token :: rest ∧ token.beginsValue = true := by
  cases value <;> exact ⟨_, _, rfl, rfl⟩

theorem itemsTokens_eq_end {items : List (Json ρ)} {rest rest' : List (Token ρ)}
    (h : itemsTokens items ++ rest = .endArray :: rest') : items = [] ∧ rest = rest' := by
  cases items with
  | nil => exact ⟨rfl, List.tail_eq_of_cons_eq h⟩
  | cons item items =>
    obtain ⟨token, more, htokens, hbegins⟩ := item.tokens_head
    rw [itemsTokens, htokens] at h
    rw [List.head_eq_of_cons_eq h] at hbegins
    cases hbegins

mutual

/-- The calls tell where a value ends, and which it is. -/
theorem Json.tokens_append_inj : ∀ {value value' : Json ρ} {rest rest' : List (Token ρ)},
    value.tokens ++ rest = value'.tokens ++ rest' → value = value' ∧ rest = rest'
  | .number _, value', _, _, h | .real _, value', _, _, h | .string _, value', _, _, h => by
    cases value' <;> cases h
    exact ⟨rfl, rfl⟩
  | .array items, value', _, _, h => by
    cases value' with
    | array items' =>
      obtain ⟨hitems, hrest⟩ := itemsTokens_append_inj (List.tail_eq_of_cons_eq h)
      exact ⟨congrArg _ hitems, hrest⟩
    | _ => cases h
  | .object members, value', _, _, h => by
    cases value' with
    | object members' =>
      obtain ⟨hmembers, hrest⟩ := membersTokens_append_inj (List.tail_eq_of_cons_eq h)
      exact ⟨congrArg _ hmembers, hrest⟩
    | _ => cases h

theorem itemsTokens_append_inj : ∀ {items items' : List (Json ρ)} {rest rest' : List (Token ρ)},
    itemsTokens items ++ rest = itemsTokens items' ++ rest' → items = items' ∧ rest = rest'
  | [], items', _, _, h => by
    obtain ⟨hnil, hrest⟩ := itemsTokens_eq_end h.symm
    exact ⟨hnil.symm, hrest.symm⟩
  | item :: items, [], _, _, h => by
    obtain ⟨hnil, _⟩ := itemsTokens_eq_end h
    cases hnil
  | item :: items, item' :: items', _, _, h => by
    simp only [itemsTokens, List.append_assoc] at h
    obtain ⟨hitem, hmore⟩ := Json.tokens_append_inj h
    obtain ⟨hitems, hrest⟩ := itemsTokens_append_inj hmore
    exact ⟨by rw [hitem, hitems], hrest⟩

theorem membersTokens_append_inj :
    ∀ {members members' : List (String × Json ρ)} {rest rest' : List (Token ρ)},
    membersTokens members ++ rest = membersTokens members' ++ rest' →
      members = members' ∧ rest = rest'
  | [], [], _, _, h => ⟨rfl, List.tail_eq_of_cons_eq h⟩
  | [], (_, _) :: _, _, _, h | (_, _) :: _, [], _, _, h => by cases List.head_eq_of_cons_eq h
  | (name, item) :: members, (name', item') :: members', _, _, h => by
    simp only [membersTokens, List.cons_append, List.append_assoc, List.cons.injEq,
      Token.key.injEq] at h
    obtain ⟨hname, hmore⟩ := h
    obtain ⟨hitem, hmore⟩ := Json.tokens_append_inj hmore
    obtain ⟨hmembers, hrest⟩ := membersTokens_append_inj hmore
    exact ⟨by rw [hname, hitem, hmembers], hrest⟩

end

/-- Two values written by the same calls are the same value. -/
theorem Json.tokens_injective {value value' : Json ρ} (h : value.tokens = value'.tokens) :
    value = value' :=
  (Json.tokens_append_inj (congrArg (· ++ []) h)).1

theorem membersTokens_eq (members : List (String × Json ρ)) :
    membersTokens members =
      members.flatMap (fun member => .key member.1 :: member.2.tokens) ++ [.endObject] := by
  induction members with
  | nil => rfl
  | cons member members ih => simp [membersTokens, ih]

theorem itemsTokens_eq (items : List (Json ρ)) :
    itemsTokens items = items.flatMap Json.tokens ++ [.endArray] := by
  induction items with
  | nil => rfl
  | cons item items ih => simp [itemsTokens, ih]

/-- A key is followed by a value. -/
def Follows : Token ρ → Token ρ → Prop
  | .key _, next => next.beginsValue = true
  | _, _ => True

mutual

theorem Json.tokens_follow : ∀ (value : Json ρ) {rest : List (Token ρ)},
    rest.IsChain Follows → (value.tokens ++ rest).IsChain Follows
  | .number _, _, h | .real _, _, h | .string _, _, h => h.cons fun _ _ => trivial
  | .array items, _, h => (itemsTokens_follow items h).cons fun _ _ => trivial
  | .object members, _, h => (membersTokens_follow members h).cons fun _ _ => trivial

theorem itemsTokens_follow : ∀ (items : List (Json ρ)) {rest : List (Token ρ)},
    rest.IsChain Follows → (itemsTokens items ++ rest).IsChain Follows
  | [], _, h => h.cons fun _ _ => trivial
  | item :: items, _, h => by
    rw [itemsTokens, List.append_assoc]
    exact item.tokens_follow (itemsTokens_follow items h)

theorem membersTokens_follow : ∀ (members : List (String × Json ρ)) {rest : List (Token ρ)},
    rest.IsChain Follows → (membersTokens members ++ rest).IsChain Follows
  | [], _, h => h.cons fun _ _ => trivial
  | (name, item) :: members, _, h => by
    rw [membersTokens, List.cons_append, List.append_assoc]
    apply (item.tokens_follow (membersTokens_follow members h)).cons
    obtain ⟨token, more, htokens, hbegins⟩ := item.tokens_head
    intro next hnext
    rw [htokens, List.cons_append, List.head?_cons] at hnext
    cases hnext
    exact hbegins

end

/-- In the calls that write a value no key stands without its own value. -/
theorem Json.key_followed {value : Json ρ} {before after : List (Token ρ)} {name : String}
    {next : Token ρ} (h : value.tokens = before ++ .key name :: next :: after) :
    next.beginsValue = true := by
  have hchain := value.tokens_follow List.isChain_nil
  rw [List.append_nil, h, List.isChain_append_cons_cons] at hchain
  exact hchain.2.1

end json
