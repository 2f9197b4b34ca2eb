import Mathlib

namespace multimap

variable {α β κ : Type} [LinearOrder κ] (key : α → κ)

/-- An ordered container that takes equal keys: a new entry comes behind all whose key is not
greater. -/
def insert (x : α) (entries : List α) : List α :=
  entries.orderedInsert (fun a b => key a < key b) x

def ofList (listing : List α) : List α :=
  listing.foldl (fun entries x => insert key x entries) []

/-- The entries of a listing in the order of their keys, those of one key in the order of the
listing. -/
structure InOrder (listing order : List α) : Prop where
  perm : order.Perm listing
  ordered : order.Pairwise fun a b => key a < key b ∨ key a = key b ∧ [a, b].Sublist listing

variable {key} {listing order : List α} {x : α}

/-- What an insertion does to any relation along the list. -/
theorem pairwise_orderedInsert {r R : α → α → Prop} [DecidableRel r]
    (hbefore : ∀ b ∈ order, ¬ r x b → R b x) (hbehind : ∀ b ∈ order, r x b → R x b)
    (hmono : ∀ b c, R b c → r x b → r x c) (h : order.Pairwise R) :
    (order.orderedInsert r x).Pairwise R := by
  induction order with
  | nil => exact List.pairwise_singleton R x
  | cons b order ih =>
    obtain ⟨hb, htail⟩ := List.pairwise_cons.mp h
    rw [List.orderedInsert_cons]
    by_cases hxb : r x b
    · rw [if_pos hxb, List.pairwise_cons]
      refine ⟨fun c hc => hbehind c hc ?_, h⟩
      rcases List.mem_cons.mp hc with rfl | hc
      · exact hxb
      · exact hmono b c (hb c hc) hxb
    · rw [if_neg hxb, List.pairwise_cons]
      constructor
      · intro c hc
        rcases (List.mem_orderedInsert r).mp hc with rfl | hc
        · exact hbefore b List.mem_cons_self hxb
        · exact hb c hc
      · exact ih (fun c hc => hbefore c (List.mem_cons_of_mem b hc))
          (fun c hc => hbehind c (List.mem_cons_of_mem b hc)) htail

theorem InOrder.insert (h : InOrder key listing order) (x : α) :
    InOrder key (listing ++ [x]) (insert key x order) where
  perm := (List.perm_orderedInsert _ x order).trans
    ((h.perm.cons x).trans (List.perm_append_singleton x listing).symm)
  ordered := by
    apply pairwise_orderedInsert
    · intro b hb hxb
      rcases (not_lt.mp hxb).lt_or_eq with hlt | heq
      · exact .inl hlt
      · have hmem := h.perm.mem_iff.mp hb
        exact .inr ⟨heq, (List.singleton_sublist.mpr hmem).append (List.Sublist.refl [x])⟩
    · exact fun b _ hxb => .inl hxb
    · rintro b c (hbc | ⟨hbc, -⟩) hxb
      · exact hxb.trans hbc
      · exact hxb.trans_eq hbc
    · refine h.ordered.imp ?_
      rintro a b (hab | ⟨hab, hsub⟩)
      · exact .inl hab
      · exact .inr ⟨hab, hsub.trans (List.sublist_append_left listing [x])⟩

theorem ofList_concat (key : α → κ) (listing : List α) (x : α) :
    ofList key (listing ++ [x]) = multimap.insert key x (ofList key listing) :=
  List.foldl_append

theorem inOrder_ofList (key : α → κ) (listing : List α) :
    InOrder key listing (ofList key listing) := by
  induction listing using List.reverseRecOn with
  | nil => exact ⟨.nil, .nil⟩
  | append_singleton listing x ih =>
    rw [ofList_concat]
    exact ih.insert x

theorem map_insert {other : β → κ} {f : α → β} (hf : ∀ a, other (f a) = key a) (x : α)
    (entries : List α) : (insert key x entries).map f = insert other (f x) (entries.map f) := by
  apply List.map_orderedInsert <;> intro a _ <;> rw [hf, hf]

theorem map_ofList (other : β → κ) (f : α → β) (hf : ∀ a, other (f a) = key a)
    (listing : List α) : (ofList key listing).map f = ofList other (listing.map f) := by
  induction listing using List.reverseRecOn with
  | nil => rfl
  | append_singleton listing x ih =>
    rw [ofList_concat, map_insert hf, ih, List.map_append, List.map_singleton, ofList_concat]

end multimap
