import Livox.Library.Loop
import Livox.Sdk.BuildRequest.RoundTrip

open checked loop

namespace livox_lidar

namespace build_request

/-- `std::string::find` of the separator, from a position on. -/
def find (src : List UInt8) (pos : Nat) : Option Nat :=
  ((src.drop pos).findIdx? (· == 46)).map (pos + ·)

def substr (src : List UInt8) (pos len : Nat) : List UInt8 := (src.drop pos).take len

/-- The variables of `IpToU8`; without a `pos2` it is `npos`. -/
structure Scan where
  pos1 : Nat
  pos2 : Option Nat
  result : List UInt8

/-- One iteration of the loop of `IpToU8`, or what follows the loop. -/
def ip_to_u8_turn (src : List UInt8) (s : Scan) : Build (Turn Scan (List UInt8)) :=
  match s.pos2 with
  | some pos2 => do
    let val ← read_octet (substr src s.pos1 (pos2 - s.pos1))
    let pos1 := pos2 + 1
    .ok (.next { pos1, pos2 := find src pos1, result := s.result ++ [val] })
  | none => do
    let result ←
      if s.pos1 ≠ src.length then do
        let val ← read_octet (src.drop s.pos1)
        .ok (s.result ++ [val])
      else .ok s.result
    if result.length ≠ 4 then .error .refused else .ok (.leave result)

/-- The state before the loop, with an empty vector for the result. -/
def ip_to_u8_start (src : List UInt8) : Scan :=
  { pos1 := 0, pos2 := find src 0, result := [] }

section Splitting

variable {src : List UInt8}

theorem find_eq_none {pos : Nat} (h : find src pos = none) : 46 ∉ src.drop pos := by
  intro hmem
  have hfound : ((src.drop pos).findIdx? (· == 46)) = none := by simpa [find] using h
  rw [List.findIdx?_eq_none_iff] at hfound
  simpa using hfound 46 hmem

/-- The separator that `find` finds stands behind characters that are none. -/
theorem find_eq_some {pos pos2 : Nat} (h : find src pos = some pos2) :
    ∃ front back, src.drop pos = front ++ 46 :: back ∧ 46 ∉ front ∧ pos2 = pos + front.length ∧
      substr src pos (pos2 - pos) = front ∧ src.drop (pos2 + 1) = back := by
  obtain ⟨k, hk, rfl⟩ := Option.map_eq_some_iff.mp h
  obtain ⟨hlt, hsep, hbefore⟩ := List.findIdx?_eq_some_iff_getElem.mp hk
  have hsplit : src.drop pos = (src.drop pos).take k ++ 46 :: (src.drop pos).drop (k + 1) := by
    have hcell : (src.drop pos)[k] = 46 := by simpa using hsep
    rw [← hcell, List.getElem_cons_drop, List.take_append_drop]
  have hlength : ((src.drop pos).take k).length = k := by
    rw [List.length_take]
    omega
  refine ⟨(src.drop pos).take k, (src.drop pos).drop (k + 1), hsplit, ?_, by rw [hlength], ?_, ?_⟩
  · intro hmem
    obtain ⟨j, hj, hcell⟩ := List.mem_take_iff_getElem.mp hmem
    have hnot := hbefore j (by omega)
    simp [hcell] at hnot
  · rw [substr, Nat.add_sub_cancel_left]
  · rw [List.drop_drop, Nat.add_assoc]

/-- What `IpToU8` makes of the parts that it has read and of those that it has not. -/
def finished (result : List UInt8) (src : List UInt8) : Build (List UInt8) := do
  let more ← read_octets (src.splitOn 46)
  if (result ++ more).length ≠ 4 then .error .refused else .ok (result ++ more)

theorem read_octets_cons {field : List UInt8} {rest : List (List UInt8)} (h : rest ≠ []) :
    read_octets (field :: rest) =
      (do let val ← read_octet field
          let more ← read_octets rest
          pure (val :: more) : Build (List UInt8)) := by
  obtain ⟨next, rest, rfl⟩ := List.exists_cons_of_ne_nil h
  rfl

/-- Behind the last separator. -/
theorem turn_last {pos1 : Nat} (hpos : pos1 ≤ src.length) (result : List UInt8)
    (hfind : find src pos1 = none) :
    ip_to_u8_turn src { pos1, pos2 := none, result } =
      (finished result (src.drop pos1)).map Turn.leave := by
  rw [finished, List.splitOn_eq_singleton (find_eq_none hfind), ip_to_u8_turn, read_octets]
  by_cases hend : pos1 = src.length
  · rw [if_neg (not_not.mpr hend), if_pos (List.drop_eq_nil_of_le hend.ge)]
    simp only [build_bind, List.append_nil]
    split <;> rfl
  · have hne : src.drop pos1 ≠ [] := by
      rw [ne_eq, List.drop_eq_nil_iff]
      omega
    rw [if_pos hend, if_neg hne]
    cases read_octet (src.drop pos1) with
    | error fault => rfl
    | ok val =>
      simp only [build_bind]
      show (if (result ++ [val]).length ≠ 4 then _ else _) =
        Except.map Turn.leave (if (result ++ [val]).length ≠ 4 then _ else _)
      split <;> rfl

/-- From every position up to the end the loop and what follows it read the rest of the parts. -/
theorem turn_ends {pos1 : Nat} (hpos : pos1 ≤ src.length) (result : List UInt8) :
    Ends (ip_to_u8_turn src) { pos1, pos2 := find src pos1, result }
      (finished result (src.drop pos1)) := by
  induction hn : src.length - pos1 using Nat.strong_induction_on generalizing pos1 result with
  | _ n ih =>
    cases hfind : find src pos1 with
    | none => exact ends_of_map_leave (turn_last hpos result hfind)
    | some pos2 =>
      obtain ⟨front, back, hsplit, hnot, rfl, hfront, hback⟩ := find_eq_some hfind
      have hlength := congrArg List.length hsplit
      rw [List.length_drop, List.length_append, List.length_cons] at hlength
      have hrest := ih (src.length - (pos1 + front.length + 1)) (by omega)
        (show pos1 + front.length + 1 ≤ src.length by omega)
      rw [finished, hsplit, List.splitOn_append_cons_self_of_not_mem hnot,
        read_octets_cons (List.splitOn_ne_nil 46 back)]
      cases hread : read_octet front with
      | error fault =>
        apply ends_error
        simp only [ip_to_u8_turn, hfront, hread]
        rfl
      | ok val =>
        have hturn : ip_to_u8_turn src
            { pos1, pos2 := some (pos1 + front.length), result } = .ok (.next
              { pos1 := pos1 + front.length + 1
                pos2 := find src (pos1 + front.length + 1)
                result := result ++ [val] }) := by
          simp only [ip_to_u8_turn, hfront, hread, build_bind]
        rw [ends_next_iff hturn]
        have hsame := hrest (result ++ [val]) rfl
        rw [hback, finished] at hsame
        cases hmore : read_octets (back.splitOn 46) with
        | error fault =>
          rw [hmore] at hsame
          exact hsame
        | ok more =>
          rw [hmore] at hsame
          simp only [build_bind, List.append_assoc, List.singleton_append] at hsame
          exact hsame

/-- The loop computes what reading the parts between the separators gives. -/
theorem ip_to_u8_ends (src : List UInt8) :
    Ends (ip_to_u8_turn src) (ip_to_u8_start src) (ip_to_u8 src) :=
  turn_ends (Nat.zero_le _) []

end Splitting

section Lexical

/-- How `std::stoi` reads a text: blanks, at most one sign, digits as far as they go, and anything
behind them. -/
def SpellsInt (field : List UInt8) (val : Int) : Prop :=
  ∃ blanks mark digits rest, field = blanks ++ (mark ++ (digits ++ rest)) ∧
    (∀ c ∈ blanks, isspace c = true) ∧ (mark = [] ∨ mark = [43] ∨ mark = [45]) ∧ digits ≠ [] ∧
    (∀ c ∈ digits, isdigit c = true) ∧ (∀ c ∈ rest.head?, isdigit c = false) ∧
    val = (if mark = [45] then -1 else 1) * decimal digits

variable {field : List UInt8} {val : Int}

theorem sign_spec (src : List UInt8) :
    ∃ mark, src = mark ++ (sign src).2 ∧ (mark = [] ∨ mark = [43] ∨ mark = [45]) ∧
      (sign src).1 = if mark = [45] then -1 else 1 := by
  cases src with
  | nil => exact ⟨[], rfl, .inl rfl, by simp [sign]⟩
  | cons c rest =>
    by_cases hminus : c = 45
    · exact ⟨[45], by simp [sign, hminus], .inr (.inr rfl), by simp [sign, hminus]⟩
    · by_cases hplus : c = 43
      · exact ⟨[43], by simp [sign, hplus], .inr (.inl rfl), by simp [sign, hplus]⟩
      · exact ⟨[], by simp [sign, hminus, hplus], .inl rfl, by simp [sign, hminus, hplus]⟩

theorem not_isdigit_head_dropWhile (src : List UInt8) :
    ∀ c ∈ (src.dropWhile isdigit).head?, isdigit c = false := by
  intro c hc
  have h := List.head?_dropWhile_not isdigit src
  rw [Option.mem_def.mp hc] at h
  simpa using h

/-- The sign that a text of blanks, a sign and digits has, and the digits. -/
theorem stoi_parts {blanks mark digits rest : List UInt8}
    (hblanks : ∀ c ∈ blanks, isspace c = true) (hmark : mark = [] ∨ mark = [43] ∨ mark = [45])
    (hne : digits ≠ []) (hdigits : ∀ c ∈ digits, isdigit c = true)
    (hrest : ∀ c ∈ rest.head?, isdigit c = false) :
    sign ((blanks ++ (mark ++ (digits ++ rest))).dropWhile isspace) =
        (if mark = [45] then -1 else 1, digits ++ rest) ∧
      (digits ++ rest).takeWhile isdigit = digits := by
  obtain ⟨c, more, rfl⟩ := List.exists_cons_of_ne_nil hne
  have hc := hdigits c List.mem_cons_self
  constructor
  · rw [List.dropWhile_append_of_pos hblanks]
    rcases hmark with rfl | rfl | rfl
    · rw [List.nil_append, List.cons_append,
        List.dropWhile_cons_of_neg (by simp [isspace_of_isdigit hc]), sign_of_isdigit hc]
      rfl
    · rfl
    · rfl
  · rw [List.takeWhile_append_of_pos hdigits]
    cases rest with
    | nil => simp
    | cons d rest =>
      have hd : isdigit d = false := hrest d rfl
      rw [List.takeWhile_cons_of_neg (by simp [hd]), List.append_nil]

theorem stoi_eq_ok_iff :
    stoi field = .ok val ↔ SpellsInt field val ∧ -(2 ^ 31) ≤ val ∧ val < 2 ^ 31 := by
  constructor
  · intro h
    obtain ⟨mark, hmark, hsigns, hsign⟩ := sign_spec (field.dropWhile isspace)
    have hdigits : (sign (field.dropWhile isspace)).2.takeWhile isdigit ≠ [] := by
      intro hnil
      simp [stoi, hnil] at h
    simp only [stoi, if_neg hdigits] at h
    split at h
    · cases h
    · rename_i hrange
      cases h
      refine ⟨⟨field.takeWhile isspace, mark, _, (sign (field.dropWhile isspace)).2.dropWhile isdigit,
        ?_, fun c hc => List.mem_takeWhile_imp hc, hsigns, hdigits,
        fun c hc => List.mem_takeWhile_imp hc, not_isdigit_head_dropWhile _, by rw [hsign]⟩, ?_, ?_⟩
      · rw [List.takeWhile_append_dropWhile, ← hmark, List.takeWhile_append_dropWhile]
      · omega
      · omega
  · rintro ⟨⟨blanks, mark, digits, rest, rfl, hblanks, hmark, hne, hdigits, hrest, rfl⟩, hlo, hhi⟩
    obtain ⟨hsign, htake⟩ := stoi_parts hblanks hmark hne hdigits hrest
    simp only [stoi, hsign, htake, if_neg hne]
    rw [if_neg (by omega)]

theorem stoi_ne_refused (field : List UInt8) : stoi field ≠ .error .refused := by
  simp only [stoi]
  split
  · simp
  · split <;> simp

/-- The part is read as a number that the range check lets through. -/
def ReadsOctet (field : List UInt8) : Prop :=
  ∃ val, SpellsInt field val ∧ 0 ≤ val ∧ val ≤ 256

/-- The part is read as a number of 32 bits that the range check stops. -/
def OutOfRange (field : List UInt8) : Prop :=
  ∃ val, SpellsInt field val ∧ -(2 ^ 31) ≤ val ∧ val < 2 ^ 31 ∧ (val < 0 ∨ 256 < val)

theorem exists_read_octet_iff : (∃ b, read_octet field = .ok b) ↔ ReadsOctet field := by
  unfold read_octet
  constructor
  · rintro ⟨b, hb⟩
    cases hstoi : stoi field with
    | error fault =>
      rw [hstoi] at hb
      cases hb
    | ok val =>
      rw [hstoi, build_bind] at hb
      have hrange : ¬ (val < 0 ∨ val > 256) := fun hout => by simp [hout] at hb
      exact ⟨val, (stoi_eq_ok_iff.mp hstoi).1, by omega, by omega⟩
  · rintro ⟨val, hspells, hlo, hhi⟩
    have hstoi := stoi_eq_ok_iff.mpr ⟨hspells, by omega, by omega⟩
    rw [hstoi, build_bind, if_neg (by omega)]
    exact ⟨_, rfl⟩

theorem read_octet_eq_refused_iff : read_octet field = .error .refused ↔ OutOfRange field := by
  unfold read_octet
  constructor
  · intro h
    cases hstoi : stoi field with
    | error fault =>
      rw [hstoi] at h
      obtain rfl : fault = .refused := Except.error.inj h
      exact absurd hstoi (stoi_ne_refused field)
    | ok val =>
      obtain ⟨hspells, hlo, hhi⟩ := stoi_eq_ok_iff.mp hstoi
      rw [hstoi, build_bind] at h
      refine ⟨val, hspells, hlo, hhi, ?_⟩
      by_contra hin
      rw [if_neg (by omega)] at h
      cases h
  · rintro ⟨val, hspells, hlo, hhi, hout⟩
    rw [stoi_eq_ok_iff.mpr ⟨hspells, hlo, hhi⟩, build_bind, if_pos (by omega)]

end Lexical

section Quads

/-- The parts that `IpToU8` reads: an empty one behind the last separator is left out. -/
def read_parts : List (List UInt8) → List (List UInt8)
  | [] => []
  | [last] => if last = [] then [] else [last]
  | field :: rest => field :: read_parts rest

def parts (src : List UInt8) : List (List UInt8) := read_parts (src.splitOn 46)

theorem read_octets_eq (fields : List (List UInt8)) :
    read_octets fields = (read_parts fields).mapM read_octet := by
  induction fields using read_parts.induct with
  | case1 => rfl
  | case2 => rfl
  | case3 last hne =>
    rw [read_octets, read_parts, if_neg hne, if_neg hne, List.mapM_cons, List.mapM_nil]
    rfl
  | case4 field rest hrest ih =>
    have hne : rest ≠ [] := fun hnil => hrest hnil
    rw [read_octets_cons hne, ih]
    obtain ⟨next, rest, rfl⟩ := List.exists_cons_of_ne_nil hne
    rw [show read_parts (field :: next :: rest) = field :: read_parts (next :: rest) from rfl,
      List.mapM_cons]

/-- A part that the range check stops comes before every part that `std::stoi` throws on. -/
def StoppedInRange (src : List UInt8) : Prop :=
  ∃ front field back, parts src = front ++ field :: back ∧ (∀ earlier ∈ front, ReadsOctet earlier) ∧
    OutOfRange field

/-- All the parts can be read, and there are not four of them. -/
def Miscounted (src : List UInt8) : Prop :=
  (∀ field ∈ parts src, ReadsOctet field) ∧ (parts src).length ≠ 4

theorem ip_to_u8_eq_refused_iff (src : List UInt8) :
    ip_to_u8 src = .error .refused ↔ StoppedInRange src ∨ Miscounted src := by
  rw [ip_to_u8, read_octets_eq, StoppedInRange, Miscounted]
  change ((parts src).mapM read_octet >>= _) = _ ↔ _
  simp only [← exists_read_octet_iff, ← read_octet_eq_refused_iff]
  rw [← mapM_eq_error_iff]
  cases hread : (parts src).mapM read_octet with
  | error fault =>
    have hnot : ¬ ∀ field ∈ parts src, ∃ b, read_octet field = .ok b := by
      intro hall
      obtain ⟨front, field, back, hsplit, -, hfield⟩ := mapM_eq_error_iff.mp hread
      obtain ⟨b, hb⟩ := hall field (by simp [hsplit])
      simp [hb] at hfield
    constructor
    · intro h
      obtain rfl : fault = .refused := Except.error.inj h
      exact .inl rfl
    · rintro (h | ⟨hall, -⟩)
      · obtain rfl : fault = .refused := Except.error.inj h
        rfl
      · exact absurd hall hnot
  | ok result =>
    have hpairs := mapM_eq_ok_iff.mp hread
    have hall : ∀ field ∈ parts src, ∃ b, read_octet field = .ok b := by
      intro field hfield
      obtain ⟨i, hi, rfl⟩ := List.getElem_of_mem hfield
      exact ⟨_, hpairs.get hi (hpairs.length_eq ▸ hi)⟩
    rw [hpairs.length_eq, build_bind]
    by_cases hfour : result.length = 4
    · simp [hfour]
    · simp only [if_pos hfour, true_iff]
      exact .inr ⟨hall, hfour⟩

/-- What the function is for: it accepts exactly four numbers with dots between them, and returns
false for every other text. -/
def AcceptsDottedQuads (src : List UInt8) (outcome : Build (List UInt8)) : Prop :=
  (∀ ip, DottedQuad src ip → outcome = .ok ip) ∧
    ((¬ ∃ ip, DottedQuad src ip) → outcome = .error .refused)

/-- For every text the loop ends, and the outcome is the right one exactly when the text is a dotted
quad, or a part that the range check stops comes before every part that `std::stoi` throws on, or
all the parts can be read and there are not four of them. -/
theorem ip_to_u8_accepts_iff (src : List UInt8) :
    ∃ outcome, Ends (ip_to_u8_turn src) (ip_to_u8_start src) outcome ∧
      (AcceptsDottedQuads src outcome ↔
        (∃ ip, DottedQuad src ip) ∨ StoppedInRange src ∨ Miscounted src) := by
  refine ⟨ip_to_u8 src, ip_to_u8_ends src, ?_⟩
  rw [← ip_to_u8_eq_refused_iff]
  constructor
  · rintro ⟨-, hother⟩
    by_cases hquad : ∃ ip, DottedQuad src ip
    · exact .inl hquad
    · exact .inr (hother hquad)
  · rintro (hquad | hrefused)
    · exact ⟨fun ip hip => ip_to_u8_dotted hip, fun hnot => absurd hquad hnot⟩
    · exact ⟨fun ip hip => ip_to_u8_dotted hip, fun _ => hrefused⟩

/-- `256.0.0.1` is accepted as `0.0.0.1`, `1.2.3.4.` and ` +1.2.3.4x` as `1.2.3.4`, and `1..2.3`
leaves the function with an exception of `std::stoi`. -/
theorem other_texts_accepted :
    ip_to_u8 [50, 53, 54, 46, 48, 46, 48, 46, 49] = .ok [0, 0, 0, 1] ∧
      ip_to_u8 [49, 46, 50, 46, 51, 46, 52, 46] = .ok [1, 2, 3, 4] ∧
      ip_to_u8 [32, 43, 49, 46, 50, 46, 51, 46, 52, 120] = .ok [1, 2, 3, 4] ∧
      ip_to_u8 [49, 46, 46, 50, 46, 51] = .error .invalid_argument ∧
      ¬ ∀ src outcome, Ends (ip_to_u8_turn src) (ip_to_u8_start src) outcome →
        AcceptsDottedQuads src outcome := by
  have hthrows : ip_to_u8 [49, 46, 46, 50, 46, 51] = .error .invalid_argument := by decide +kernel
  refine ⟨by decide +kernel, by decide +kernel, by decide +kernel, hthrows, fun h => ?_⟩
  have haccepts := h _ _ (ip_to_u8_ends [49, 46, 46, 50, 46, 51])
  rw [hthrows] at haccepts
  have hnot : ¬ ∃ ip, DottedQuad [49, 46, 46, 50, 46, 51] ip := by
    rintro ⟨ip, hip⟩
    exact absurd (haccepts.1 ip hip) (by simp)
  exact absurd (haccepts.2 hnot) (by simp)

end Quads

end build_request

end livox_lidar
