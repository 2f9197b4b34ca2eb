import Livox.Library.Exec
import Livox.Library.Loop
import Livox.Library.Memory

open checked loop memory

namespace livox_lidar

namespace command_impl

/-- `std::getline` on what is left of a stream: the next part and what is left behind its separator,
and nothing at the end of the stream. -/
def getline (pattern : UInt8) (input : List UInt8) : Option (List UInt8 × List UInt8) :=
  if input = [] then none
  else some (input.takeWhile (· ≠ pattern), (input.dropWhile (· ≠ pattern)).drop 1)

/-- The variables of the loop of `Split`. -/
structure Split where
  input : List UInt8
  res : List (List UInt8)

def split_turn (pattern : UInt8) (s : Split) : Checked (Turn Split (List (List UInt8))) :=
  match getline pattern s.input with
  | some (part, input) => .ok (.next { input, res := s.res ++ [part] })
  | none => .ok (.leave s.res)

/-- `Split`; `none` when `fuel` turns do not end its loop. -/
def split (fuel : Nat) (str : List UInt8) (pattern : UInt8) : Option (Checked (List (List UInt8))) :=
  run (split_turn pattern) fuel { input := str, res := [] }

/-- `std::string::substr`, which throws for a position behind the end. -/
def substr (str : List UInt8) (pos len : Nat) : Checked (List UInt8) :=
  if pos ≤ str.length then .ok ((str.drop pos).take len) else .error (.outOfBounds pos str.length)

/-- What `ParseGPRMC` returns, and whether it has reported that its check has failed. -/
structure GprmcTime where
  ns : UInt64
  check_failed : Bool
  deriving DecidableEq, Repr

/-- The check of `ParseGPRMC`, whose conditions are looked at in turn. -/
def gprmc_check_failed (gprmc_vec : List (List UInt8)) : Checked Bool :=
  if gprmc_vec.length < 9 then .ok true
  else do
    let time ← readList gprmc_vec 1
    if time.length < 6 then .ok true
    else do
      let date ← readList gprmc_vec 9
      .ok (decide (date.length < 6))

section Parse

-- `StringToTimestamp`, which is up to the time zone of the host.
variable (string_to_timestamp : List UInt8 → List UInt8 → Int64)

/-- `"%Y-%m-%d %H:%M:%S"`. -/
def time_format : List UInt8 := [37, 89, 45, 37, 109, 45, 37, 100, 32, 37, 72, 58, 37, 77, 58, 37, 83]

/-- `ParseGPRMC` behind `Split`. -/
def parse_gprmc_vec (gprmc_vec : List (List UInt8)) : Checked GprmcTime := do
  if ← gprmc_check_failed gprmc_vec then .ok { ns := 0, check_failed := true }
  else do
    let date ← readList gprmc_vec 9
    let year ← substr date 4 date.length
    let month ← substr date 2 2
    let day ← substr date 0 2
    let clock ← readList gprmc_vec 1
    let hour ← substr clock 0 2
    let minute ← substr clock 2 2
    let second ← substr clock 4 2
    let time := [50, 48] ++ year ++ [45] ++ month ++ [45] ++ day ++ [32] ++ hour ++ [58] ++ minute ++
      [58] ++ second
    let time_ms := (string_to_timestamp time_format time * 1000).toUInt64
    .ok { ns := time_ms * 1000 * 1000, check_failed := false }

/-- `ParseGPRMC`. -/
def parse_gprmc (fuel : Nat) (gprmc : List UInt8) : Option (Checked GprmcTime) :=
  (split fuel gprmc 44).map fun gprmc_vec => gprmc_vec.bind (parse_gprmc_vec string_to_timestamp)

structure LivoxLidarRmcSyncTimeRequest where
  type : UInt8
  ns : UInt64
  deriving DecidableEq, Repr

def kRmcSyncTime : UInt8 := 2

/-- `SetLivoxLidarRmcSyncTime` up to the command that it sends. -/
def set_livox_lidar_rmc_sync_time (fuel : Nat) (rmc : Pointer) (rmc_length : UInt16) :
    Option (Checked LivoxLidarRmcSyncTimeRequest) :=
  (parse_gprmc string_to_timestamp fuel (rmc.load rmc_length.toNat)).map fun time =>
    time.map fun time => { type := kRmcSyncTime, ns := time.ns }

end Parse

section Split

variable {pattern : UInt8} {str : List UInt8}

/-- What stands between the separators; an empty part behind the last of them is none. -/
def fields (pattern : UInt8) (str : List UInt8) : List (List UInt8) :=
  let parts := str.splitOn pattern
  if parts.getLast? = some [] then parts.dropLast else parts

theorem fields_nil : fields pattern [] = [] := rfl

theorem fields_of_not_mem (hne : str ≠ []) (hnot : pattern ∉ str) : fields pattern str = [str] := by
  rw [fields, List.splitOn_eq_singleton hnot]
  simp [hne]

theorem fields_append {front back : List UInt8} (hnot : pattern ∉ front) :
    fields pattern (front ++ pattern :: back) = front :: fields pattern back := by
  rw [fields, fields, List.splitOn_append_cons_self_of_not_mem hnot]
  have hne := List.splitOn_ne_nil pattern back
  rw [List.getLast?_cons_of_ne_nil hne, List.dropLast_cons_of_ne_nil hne]
  split <;> rfl

theorem getline_of_not_mem (hne : str ≠ []) (hnot : pattern ∉ str) :
    getline pattern str = some (str, []) := by
  have hall : ∀ c ∈ str, decide (c ≠ pattern) = true := by
    intro c hc
    rw [decide_eq_true_eq]
    rintro rfl
    exact hnot hc
  rw [getline, if_neg hne, List.takeWhile_eq_self_iff.mpr hall, List.dropWhile_eq_nil_iff.mpr hall]
  rfl

theorem getline_append {front back : List UInt8} (hnot : pattern ∉ front) :
    getline pattern (front ++ pattern :: back) = some (front, back) := by
  have hall : ∀ c ∈ front, decide (c ≠ pattern) = true := by
    intro c hc
    rw [decide_eq_true_eq]
    rintro rfl
    exact hnot hc
  rw [getline, if_neg (by simp), List.takeWhile_append_of_pos hall, List.dropWhile_append_of_pos hall]
  simp

/-- The loop ends with the parts, whatever the text. -/
theorem split_ends (pattern : UInt8) (str : List UInt8) (res : List (List UInt8)) :
    Ends (split_turn pattern) { input := str, res } (.ok (res ++ fields pattern str)) := by
  induction hn : str.length using Nat.strong_induction_on generalizing str res with
  | _ n ih =>
    by_cases hne : str = []
    · subst hne
      rw [fields_nil, List.append_nil]
      exact ends_leave rfl
    by_cases hmem : pattern ∈ str
    · obtain ⟨front, back, rfl, hnot⟩ := List.eq_append_cons_of_mem hmem
      have hturn : split_turn pattern { input := front ++ pattern :: back, res } =
          .ok (.next { input := back, res := res ++ [front] }) := by
        rw [split_turn, getline_append hnot]
      rw [List.length_append, List.length_cons] at hn
      have hback := ih back.length (by omega) back (res ++ [front]) rfl
      rw [ends_next_iff hturn, fields_append hnot]
      rwa [List.append_assoc, List.singleton_append] at hback
    · have hturn : split_turn pattern { input := str, res } =
          .ok (.next { input := [], res := res ++ [str] }) := by
        rw [split_turn, getline_of_not_mem hne hmem]
      rw [ends_next_iff hturn, fields_of_not_mem hne hmem]
      exact ends_leave rfl

/-- `Split` ends for every text, with its fields and nothing else. -/
theorem split_iff {outcome : Checked (List (List UInt8))} :
    (∃ fuel, split fuel str pattern = some outcome) ↔ outcome = .ok (fields pattern str) := by
  have hends := split_ends pattern str []
  rw [List.nil_append] at hends
  constructor
  · intro h
    exact Ends.unique h hends
  · rintro rfl
    exact hends

end Split

/-- The fields that are used are there, with all the characters that are taken from them. -/
def Complete (gprmc_vec : List (List UInt8)) : Prop :=
  ∃ time date, gprmc_vec[1]? = some time ∧ gprmc_vec[9]? = some date ∧ 6 ≤ time.length ∧
    6 ≤ date.length

/-- The check comes to the tenth field of nine. -/
def OverrunsCheck (gprmc_vec : List (List UInt8)) : Prop :=
  gprmc_vec.length = 9 ∧ ∃ time, gprmc_vec[1]? = some time ∧ 6 ≤ time.length

section Check

variable {gprmc_vec : List (List UInt8)} {time date : List UInt8}

theorem gprmc_check_failed_of_lt (h : gprmc_vec.length < 9) :
    gprmc_check_failed gprmc_vec = .ok true := by
  rw [gprmc_check_failed, if_pos h]

theorem gprmc_check_failed_of_short_time (hlen : ¬ gprmc_vec.length < 9)
    (htime : gprmc_vec[1]? = some time) (hshort : time.length < 6) :
    gprmc_check_failed gprmc_vec = .ok true := by
  rw [gprmc_check_failed, if_neg hlen, readList_eq_ok_iff.mpr htime, ok_bind, if_pos hshort]

theorem gprmc_check_failed_of_time (hlen : ¬ gprmc_vec.length < 9)
    (htime : gprmc_vec[1]? = some time) (hlong : 6 ≤ time.length) :
    gprmc_check_failed gprmc_vec =
      (readList gprmc_vec 9).bind fun date => .ok (decide (date.length < 6)) := by
  rw [gprmc_check_failed, if_neg hlen, readList_eq_ok_iff.mpr htime, ok_bind,
    if_neg (Nat.not_lt.mpr hlong)]
  rfl

theorem gprmc_check_failed_of_overruns (h : OverrunsCheck gprmc_vec) :
    gprmc_check_failed gprmc_vec = .error (.outOfBounds 9 9) := by
  obtain ⟨hlen, time, htime, hlong⟩ := h
  have hnone : gprmc_vec[9]? = none := List.getElem?_eq_none (by omega)
  rw [gprmc_check_failed_of_time (by omega) htime hlong, readList, hnone, hlen]
  rfl

/-- Everywhere else the check says whether a field that is used is missing. -/
theorem gprmc_check_failed_of_not_overruns (h : ¬ OverrunsCheck gprmc_vec) :
    ∃ failed, gprmc_check_failed gprmc_vec = .ok failed ∧ (failed = true ↔ ¬ Complete gprmc_vec) := by
  by_cases hlen : gprmc_vec.length < 9
  · refine ⟨true, gprmc_check_failed_of_lt hlen, iff_of_true rfl ?_⟩
    rintro ⟨_, date, _, hdate, _⟩
    have hlt := (List.getElem?_eq_some_iff.mp hdate).1
    omega
  have htime : gprmc_vec[1]? = some gprmc_vec[1] := List.getElem?_eq_getElem (by omega)
  by_cases hlong : 6 ≤ gprmc_vec[1].length
  · have hten : 9 < gprmc_vec.length := by
      by_contra hle
      exact h ⟨by omega, _, htime, hlong⟩
    have hdate : gprmc_vec[9]? = some gprmc_vec[9] := List.getElem?_eq_getElem hten
    refine ⟨decide (gprmc_vec[9].length < 6), ?_, ?_⟩
    · rw [gprmc_check_failed_of_time hlen htime hlong, readList_eq_ok_iff.mpr hdate]
      rfl
    · rw [decide_eq_true_eq]
      constructor
      · rintro hshort ⟨_, date, _, hfield, _, hdate6⟩
        rw [hdate] at hfield
        obtain rfl := Option.some.inj hfield
        omega
      · intro hnot
        by_contra hge
        exact hnot ⟨_, _, htime, hdate, hlong, by omega⟩
  · refine ⟨true, gprmc_check_failed_of_short_time hlen htime (by omega), iff_of_true rfl ?_⟩
    rintro ⟨clock, _, hclock, _, hclock6, _⟩
    rw [htime] at hclock
    obtain rfl := Option.some.inj hclock
    exact hlong hclock6

theorem substr_of_le {str : List UInt8} {pos : Nat} (h : pos ≤ str.length) (len : Nat) :
    substr str pos len = .ok ((str.drop pos).take len) := by
  rw [substr, if_pos h]

/-- The check leaves nothing that could be missing behind it. -/
theorem parse_gprmc_vec_of_complete (string_to_timestamp : List UInt8 → List UInt8 → Int64)
    (hcheck : gprmc_check_failed gprmc_vec = .ok false) (h : Complete gprmc_vec) :
    ∃ ns, parse_gprmc_vec string_to_timestamp gprmc_vec = .ok { ns, check_failed := false } := by
  obtain ⟨time, date, htime, hdate, htime6, hdate6⟩ := h
  rw [parse_gprmc_vec, hcheck, readList_eq_ok_iff.mpr htime, readList_eq_ok_iff.mpr hdate]
  simp only [ok_bind, Bool.false_eq_true, if_false]
  rw [substr_of_le (show 4 ≤ date.length by omega), substr_of_le (show 2 ≤ date.length by omega),
    substr_of_le (Nat.zero_le date.length), substr_of_le (Nat.zero_le time.length),
    substr_of_le (show 2 ≤ time.length by omega), substr_of_le (show 4 ≤ time.length by omega)]
  exact ⟨_, rfl⟩

end Check

section Sentence

variable (string_to_timestamp : List UInt8 → List UInt8 → Int64)

theorem parse_gprmc_iff {gprmc : List UInt8} {outcome : Checked GprmcTime} :
    (∃ fuel, parse_gprmc string_to_timestamp fuel gprmc = some outcome) ↔
      outcome = parse_gprmc_vec string_to_timestamp (fields 44 gprmc) := by
  constructor
  · rintro ⟨fuel, h⟩
    obtain ⟨gprmc_vec, hsplit, rfl⟩ := Option.map_eq_some_iff.mp h
    rw [split_iff.mp ⟨fuel, hsplit⟩]
    rfl
  · rintro rfl
    have hends : ∃ fuel, split fuel gprmc 44 = some (.ok (fields 44 gprmc)) := split_iff.mpr rfl
    obtain ⟨fuel, hsplit⟩ := hends
    refine ⟨fuel, ?_⟩
    rw [parse_gprmc, hsplit]
    rfl

/-- The setter sends the time that the parser gives, the zero of a sentence that it rejects too. -/
theorem set_livox_lidar_rmc_sync_time_iff {rmc : Pointer} {rmc_length : UInt16}
    {outcome : Checked LivoxLidarRmcSyncTimeRequest} :
    (∃ fuel, set_livox_lidar_rmc_sync_time string_to_timestamp fuel rmc rmc_length = some outcome) ↔
      ∃ time, (∃ fuel, parse_gprmc string_to_timestamp fuel (rmc.load rmc_length.toNat) = some time) ∧
        outcome = time.map fun time => { type := kRmcSyncTime, ns := time.ns } := by
  constructor
  · rintro ⟨fuel, h⟩
    obtain ⟨time, hparse, rfl⟩ := Option.map_eq_some_iff.mp h
    exact ⟨time, ⟨fuel, hparse⟩, rfl⟩
  · rintro ⟨time, ⟨fuel, hparse⟩, rfl⟩
    exact ⟨fuel, by rw [set_livox_lidar_rmc_sync_time, hparse]; rfl⟩

theorem parse_gprmc_vec_of_not_overruns {gprmc_vec : List (List UInt8)}
    (h : ¬ OverrunsCheck gprmc_vec) :
    ∃ time, parse_gprmc_vec string_to_timestamp gprmc_vec = .ok time ∧
      (¬ Complete gprmc_vec → time = { ns := 0, check_failed := true }) := by
  obtain ⟨failed, hcheck, hiff⟩ := gprmc_check_failed_of_not_overruns h
  cases failed with
  | true =>
    refine ⟨{ ns := 0, check_failed := true }, ?_, fun _ => rfl⟩
    rw [parse_gprmc_vec, hcheck]
    rfl
  | false =>
    have hcomplete : Complete gprmc_vec := by
      by_contra hnot
      exact absurd (hiff.mpr hnot) Bool.false_ne_true
    obtain ⟨ns, hparse⟩ := parse_gprmc_vec_of_complete string_to_timestamp hcheck hcomplete
    exact ⟨_, hparse, fun hnot => absurd hcomplete hnot⟩

theorem parse_gprmc_vec_of_overruns {gprmc_vec : List (List UInt8)} (h : OverrunsCheck gprmc_vec) :
    parse_gprmc_vec string_to_timestamp gprmc_vec = .error (.outOfBounds 9 9) := by
  rw [parse_gprmc_vec, gprmc_check_failed_of_overruns h]
  rfl

/-- Parsing ends for every text; it stays inside the fields and rejects every sentence that lacks one
that is used, unless the sentence has nine fields and a time. -/
theorem parse_gprmc_safe_iff (gprmc : List UInt8) :
    (∃ fuel time, parse_gprmc string_to_timestamp fuel gprmc = some (.ok time) ∧
      (¬ Complete (fields 44 gprmc) → time = { ns := 0, check_failed := true })) ↔
      ¬ OverrunsCheck (fields 44 gprmc) := by
  constructor
  · rintro ⟨fuel, time, hparse, -⟩ hover
    have houtcome := (parse_gprmc_iff string_to_timestamp).mp ⟨fuel, hparse⟩
    rw [parse_gprmc_vec_of_overruns string_to_timestamp hover] at houtcome
    cases houtcome
  · intro hover
    obtain ⟨time, hparse, hreject⟩ := parse_gprmc_vec_of_not_overruns string_to_timestamp hover
    obtain ⟨fuel, hfuel⟩ := (parse_gprmc_iff string_to_timestamp).mpr hparse.symm
    exact ⟨fuel, time, hfuel, hreject⟩

end Sentence

/-- `$,123456,,,,,,,x`: nine fields, the second of them with six characters. -/
def nine_fields : List UInt8 := [36, 44, 49, 50, 51, 52, 53, 54, 44, 44, 44, 44, 44, 44, 44, 120]

theorem nine_fields_overrun :
    ¬ ∃ fuel time, parse_gprmc (fun _ _ => 0) fuel nine_fields = some (.ok time) ∧
      (¬ Complete (fields 44 nine_fields) → time = { ns := 0, check_failed := true }) := by
  rintro ⟨fuel, time, hparse, -⟩
  have hover : OverrunsCheck (fields 44 nine_fields) :=
    ⟨by decide, [49, 50, 51, 52, 53, 54], by decide, by decide⟩
  have houtcome := (parse_gprmc_iff _).mp ⟨fuel, hparse⟩
  rw [parse_gprmc_vec_of_overruns _ hover] at houtcome
  cases houtcome

end command_impl

end livox_lidar
