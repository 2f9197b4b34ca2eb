import Livox.Sdk.ParseLidarStateInfo.ToJson
import Livox.Sdk.ParseLidarStateInfo.WellFormed

open memory checked json

namespace livox_lidar

namespace parse_lidar_state_info

open direct_lidar_state_info

section WriteAll

variable {α : Type} {write : α → Checked (List (Token UInt32))}

theorem write_all_eq {written : α → List (Token UInt32)} {xs : List α}
    (h : ∀ x ∈ xs, write x = .ok (written x)) :
    write_all write xs = .ok (xs.flatMap written) := by
  induction xs with
  | nil => rfl
  | cons x xs ih =>
    rw [List.forall_mem_cons] at h
    rw [write_all, h.1, ok_bind, ih h.2]
    rfl

theorem write_all_completes {xs : List α} {tokens : List (Token UInt32)}
    (h : write_all write xs = .ok tokens) : ∀ x ∈ xs, ∃ first, write x = .ok first := by
  induction xs generalizing tokens with
  | nil => simp
  | cons x xs ih =>
    obtain ⟨first, hfirst, hmore⟩ := bind_eq_ok_iff.mp h
    obtain ⟨more, hmore, _⟩ := bind_eq_ok_iff.mp hmore
    exact List.forall_mem_cons.mpr ⟨⟨first, hfirst⟩, ih hmore⟩

end WriteAll

section Written

variable (info : DirectLidarStateInfo)

/-- The array that the call reads as a string ends with a zero. -/
def Call.Readable (call : Call) : Prop :=
  call.method = .String → Terminated (call.field.storage info)

/-- The double that the call writes is a number. -/
def Call.Finite (call : Call) : Prop :=
  call.method = .Double → is_finite (call.field.bits info) = true

/-- The value that the call writes, when it writes one. -/
def Call.token (call : Call) : Token UInt32 :=
  match call.method with
  | .Uint => .number (call.field.integer info % 2 ^ 32)
  | .Int => .number ((call.field.integer info).bmod (2 ^ 32))
  | .Uint64 => .number (call.field.integer info % 2 ^ 64)
  | .Int64 => .number ((call.field.integer info).bmod (2 ^ 64))
  | .Double => .real (call.field.bits info)
  | .String => .string (string (call.field.storage info))
  | .status_code => .string (status_code_text (call.field.storage info))

def Call.json (call : Call) : Json UInt32 :=
  match call.method with
  | .Uint => .number (call.field.integer info % 2 ^ 32)
  | .Int => .number ((call.field.integer info).bmod (2 ^ 32))
  | .Uint64 => .number (call.field.integer info % 2 ^ 64)
  | .Int64 => .number ((call.field.integer info).bmod (2 ^ 64))
  | .Double => .real (call.field.bits info)
  | .String => .string (string (call.field.storage info))
  | .status_code => .string (status_code_text (call.field.storage info))

def Call.written (call : Call) : List (Token UInt32) :=
  if call.method = .Double ∧ is_finite (call.field.bits info) = false then [] else [call.token info]

def Shape.written : Shape → List (Token UInt32)
  | .value call => call.written info
  | .object members =>
    .startObject :: members.flatMap (fun member => .key member.1 :: member.2.written info) ++
      [.endObject]
  | .array items => .startArray :: items.flatMap (Call.written info) ++ [.endArray]

def Shape.json : Shape → Json UInt32
  | .value call => call.json info
  | .object members => .object (members.map fun member => (member.1, member.2.json info))
  | .array items => .array (items.map (Call.json info))

def Shape.calls : Shape → List Call
  | .value call => [call]
  | .object members => members.map Prod.snd
  | .array items => items

def Block.written (block : Block) : List (Token UInt32) :=
  .key block.name :: block.shape.written info

/-- The member of the report that the statement writes. -/
def Block.member (block : Block) : String × Json UInt32 := (block.name, block.shape.json info)

variable {info}

theorem Call.json_tokens (call : Call) : (call.json info).tokens = [call.token info] := by
  unfold Call.json Call.token
  cases call.method <;> rfl

theorem Call.token_isLeaf (call : Call) : (call.token info).isLeaf = true := by
  unfold Call.token
  cases call.method <;> rfl

theorem Call.written_finite {call : Call} (hfinite : call.Finite info) :
    call.written info = (call.json info).tokens := by
  rw [Call.written, Call.json_tokens, if_neg]
  rintro ⟨hdouble, hnot⟩
  rw [hfinite hdouble] at hnot
  cases hnot

theorem Call.write_readable {call : Call} (hread : call.Readable info) :
    call.write info = .ok (call.written info) := by
  unfold Call.write Call.written Call.token
  cases hmethod : call.method with
  | String =>
    rw [readString_eq_ok_iff.mpr ⟨hread hmethod, rfl⟩]
    rfl
  | Double => cases is_finite (call.field.bits info) <;> simp
  | _ => rfl

theorem Call.readable_of_write {call : Call} {tokens : List (Token UInt32)}
    (h : call.write info = .ok tokens) : call.Readable info := by
  intro hmethod
  unfold Call.write at h
  rw [hmethod] at h
  obtain ⟨text, hread, _⟩ := bind_eq_ok_iff.mp h
  exact (readString_eq_ok_iff.mp hread).1

theorem Shape.write_readable {shape : Shape} (hread : ∀ call ∈ shape.calls, call.Readable info) :
    shape.write info = .ok (shape.written info) := by
  cases shape with
  | value call => exact Call.write_readable (hread call (by simp [Shape.calls]))
  | object members =>
    have hmembers : ∀ member ∈ members,
        (do let value ← member.2.write info; pure (Token.key member.1 :: value) :
          Checked (List (Token UInt32))) = .ok (.key member.1 :: member.2.written info) := by
      intro member hmember
      rw [Call.write_readable (hread member.2 (List.mem_map_of_mem hmember))]
      rfl
    rw [Shape.write, write_all_eq hmembers]
    rfl
  | array items =>
    have hitems : ∀ call ∈ items, call.write info = .ok (call.written info) :=
      fun call hcall => Call.write_readable (hread call hcall)
    rw [Shape.write, write_all_eq hitems]
    rfl

theorem Shape.readable_of_write {shape : Shape} {tokens : List (Token UInt32)}
    (h : shape.write info = .ok tokens) : ∀ call ∈ shape.calls, call.Readable info := by
  cases shape with
  | value call =>
    intro other hother
    rw [List.mem_singleton.mp hother]
    exact Call.readable_of_write h
  | object members =>
    obtain ⟨written, hwritten, _⟩ := bind_eq_ok_iff.mp h
    intro call hcall
    obtain ⟨member, hmember, rfl⟩ := List.mem_map.mp hcall
    obtain ⟨first, hfirst⟩ := write_all_completes hwritten member hmember
    obtain ⟨value, hvalue, _⟩ := bind_eq_ok_iff.mp hfirst
    exact Call.readable_of_write hvalue
  | array items =>
    obtain ⟨written, hwritten, _⟩ := bind_eq_ok_iff.mp h
    intro call hcall
    obtain ⟨first, hfirst⟩ := write_all_completes hwritten call hcall
    exact Call.readable_of_write hfirst

theorem Block.write_readable {block : Block}
    (hread : ∀ call ∈ block.shape.calls, call.Readable info) :
    block.write info = .ok (block.written info) := by
  rw [Block.write, Shape.write_readable hread]
  rfl

/-- The calls that a run of the writer makes, and when it runs to its end. -/
theorem to_json_eq_ok_iff {key_mask : Finset ParamKeyName} {tokens : List (Token UInt32)} :
    livox_lidar_state_info_to_json info key_mask = .ok tokens ↔
      (∀ block ∈ blocks, block.key ∈ key_mask →
        ∀ call ∈ block.shape.calls, call.Readable info) ∧
      tokens = .startObject :: (blocks.filter (·.key ∈ key_mask)).flatMap (Block.written info) ++
        [.endObject] := by
  unfold livox_lidar_state_info_to_json
  constructor
  · intro h
    obtain ⟨written, hwritten, hrest⟩ := bind_eq_ok_iff.mp h
    have hread : ∀ block ∈ blocks, block.key ∈ key_mask →
        ∀ call ∈ block.shape.calls, call.Readable info := by
      intro block hblock hkey
      obtain ⟨first, hfirst⟩ := write_all_completes hwritten block
        (List.mem_filter.mpr ⟨hblock, decide_eq_true hkey⟩)
      obtain ⟨value, hvalue, _⟩ := bind_eq_ok_iff.mp hfirst
      exact Shape.readable_of_write hvalue
    refine ⟨hread, ?_⟩
    rw [write_all_eq fun block hblock => Block.write_readable (hread block
      (List.mem_filter.mp hblock).1 (of_decide_eq_true (List.mem_filter.mp hblock).2))] at hwritten
    cases hwritten
    cases hrest
    rfl
  · rintro ⟨hread, rfl⟩
    rw [write_all_eq fun block hblock => Block.write_readable (hread block
      (List.mem_filter.mp hblock).1 (of_decide_eq_true (List.mem_filter.mp hblock).2))]
    rfl

/-- What a statement writes is a member, when its doubles are numbers. -/
theorem Block.written_finite {block : Block}
    (hfinite : ∀ call ∈ block.shape.calls, call.Finite info) :
    block.written info = .key block.name :: (block.shape.json info).tokens := by
  rw [Block.written]
  congr 1
  cases hshape : block.shape with
  | value call =>
    rw [hshape] at hfinite
    exact Call.written_finite (hfinite call (by simp [Shape.calls]))
  | object members =>
    rw [hshape] at hfinite
    simp only [Shape.written, Shape.json, Json.tokens, membersTokens_eq, List.flatMap_map,
      List.cons_append, List.cons.injEq, true_and, List.append_cancel_right_eq]
    apply List.flatMap_congr
    intro member hmember
    rw [Call.written_finite (hfinite member.2 (List.mem_map_of_mem hmember))]
  | array items =>
    rw [hshape] at hfinite
    simp only [Shape.written, Shape.json, Json.tokens, itemsTokens_eq, List.flatMap_map,
      List.cons_append, List.cons.injEq, true_and, List.append_cancel_right_eq]
    exact List.flatMap_congr fun call hcall => Call.written_finite (hfinite call hcall)

theorem leaves_of_calls {α : Type} (before : α → List (Token UInt32)) (call : α → Call)
    (hbefore : ∀ x, (before x).filter Token.isLeaf = []) (xs : List α) :
    (xs.flatMap fun x => before x ++ [(call x).token info]).filter Token.isLeaf =
      xs.map fun x => (call x).token info := by
  induction xs with
  | nil => rfl
  | cons x xs ih =>
    rw [List.flatMap_cons, List.filter_append, List.filter_append, hbefore, ih,
      List.filter_singleton, Call.token_isLeaf]
    rfl

/-- The values in a member of the report, from first to last. -/
theorem Shape.leaves (shape : Shape) :
    (shape.json info).tokens.filter Token.isLeaf = shape.calls.map (Call.token info) := by
  cases shape with
  | value call =>
    rw [Shape.json, Call.json_tokens, List.filter_singleton, Call.token_isLeaf]
    rfl
  | object members =>
    have hmembers := @leaves_of_calls info _ (fun member => [Token.key member.1])
      (fun member : String × Call => member.2) (fun _ => rfl) members
    simpa [Shape.json, Shape.calls, Json.tokens, membersTokens_eq, List.flatMap_map,
      Call.json_tokens, Token.isLeaf, Function.comp_def] using hmembers
  | array items =>
    have hitems := @leaves_of_calls info _ (fun _ => []) (fun call : Call => call) (fun _ => rfl) items
    simpa [Shape.json, Shape.calls, Json.tokens, itemsTokens_eq, List.flatMap_map,
      Call.json_tokens, Token.isLeaf] using hitems

end Written

/-- The fields that a case fills in. -/
def Case.fields (case : Case) : List Field :=
  case.layout.flatMap fun piece => piece.member.fields

section Report

variable (info : DirectLidarStateInfo)

/-- The value is that of the field, as a number, signed or not as its type says, or
as a text read from the bytes of the field only. -/
def Field.Shown (field : Field) (token : Token UInt32) : Prop :=
  match field.type with
  | .uint _ | .int _ => token = .number (field.integer info)
  | .float => token = .real (field.bits info)
  | .chars =>
    Terminated (field.storage info) ∧ token = .string (string (field.storage info))
  | .octets => token = .string (status_code_text (field.storage info))

/-- A member of the report belongs to a key: it has the name of the key, and its
values are those of the fields that the decoder fills in for the key. -/
def Shows (key : ParamKeyName) (member : String × Json UInt32) : Prop :=
  (∃ block ∈ blocks, block.key = key ∧ block.name = member.1) ∧
    ∃ case, (key, case) ∈ cases ∧
      List.Forall₂ (Field.Shown info) case.fields (member.2.tokens.filter Token.isLeaf)

/-- The report is the state: an object with one member for each key of the set and
no other. -/
def ReportsState (key_mask : Finset ParamKeyName) : Prop :=
  ∃ tokens members order,
    livox_lidar_state_info_to_json info key_mask = .ok tokens ∧
      tokens = (Json.object members).tokens ∧
      order.Nodup ∧ (∀ key, key ∈ order ↔ key ∈ key_mask) ∧
      List.Forall₂ (Shows info) order members

/-- The keys of the set are known to the decoder, their strings have an end, and the
install attitude has numbers for angles and no negative place. -/
structure Reportable (key_mask : Finset ParamKeyName) : Prop where
  known : ∀ key ∈ key_mask, ∃ case, (key, case) ∈ cases
  terminated : ∀ entry ∈ cases, entry.1 ∈ key_mask → ∀ field ∈ entry.2.fields,
    field.type = .chars → Terminated (field.storage info)
  finite : ParamKeyName.kKeyInstallAttitude ∈ key_mask →
    ∀ field ∈ Member.install_attitude.fields, field.type = .float →
      is_finite (field.bits info) = true
  nonneg : ParamKeyName.kKeyInstallAttitude ∈ key_mask →
    ∀ field ∈ Member.install_attitude.fields, field.type = .int 4 → 0 ≤ field.integer info

end Report

/-- The function that is called goes with the type of the field. -/
def Call.Suits (call : Call) : Prop :=
  match call.method, call.field.type with
  | .Uint, .uint width => width ≤ 4
  | .Int, .int width => width = 4
  | .Uint64, .uint width => width ≤ 8
  | .Int64, .int width => width = 8
  | .Double, .float | .String, .chars | .status_code, .octets => True
  | _, _ => False

instance (call : Call) : Decidable call.Suits := by
  unfold Call.Suits
  split <;> infer_instance

section Tables

/-- The writer reads the fields that the decoder fills in, each with the function
for its type but for the place in the install attitude. -/
theorem blocks_read_cases : ∀ block ∈ blocks, ∃ case, (block.key, case) ∈ cases ∧
    case.fields = block.shape.calls.map Call.field ∧
    ∀ call ∈ block.shape.calls, call.Suits ∨
      block = install_attitude_block ∧ call.method = .Uint ∧ call.field.type = .int 4 ∧
        call.field ∈ Member.install_attitude.fields := by
  have htable : ∀ block ∈ blocks, ∃ entry ∈ cases, entry.1 = block.key ∧
      entry.2.fields = block.shape.calls.map Call.field ∧
      ∀ call ∈ block.shape.calls, call.Suits ∨
        block = install_attitude_block ∧ call.method = .Uint ∧ call.field.type = .int 4 ∧
          call.field ∈ Member.install_attitude.fields := by
    decide
  intro block hblock
  obtain ⟨⟨key, case⟩, hentry, rfl, hrest⟩ := htable block hblock
  exact ⟨case, hentry, hrest⟩

theorem doubles_in_install_attitude : ∀ block ∈ blocks, ∀ call ∈ block.shape.calls,
    call.method = .Double → block = install_attitude_block ∧
      call.field ∈ Member.install_attitude.fields ∧ call.field.type = .float := by
  decide

theorem cases_reported : ∀ entry ∈ cases, ∃ block ∈ blocks, block.key = entry.1 := by
  decide

theorem block_keys_nodup : (blocks.map Block.key).Nodup := by
  decide

theorem block_names_nodup : (blocks.map Block.name).Nodup := by
  decide

theorem block_of_key {block other : Block} (hblock : block ∈ blocks) (hother : other ∈ blocks)
    (hkey : block.key = other.key) : block = other :=
  List.inj_on_of_nodup_map block_keys_nodup hblock hother hkey

theorem block_of_name {block other : Block} (hblock : block ∈ blocks) (hother : other ∈ blocks)
    (hname : block.name = other.name) : block = other :=
  List.inj_on_of_nodup_map block_names_nodup hblock hother hname

end Tables

section Calls

variable {info : DirectLidarStateInfo} {call : Call}

theorem value_bytes_lt (field : Field) (width : Nat) :
    value (field.bytes info width) < 256 ^ width := by
  apply (value_lt _).trans_le
  apply Nat.pow_le_pow_right (by omega)
  rw [Field.bytes, List.length_take]
  omega

theorem Field.integer_uint {field : Field} {width bound : Nat} (htype : field.type = .uint width)
    (hwidth : width ≤ bound) :
    0 ≤ field.integer info ∧ field.integer info < 256 ^ bound := by
  have hlt := (@value_bytes_lt info field width).trans_le
    (Nat.pow_le_pow_right (by omega) hwidth)
  have hvalue : field.integer info = (value (field.bytes info width) : Nat) := by
    rw [Field.integer, htype]
  rw [hvalue]
  exact ⟨Int.natCast_nonneg _, by exact_mod_cast hlt⟩

theorem Field.integer_int_bmod {field : Field} {width : Nat} (htype : field.type = .int width) :
    (field.integer info).bmod (2 ^ (8 * width)) = field.integer info := by
  rw [Field.integer, htype]
  exact Int.bmod_bmod

/-- A call with the function for the type of its field puts out what the field says. -/
theorem Call.shown_of_suits (hsuits : call.Suits) (hread : call.Readable info) :
    Field.Shown info call.field (call.token info) := by
  unfold Call.Suits at hsuits
  unfold Field.Shown Call.token
  split at hsuits
  case h_1 width hmethod htype =>
    obtain ⟨hnonneg, hlt⟩ := @Field.integer_uint info _ _ 4 htype hsuits
    simp only [hmethod, htype, Token.number.injEq]
    exact Int.emod_eq_of_lt hnonneg hlt
  case h_2 width hmethod htype =>
    have hmod := @Field.integer_int_bmod info _ _ htype
    subst hsuits
    simp only [hmethod, htype, Token.number.injEq]
    exact hmod
  case h_3 width hmethod htype =>
    obtain ⟨hnonneg, hlt⟩ := @Field.integer_uint info _ _ 8 htype hsuits
    simp only [hmethod, htype, Token.number.injEq]
    exact Int.emod_eq_of_lt hnonneg hlt
  case h_4 width hmethod htype =>
    have hmod := @Field.integer_int_bmod info _ _ htype
    subst hsuits
    simp only [hmethod, htype, Token.number.injEq]
    exact hmod
  case h_5 hmethod htype => simp only [hmethod, htype]
  case h_6 hmethod htype =>
    simp only [hmethod, htype, and_true]
    exact hread hmethod
  case h_7 hmethod htype => simp only [hmethod, htype]
  case h_8 => exact hsuits.elim

/-- A signed number that is written as an unsigned one is right unless it is
negative. -/
theorem Call.shown_unsigned_iff (hmethod : call.method = .Uint) (htype : call.field.type = .int 4) :
    Field.Shown info call.field (call.token info) ↔ 0 ≤ call.field.integer info := by
  have hmod := @Field.integer_int_bmod info _ _ htype
  have hlt := @Int.bmod_lt (call.field.integer info) (2 ^ (8 * 4)) (by omega)
  rw [hmod] at hlt
  simp only [Field.Shown, Call.token, hmethod, htype, Token.number.injEq]
  omega

end Calls

section Iff

variable {info : DirectLidarStateInfo} {key_mask : Finset ParamKeyName}

/-- In an object that is a JSON value no double is missing before another member. -/
theorem double_finite {block : Block} {value : Json UInt32} {before after : List (Token UInt32)}
    {front back : List (String × Call)} {name next : String} {call other : Call}
    (hshape : block.shape = .object (front ++ (name, call) :: (next, other) :: back))
    (h : value.tokens = before ++ block.written info ++ after) : call.Finite info := by
  intro hdouble
  by_contra hnot
  have hmissing : call.written info = [] := by
    rw [Call.written, if_pos ⟨hdouble, Bool.eq_false_iff.mpr hnot⟩]
  have hkeys : value.tokens =
      (before ++ .key block.name :: .startObject ::
        front.flatMap fun member => .key member.1 :: member.2.written info) ++
      .key name :: .key next :: (other.written info ++
        back.flatMap (fun member => .key member.1 :: member.2.written info) ++
          .endObject :: after) := by
    rw [h, Block.written, hshape, Shape.written]
    simp [hmissing]
  cases Json.key_followed hkeys

/-- Without one of its angles the install attitude is no JSON value. -/
theorem install_attitude_finite {value : Json UInt32} {before after : List (Token UInt32)}
    (h : value.tokens = before ++ install_attitude_block.written info ++ after) :
    ∀ field ∈ Member.install_attitude.fields, field.type = .float →
      is_finite (field.bits info) = true := by
  have hroll : Call.Finite info ⟨.Double, Member.install_attitude.float 0⟩ :=
    @double_finite info install_attitude_block _ _ _ [] _ _ _ _ _ rfl h
  have hpitch : Call.Finite info ⟨.Double, Member.install_attitude.float 1⟩ :=
    @double_finite info install_attitude_block _ _ _ [_] _ _ _ _ _ rfl h
  have hyaw : Call.Finite info ⟨.Double, Member.install_attitude.float 2⟩ :=
    @double_finite info install_attitude_block _ _ _ [_, _] _ _ _ _ _ rfl h
  intro field hfield htype
  simp only [Member.fields, List.mem_cons, List.not_mem_nil, or_false] at hfield
  obtain rfl | rfl | rfl | rfl | rfl | rfl := hfield
  · exact hroll rfl
  · exact hpitch rfl
  · exact hyaw rfl
  all_goals cases htype

/-- What the writer has put out is a report, for what can be reported. -/
theorem Reportable.reports_state (h : Reportable info key_mask) : ReportsState info key_mask := by
  have hread : ∀ block ∈ blocks, block.key ∈ key_mask →
      ∀ call ∈ block.shape.calls, call.Readable info := by
    intro block hblock hkey call hcall hmethod
    obtain ⟨case, hcase, hfields, hsuits⟩ := blocks_read_cases block hblock
    apply h.terminated _ hcase hkey call.field
    · rw [hfields]
      exact List.mem_map_of_mem hcall
    · obtain hsuit | ⟨_, huint, _⟩ := hsuits call hcall
      · unfold Call.Suits at hsuit
        rw [hmethod] at hsuit
        split at hsuit <;> simp_all
      · rw [hmethod] at huint
        cases huint
  have hfinite : ∀ block ∈ blocks, block.key ∈ key_mask →
      ∀ call ∈ block.shape.calls, call.Finite info := by
    intro block hblock hkey call hcall hdouble
    obtain ⟨rfl, hfield, htype⟩ := doubles_in_install_attitude block hblock call hcall hdouble
    exact h.finite hkey call.field hfield htype
  refine ⟨_, (blocks.filter (·.key ∈ key_mask)).map (Block.member info),
    (blocks.filter (·.key ∈ key_mask)).map Block.key, to_json_eq_ok_iff.mpr ⟨hread, rfl⟩,
    ?_, ?_, ?_, ?_⟩
  · rw [Json.tokens, membersTokens_eq, List.flatMap_map, List.cons_append]
    congr 2
    apply List.flatMap_congr
    intro block hblock
    rw [List.mem_filter, decide_eq_true_eq] at hblock
    exact Block.written_finite (hfinite block hblock.1 hblock.2)
  · exact block_keys_nodup.sublist (List.filter_sublist.map _)
  · intro key
    simp only [List.mem_map, List.mem_filter, decide_eq_true_eq]
    constructor
    · rintro ⟨block, ⟨_, hkey⟩, rfl⟩
      exact hkey
    · intro hkey
      obtain ⟨case, hcase⟩ := h.known key hkey
      obtain ⟨block, hblock, heq⟩ := cases_reported _ hcase
      exact ⟨block, ⟨hblock, heq ▸ hkey⟩, heq⟩
  · rw [List.forall₂_map_left_iff, List.forall₂_map_right_iff, List.forall₂_same]
    intro block hblock
    rw [List.mem_filter, decide_eq_true_eq] at hblock
    obtain ⟨hblock, hkey⟩ := hblock
    obtain ⟨case, hcase, hfields, hsuits⟩ := blocks_read_cases block hblock
    refine ⟨⟨block, hblock, rfl, rfl⟩, case, hcase, ?_⟩
    rw [Block.member, Shape.leaves, hfields, List.forall₂_map_left_iff,
      List.forall₂_map_right_iff, List.forall₂_same]
    intro call hcall
    obtain hsuit | ⟨rfl, hmethod, htype, hfield⟩ := hsuits call hcall
    · exact Call.shown_of_suits hsuit (hread block hblock hkey call hcall)
    · exact (Call.shown_unsigned_iff hmethod htype).mpr (h.nonneg hkey call.field hfield htype)

/-- In a report every key of the set has its member. -/
theorem shows_of_mem {order : List ParamKeyName} {members : List (String × Json UInt32)}
    (horder : ∀ key, key ∈ order ↔ key ∈ key_mask)
    (hshows : List.Forall₂ (Shows info) order members) {key : ParamKeyName}
    (hkey : key ∈ key_mask) : ∃ member ∈ members, Shows info key member := by
  obtain ⟨i, hi⟩ := List.mem_iff_get.mp ((horder key).mpr hkey)
  have hlt : i.1 < members.length := hshows.length_eq ▸ i.2
  have hshow := hshows.get i.2 hlt
  rw [← hi]
  exact ⟨_, List.get_mem members ⟨i.1, hlt⟩, hshow⟩

/-- Only the install attitude is written with a function that can be wrong for the
type: its member shows it when no number is negative. -/
theorem install_attitude_nonneg
    (h : Shows info .kKeyInstallAttitude (install_attitude_block.member info)) :
    ∀ field ∈ Member.install_attitude.fields, field.type = .int 4 → 0 ≤ field.integer info := by
  obtain ⟨_, case, hcase, hshown⟩ := h
  obtain ⟨other, hother, hfields, _⟩ :=
    blocks_read_cases install_attitude_block (by decide)
  obtain rfl := cases_case_unique hcase hother
  rw [Block.member, Shape.leaves, hfields, List.forall₂_map_left_iff, List.forall₂_map_right_iff,
    List.forall₂_same] at hshown
  have hplace : ∀ field ∈ Member.install_attitude.fields, field.type = .int 4 →
      ⟨.Uint, field⟩ ∈ install_attitude_block.shape.calls := by
    decide
  intro field hfield htype
  exact (Call.shown_unsigned_iff rfl htype).mp (hshown _ (hplace field hfield htype))

theorem ReportsState.reportable (h : ReportsState info key_mask) : Reportable info key_mask := by
  obtain ⟨tokens, members, order, hjson, htokens, _, horder, hshows⟩ := h
  obtain ⟨hread, hwritten⟩ := to_json_eq_ok_iff.mp hjson
  rw [htokens] at hwritten
  have hangles : ParamKeyName.kKeyInstallAttitude ∈ key_mask →
      ∀ field ∈ Member.install_attitude.fields, field.type = .float →
        is_finite (field.bits info) = true := by
    intro hkey
    have hmem : install_attitude_block ∈ blocks.filter (·.key ∈ key_mask) :=
      List.mem_filter.mpr ⟨by decide, decide_eq_true hkey⟩
    obtain ⟨front, back, hsplit⟩ := List.append_of_mem hmem
    apply @install_attitude_finite info (.object members)
      (.startObject :: front.flatMap (Block.written info))
      (back.flatMap (Block.written info) ++ [.endObject])
    rw [hwritten, hsplit]
    simp
  have hmembers : members = (blocks.filter (·.key ∈ key_mask)).map (Block.member info) := by
    have hobject : (Json.object members).tokens =
        (Json.object ((blocks.filter (·.key ∈ key_mask)).map (Block.member info))).tokens := by
      rw [hwritten, Json.tokens, membersTokens_eq, List.flatMap_map, List.cons_append]
      congr 2
      apply List.flatMap_congr
      intro block hblock
      rw [List.mem_filter, decide_eq_true_eq] at hblock
      apply Block.written_finite
      intro call hcall hdouble
      obtain ⟨rfl, hfield, htype⟩ :=
        doubles_in_install_attitude block hblock.1 call hcall hdouble
      exact hangles hblock.2 call.field hfield htype
    exact Json.object.inj (Json.tokens_injective hobject)
  constructor
  · intro key hkey
    obtain ⟨_, _, _, case, hcase, _⟩ := shows_of_mem horder hshows hkey
    exact ⟨case, hcase⟩
  · intro entry hentry hkey field hfield htype
    obtain ⟨block, hblock, heq⟩ := cases_reported entry hentry
    obtain ⟨case, hcase, hfields, hsuits⟩ := blocks_read_cases block hblock
    obtain rfl := cases_case_unique (heq ▸ hcase) hentry
    rw [hfields] at hfield
    obtain ⟨call, hcall, rfl⟩ := List.mem_map.mp hfield
    apply hread block hblock (heq ▸ hkey) call hcall
    obtain hsuit | ⟨_, _, hint, _⟩ := hsuits call hcall
    · unfold Call.Suits at hsuit
      rw [htype] at hsuit
      split at hsuit <;> simp_all
    · rw [htype] at hint
      cases hint
  · exact hangles
  · intro hkey
    obtain ⟨member, hmember, hshow⟩ := shows_of_mem horder hshows hkey
    rw [hmembers] at hmember
    obtain ⟨block, hblock, rfl⟩ := List.mem_map.mp hmember
    obtain ⟨⟨other, hother, hotherkey, hname⟩, _⟩ := id hshow
    obtain rfl := block_of_name hother (List.mem_filter.mp hblock).1 hname
    obtain rfl := block_of_key hother (show install_attitude_block ∈ blocks by decide)
      hotherkey
    exact install_attitude_nonneg hshow

end Iff

/-- The states and key sets that are reported as they are, exactly. -/
theorem reports_state_iff (info : DirectLidarStateInfo) (key_mask : Finset ParamKeyName) :
    ReportsState info key_mask ↔ Reportable info key_mask :=
  ⟨ReportsState.reportable, Reportable.reports_state⟩

/-- The message of a lidar that is mounted a millimetre behind the origin. -/
def behind_message : CommPacket :=
  packet_of ([1, 0, 0, 0, 0x12, 0, 24, 0] ++ List.replicate 12 0 ++ [255, 255, 255, 255] ++
    List.replicate 8 0)

/-- The decoder makes a state of it that is not the one reported. -/
theorem reports_state_not_behind :
    ∃ outcome, parse_state_info behind_message blank_info ∅ = .ok outcome ∧ outcome.ret = true ∧
      ¬ ReportsState outcome.info outcome.key_mask := by
  have hdecoded : (parse_state_info behind_message blank_info ∅).map (fun outcome =>
      (outcome.ret, (Member.install_attitude.int32 3).integer outcome.info,
        decide (ParamKeyName.kKeyInstallAttitude ∈ outcome.key_mask))) = .ok (true, -1, true) := by
    decide +kernel
  cases hparse : parse_state_info behind_message blank_info ∅ with
  | error fault =>
    rw [hparse] at hdecoded
    cases hdecoded
  | ok outcome =>
    rw [hparse] at hdecoded
    simp only [Except.map, Except.ok.injEq, Prod.mk.injEq, decide_eq_true_eq] at hdecoded
    obtain ⟨hret, hx, hkey⟩ := hdecoded
    refine ⟨outcome, rfl, hret, fun h => ?_⟩
    have hnonneg := h.reportable.nonneg hkey (Member.install_attitude.int32 3) (by decide) rfl
    omega

end parse_lidar_state_info

end livox_lidar
