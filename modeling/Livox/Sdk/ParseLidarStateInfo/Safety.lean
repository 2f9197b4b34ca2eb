import Livox.Sdk.ParseLidarStateInfo.WellFormed

open memory checked

namespace livox_lidar

namespace parse_lidar_state_info

open direct_lidar_state_info

section Completes

variable {packet : CommPacket} {offset : UInt16}

/-- The bytes of a piece lie in the payload, and fit in its member. -/
def Piece.Fits (packet : CommPacket) (offset : UInt16) (piece : Piece) : Prop :=
  (offset + piece.start).toNat + piece.len ≤ packet.data_len.toNat ∧
    (piece.dotted = false → piece.len ≤ piece.member.size)

theorem Piece.decode_completes_iff {piece : Piece}
    (hdotted : piece.dotted = true → piece.len = 4 ∧ piece.member.size = 16)
    (info : DirectLidarStateInfo) :
    (∃ result, piece.decode packet offset info = .ok result) ↔ piece.Fits packet offset := by
  unfold Piece.decode Piece.Fits
  constructor
  · rintro ⟨result, h⟩
    obtain ⟨src, hread, hcopy⟩ := bind_eq_ok_iff.mp h
    refine ⟨CommPacket.read_completes_iff.mp ⟨src, hread⟩, fun hraw => ?_⟩
    rw [hraw] at hcopy
    have hlen := Object.memcpy_completes_iff.mp ⟨result, hcopy⟩
    rwa [CommPacket.read_eq_ok hread, Pointer.length_load] at hlen
  · rintro ⟨hinside, hsize⟩
    rw [CommPacket.read_fits hinside, ok_bind]
    have hlen := Pointer.length_load (packet.data.add (offset + piece.start).toNat) piece.len
    cases hkind : piece.dotted with
    | true =>
      obtain ⟨hfour, hsixteen⟩ := hdotted hkind
      obtain ⟨hshort, hzero⟩ := ip_string_fits (hlen.trans hfour)
      obtain ⟨result, hcopy, _⟩ := info.strcpy_fits hzero (show _ < piece.member.size by omega)
      exact ⟨result, hcopy⟩
    | false =>
      exact Object.memcpy_completes_iff.mpr (hlen.le.trans (hsize hkind))

theorem pieces_decode_completes_iff {pieces : List Piece}
    (hdotted : ∀ piece ∈ pieces, piece.dotted = true → piece.len = 4 ∧ piece.member.size = 16)
    (info : DirectLidarStateInfo) :
    (∃ result, pieces.foldlM (Piece.decode packet offset) info = .ok result) ↔
      ∀ piece ∈ pieces, piece.Fits packet offset := by
  induction pieces generalizing info with
  | nil => exact ⟨fun _ => by simp, fun _ => ⟨info, rfl⟩⟩
  | cons piece pieces ih =>
    have hfirst := @Piece.decode_completes_iff packet offset piece (hdotted piece (by simp)) info
    have hrest := fun next => ih (fun p hp => hdotted p (List.mem_cons_of_mem piece hp)) next
    rw [List.foldlM_cons, List.forall_mem_cons, ← hfirst]
    constructor
    · rintro ⟨result, h⟩
      obtain ⟨next, hone, hmore⟩ := bind_eq_ok_iff.mp h
      exact ⟨⟨next, hone⟩, (hrest next).mp ⟨result, hmore⟩⟩
    · rintro ⟨⟨next, hone⟩, hall⟩
      obtain ⟨result, hmore⟩ := (hrest next).mpr hall
      exact ⟨result, bind_eq_ok_iff.mpr ⟨next, hone, hmore⟩⟩

theorem Case.pieces_dotted (case : Case) (len : Nat) : ∀ piece ∈ case.pieces len,
    piece.dotted = true → piece.len = 4 ∧ piece.member.size = 16 := by
  cases case with
  | memcpy member =>
    intro piece hpiece
    rw [List.mem_singleton.mp hpiece]
    intro h
    cases h
  | _ => simp [Case.pieces, Member.size]

/-- How many bytes a case reads from the place of the value: the length of the
record when it copies, what the address takes when it decodes one. -/
def Case.read_len (len : Nat) : Case → Nat
  | .memcpy _ => len
  | case => case.wire_size

/-- What a case copies is not longer than its member. -/
def Case.CopyFits (len : Nat) : Case → Prop
  | .memcpy member => len ≤ member.size
  | _ => True

/-- A host address and two ports are read without a wrap of the offset, or not
at all. -/
theorem host_pieces_fit_iff {ip_addr first_port second_port : Member}
    (hfirst : first_port.size = 2) (hsecond : second_port.size = 2) :
    (∀ piece ∈ [(⟨ip_addr, 0, 4, true⟩ : Piece), ⟨first_port, 4, 2, false⟩,
      ⟨second_port, 6, 2, false⟩], piece.Fits packet offset) ↔
      offset.toNat + 8 ≤ packet.data_len.toNat := by
  have hdata := packet.data_len.toNat_lt
  have hoffset := offset.toNat_lt
  simp only [List.forall_mem_cons, Piece.Fits, UInt16.toNat_add, hfirst, hsecond,
    UInt16.reduceToNat, List.not_mem_nil, false_implies, implies_true, and_true, Bool.true_eq_false,
    Nat.le_refl]
  omega

/-- When the body of a case runs to its end. -/
theorem Case.decode_completes_iff {val_len : UInt16} {case : Case} (info : DirectLidarStateInfo) :
    (∃ result, case.decode packet offset val_len info = .ok result) ↔
      offset.toNat + case.read_len val_len.toNat ≤ packet.data_len.toNat ∧
        case.CopyFits val_len.toNat := by
  have hdata := packet.data_len.toNat_lt
  have hoffset := offset.toNat_lt
  rw [Case.decode_eq, pieces_decode_completes_iff (case.pieces_dotted val_len.toNat)]
  cases case with
  | memcpy member => simp [Case.pieces, Piece.Fits, Case.read_len, Case.CopyFits]
  | parse_lidar_ip_addr =>
    simp only [Case.pieces, Case.read_len, Case.wire_size, Case.CopyFits, List.forall_mem_cons,
      Piece.Fits, UInt16.toNat_add, UInt16.reduceToNat, List.not_mem_nil, false_implies,
      implies_true, and_true, Bool.true_eq_false]
    omega
  | parse_ntp_server_ip =>
    simp only [Case.pieces, Case.read_len, Case.wire_size, Case.CopyFits, List.forall_mem_cons,
      Piece.Fits, UInt16.toNat_add, UInt16.reduceToNat, List.not_mem_nil, false_implies,
      implies_true, and_true, Bool.true_eq_false]
    omega
  | _ => exact (host_pieces_fit_iff rfl rfl).trans (iff_of_eq (and_true _).symm)

end Completes

section Walk

variable (packet : CommPacket)

/-- The record at `offset` does not fit: its head or its value reaches behind the
payload, or its value is longer than what its key has room for. -/
def RecordTooLong (offset : Nat) : Prop :=
  packet.data_len.toNat < offset + 4 ∨
    packet.data_len.toNat < offset + 4 + (packet.data.u16 (offset + 2)).toNat ∨
    ∃ entry, switch (packet.data.u16 offset) = some entry ∧
      entry.2.wire_size < (packet.data.u16 (offset + 2)).toNat

/-- One of the next records does not fit, as they lie one behind the other. -/
def Malformed : Nat → Nat → Prop
  | 0, _ => False
  | rest + 1, offset =>
    RecordTooLong packet offset ∨
      Malformed rest (offset + 4 + (packet.data.u16 (offset + 2)).toNat)

/-- What the decoder owes for any payload: it reads and writes inside its bounds,
and returns false when a record does not fit. -/
def DecodesSafely (info : DirectLidarStateInfo) (key_mask : Finset ParamKeyName) : Prop :=
  ∃ outcome, parse_state_info packet info key_mask = .ok outcome ∧
    (Malformed packet (packet.data.u16 0).toNat 4 → outcome.ret = false)

/-- The walk of the decoder over the records, with its 16-bit offset. Until a head
no longer fits, the bytes that a known key reads lie in the payload and those
that it copies fit in its member; and if a record on the way was too long, such
a head comes before the records have been counted. -/
def WalkBounded : Prop → Nat → UInt16 → Prop
  | tooLong, 0, _ => ¬ tooLong
  | tooLong, rest + 1, offset =>
    let val_len := packet.data.u16 (offset.toNat + 2)
    packet.data_len.toNat < offset.toNat + 5 ∨
      (∀ entry, switch (packet.data.u16 offset.toNat) = some entry →
        offset.toNat + 4 + entry.2.read_len val_len.toNat ≤ packet.data_len.toNat ∧
          entry.2.CopyFits val_len.toNat) ∧
      WalkBounded (tooLong ∨ RecordTooLong packet offset.toNat) rest (offset + 2 + 2 + val_len)

variable {packet}

/-- After a record that fits, the offset of the decoder is where the next one
starts. -/
theorem next_offset {offset : UInt16} (hfits : ¬ RecordTooLong packet offset.toNat) :
    (offset + 2 + 2 + packet.data.u16 (offset.toNat + 2)).toNat =
      offset.toNat + 4 + (packet.data.u16 (offset.toNat + 2)).toNat := by
  have hdata := packet.data_len.toNat_lt
  simp only [RecordTooLong, not_or, not_lt] at hfits
  obtain ⟨_, hfour⟩ := head_offset hfits.1
  rw [UInt16.toNat_add, hfour]
  omega

/-- When the record at the offset can be decoded. -/
theorem decode_record_completes_iff {offset : UInt16}
    (hhead : offset.toNat + 4 ≤ packet.data_len.toNat) (info : DirectLidarStateInfo)
    (key_mask : Finset ParamKeyName) :
    (∃ result, decode_record packet offset info key_mask = .ok result) ↔
      ∀ entry, switch (packet.data.u16 offset.toNat) = some entry →
        offset.toNat + 4 + entry.2.read_len (packet.data.u16 (offset.toNat + 2)).toNat ≤
            packet.data_len.toNat ∧
          entry.2.CopyFits (packet.data.u16 (offset.toNat + 2)).toNat := by
  obtain ⟨_, hfour⟩ := head_offset hhead
  rw [decode_record_eq hhead]
  cases switch (packet.data.u16 offset.toNat) with
  | none =>
    constructor
    · intro _ entry hentry
      cases hentry
    · exact fun _ => ⟨_, rfl⟩
  | some entry =>
    have hdecode := @Case.decode_completes_iff packet (offset + 2 + 2)
      (packet.data.u16 (offset.toNat + 2)) entry.2 info
    rw [hfour] at hdecode
    constructor
    · rintro ⟨result, h⟩ _ hentry
      cases hentry
      obtain ⟨next, hone, _⟩ := bind_eq_ok_iff.mp h
      exact hdecode.mp ⟨next, hone⟩
    · intro h
      obtain ⟨next, hone⟩ := hdecode.mpr (h entry rfl)
      exact ⟨_, bind_eq_ok_iff.mpr ⟨next, hone, rfl⟩⟩

theorem decode_record_offset {offset : UInt16}
    (hhead : offset.toNat + 4 ≤ packet.data_len.toNat) {info : DirectLidarStateInfo}
    {key_mask : Finset ParamKeyName}
    {result : UInt16 × DirectLidarStateInfo × Finset ParamKeyName}
    (h : decode_record packet offset info key_mask = .ok result) :
    result.1 = offset + 2 + 2 + packet.data.u16 (offset.toNat + 2) := by
  rw [decode_record_eq hhead] at h
  cases hswitch : switch (packet.data.u16 offset.toNat) with
  | none =>
    rw [hswitch] at h
    cases h
    rfl
  | some entry =>
    rw [hswitch] at h
    obtain ⟨next, _, hrest⟩ := bind_eq_ok_iff.mp h
    cases hrest
    rfl

/-- The loop, with what has already been seen to be too long: it runs to its end
and reports what does not fit exactly when its walk is bounded. -/
theorem parse_records_safe_iff (tooLong : Prop) (rest : Nat) (offset : UInt16)
    (info : DirectLidarStateInfo) (key_mask : Finset ParamKeyName) :
    (∃ outcome, parse_records packet rest offset info key_mask = .ok outcome ∧
      (tooLong ∨ Malformed packet rest offset.toNat → outcome.ret = false)) ↔
      WalkBounded packet tooLong rest offset := by
  induction rest generalizing tooLong offset info key_mask with
  | zero =>
    simp only [parse_records, Malformed, WalkBounded, or_false]
    constructor
    · rintro ⟨outcome, h, hret⟩ htoo
      cases h
      cases hret htoo
    · exact fun h => ⟨_, rfl, fun htoo => absurd htoo h⟩
  | succ rest ih =>
    rw [parse_records, WalkBounded]
    by_cases hend : packet.data_len.toNat < offset.toNat + 5
    · rw [if_pos (by rw [key_value_param_size]; exact hend)]
      exact ⟨fun _ => Or.inl hend, fun _ => ⟨_, rfl, fun _ => rfl⟩⟩
    · have hhead : offset.toNat + 4 ≤ packet.data_len.toNat := by omega
      have hcompletes := decode_record_completes_iff hhead info key_mask
      -- a record that fits leads to the next record, one that does not has been noted
      have hmalformed : (tooLong ∨ Malformed packet (rest + 1) offset.toNat) ↔
          (tooLong ∨ RecordTooLong packet offset.toNat) ∨
            Malformed packet rest
              (offset + 2 + 2 + packet.data.u16 (offset.toNat + 2)).toNat := by
        rw [Malformed, or_assoc]
        apply or_congr_right
        by_cases hfits : RecordTooLong packet offset.toNat
        · simp [hfits]
        · rw [next_offset hfits]
      rw [if_neg (by rw [key_value_param_size]; exact hend)]
      simp only [hend, false_or, ← hcompletes, hmalformed]
      constructor
      · rintro ⟨outcome, h, hret⟩
        obtain ⟨⟨next, first, mask⟩, hone, hrest⟩ := bind_eq_ok_iff.mp h
        have hnext := decode_record_offset hhead hone
        simp only at hnext hrest
        subst hnext
        exact ⟨⟨_, hone⟩, (ih _ _ first mask).mp ⟨outcome, hrest, hret⟩⟩
      · rintro ⟨⟨⟨next, first, mask⟩, hone⟩, hwalk⟩
        have hnext := decode_record_offset hhead hone
        simp only at hnext
        subst hnext
        obtain ⟨outcome, hrest, hret⟩ := (ih _ _ first mask).mpr hwalk
        exact ⟨outcome, bind_eq_ok_iff.mpr ⟨_, hone, hrest⟩, hret⟩

end Walk

/-- The payloads on which the decoder stays in its bounds and reports what does
not fit, exactly. -/
theorem decodes_safely_iff (packet : CommPacket) (info : DirectLidarStateInfo)
    (key_mask : Finset ParamKeyName) :
    DecodesSafely packet info key_mask ↔
      2 ≤ packet.data_len.toNat ∧
        WalkBounded packet False (packet.data.u16 0).toNat 4 := by
  unfold DecodesSafely
  rw [← parse_records_safe_iff False (packet.data.u16 0).toNat 4 info key_mask]
  simp only [false_or]
  constructor
  · rintro ⟨outcome, h, hret⟩
    obtain ⟨key_num, hread, hrecords⟩ := bind_eq_ok_iff.mp h
    have hlen : (0 : UInt16).toNat + 2 ≤ packet.data_len.toNat := by
      obtain ⟨b, hb, _⟩ := bind_eq_ok_iff.mp hread
      exact CommPacket.read_completes_iff.mp ⟨b, hb⟩
    rw [CommPacket.read_u16_fits hlen] at hread
    cases hread
    exact ⟨by simpa using hlen, outcome, hrecords, hret⟩
  · rintro ⟨hlen, outcome, hrecords, hret⟩
    have hread : packet.read_u16 0 = .ok (packet.data.u16 0) :=
      CommPacket.read_u16_fits (by simpa using hlen)
    exact ⟨outcome, bind_eq_ok_iff.mpr ⟨_, hread, hrecords⟩, hret⟩

/-- A serial number of 17 bytes, of which the message holds all. -/
def overlong_message : CommPacket :=
  packet_of ([1, 0, 0, 0, 0x00, 0x80, 17, 0] ++ List.replicate 17 65)

theorem decodes_safely_not_overlong : ¬ DecodesSafely overlong_message blank_info ∅ := by
  rintro ⟨outcome, h, _⟩
  have hfault : (parse_state_info overlong_message blank_info ∅).isOk = false := by
    decide +kernel
  rw [h] at hfault
  cases hfault

end parse_lidar_state_info

end livox_lidar
