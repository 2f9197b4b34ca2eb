import Livox.Sdk.SdkProtocol

open memory

namespace livox_lidar

section Accepted

variable (crc : FastCRC) (buf : Pointer) (buf_size : UInt32)

/-- The bytes of the header pass the checks that are made before the data are
looked at. -/
structure HeaderAccepted : Prop where
  received : 24 ≤ buf_size.toNat
  sof : sdk_packet.sof buf = kSdkProtocolSof
  version : sdk_packet.version buf = kSdkVer
  length : 24 ≤ (sdk_packet.length buf).toNat
  crc16_h : sdk_packet.crc16_h buf = crc.ccitt (buf.load 18)

/-- The data checksum of the header is that of the bytes which follow it in
memory, as many as the length field says. -/
def DataAccepted : Prop :=
  sdk_packet.crc32_d buf =
    if (sdk_packet.length buf).toNat = 24 then 0
    else crc.crc32 ((buf.add 24).load ((sdk_packet.length buf).toNat - 24))

/-- What the accepted packet says: the fields of the header, and the data. -/
def accepted_packet : CommPacket where
  protocol := kLidarSdk
  version := sdk_packet.version buf
  seq_num := sdk_packet.seq_num buf
  cmd_id := sdk_packet.cmd_id buf
  cmd_type := sdk_packet.cmd_type buf
  sender_type := sdk_packet.sender_type buf
  data := buf.add 24
  data_len := UInt16.ofNat ((sdk_packet.length buf).toNat - 24)

/-- The runs of bytes that are summed for an accepted frame. -/
def accepted_spans : List Span :=
  if (sdk_packet.length buf).toNat = 24 then [{ start := 0, len := 18 }]
  else
    [{ start := 0, len := 18 }, { start := 24, len := (sdk_packet.length buf).toNat - 24 }]

end Accepted

variable {crc : FastCRC} {buf : Pointer} {buf_size : UInt32}

/-- The length of the data, in the header's 16 bits and in the 32 bits that the
code computes it with. -/
theorem data_length_toNat {length : UInt16} (h : 24 ≤ length.toNat) :
    (length.toUInt32 - get_packet_wrapper_len).toNat = length.toNat - 24 := by
  have hle : get_packet_wrapper_len ≤ length.toUInt32 := by
    rw [UInt32.le_iff_toNat_le, UInt16.toNat_toUInt32]
    exact h
  rw [UInt32.toNat_sub_of_le _ _ hle, UInt16.toNat_toUInt32]
  rfl

theorem data_length_eq_zero_iff {length : UInt16} (h : 24 ≤ length.toNat) :
    length.toUInt32 - get_packet_wrapper_len = 0 ↔ length.toNat = 24 := by
  rw [← UInt32.toNat_inj, data_length_toNat h, UInt32.toNat_zero]
  omega

theorem accepted_packet_data_len (h : 24 ≤ (sdk_packet.length buf).toNat) :
    (accepted_packet buf).data_len.toNat = (sdk_packet.length buf).toNat - 24 := by
  have hlt := (sdk_packet.length buf).toNat_lt
  rw [accepted_packet, UInt16.toNat_ofNat']
  omega

/-- The comparisons of a header with what has been received, as the code makes them. -/
theorem HeaderAccepted.fits (h : HeaderAccepted crc buf buf_size) :
    ¬ buf_size < get_preamble_len ∧ ¬ (sdk_packet.length buf).toUInt32 < get_preamble_len := by
  rw [UInt32.not_lt, UInt32.not_lt, UInt32.le_iff_toNat_le, UInt32.le_iff_toNat_le,
    UInt16.toNat_toUInt32]
  exact ⟨h.received, h.length⟩

/-- `CheckPreamble` accepts the frames whose header and data pass their checks,
and no others. -/
theorem check_preamble_accepts_iff :
    (check_preamble crc buf buf_size).1 = true ↔
      HeaderAccepted crc buf buf_size ∧ DataAccepted crc buf := by
  constructor
  · intro h
    unfold check_preamble at h
    split at h
    · cases h
    rename_i hsize
    split at h
    · cases h
    rename_i hsof
    split at h
    · cases h
    rename_i hversion
    split at h
    · cases h
    rename_i hlength
    have hlength : 24 ≤ (sdk_packet.length buf).toNat := by
      rw [UInt32.not_lt, UInt32.le_iff_toNat_le, UInt16.toNat_toUInt32] at hlength
      exact hlength
    simp only at h
    split at h
    · cases h
    rename_i hcrc16
    rw [UInt32.not_lt, UInt32.le_iff_toNat_le] at hsize
    refine ⟨⟨hsize, not_not.mp hsof, not_not.mp hversion, hlength, not_not.mp hcrc16⟩, ?_⟩
    rw [DataAccepted]
    simpa only [decide_eq_true_eq, data_length_eq_zero_iff hlength, data_length_toNat hlength,
      sdk_packet.data] using h
  · rintro ⟨hheader, hdata⟩
    obtain ⟨hsize, hlength⟩ := hheader.fits
    simp only [check_preamble, hsize, hheader.sof, hheader.version, hlength, hheader.crc16_h,
      ne_eq, not_true_eq_false, if_false, decide_eq_true_eq,
      data_length_eq_zero_iff hheader.length, data_length_toNat hheader.length, sdk_packet.data]
    exact hdata

theorem check_preamble_spans (hheader : HeaderAccepted crc buf buf_size) :
    (check_preamble crc buf buf_size).2 = accepted_spans buf := by
  obtain ⟨hsize, hlength⟩ := hheader.fits
  simp only [check_preamble, hsize, hheader.sof, hheader.version, hlength, hheader.crc16_h,
    ne_eq, not_true_eq_false, if_false, data_length_eq_zero_iff hheader.length,
    data_length_toNat hheader.length]
  rfl

theorem parse_packet_accepted (hheader : HeaderAccepted crc buf buf_size) :
    parse_packet buf buf_size = some (accepted_packet buf) := by
  have hsize : ¬ buf_size < get_packet_wrapper_len := by
    rw [UInt32.not_lt, UInt32.le_iff_toNat_le]
    exact hheader.received
  have hdata_len : ((sdk_packet.length buf).toUInt32 - get_packet_wrapper_len).toUInt16 =
      UInt16.ofNat ((sdk_packet.length buf).toNat - 24) := by
    apply UInt16.toNat_inj.mp
    rw [UInt32.toNat_toUInt16, data_length_toNat hheader.length, UInt16.toNat_ofNat']
  rw [parse_packet, if_neg hsize, hdata_len]
  rfl

/-- What `ParseCommStream` returns for a frame that passes all checks, and that
it returns nothing else. -/
theorem parse_comm_stream_eq_some_iff {packet : CommPacket} {spans : List Span} :
    parse_comm_stream crc buf buf_size = (some packet, spans) ↔
      HeaderAccepted crc buf buf_size ∧ DataAccepted crc buf ∧
        packet = accepted_packet buf ∧ spans = accepted_spans buf := by
  rw [parse_comm_stream]
  by_cases haccepted : (check_preamble crc buf buf_size).1 = true
  · obtain ⟨hheader, hdata⟩ := check_preamble_accepts_iff.mp haccepted
    simp only [haccepted, if_true, parse_packet_accepted hheader, check_preamble_spans hheader,
      hheader, hdata, true_and, Prod.mk.injEq, Option.some.injEq]
    constructor
    · rintro ⟨rfl, rfl⟩
      exact ⟨rfl, rfl⟩
    · rintro ⟨rfl, rfl⟩
      exact ⟨rfl, rfl⟩
  · simp only [haccepted]
    constructor
    · intro h
      cases h
    · rintro ⟨hheader, hdata, _⟩
      exact absurd (check_preamble_accepts_iff.mpr ⟨hheader, hdata⟩) haccepted

/-- Whatever `ParseCommStream` accepts lies inside the received bytes: the
frame, the bytes that were summed, and the payload that is handed on. -/
def FrameInsideDatagram (crc : FastCRC) (buf : Pointer) (buf_size : UInt32) : Prop :=
  ∀ packet spans, parse_comm_stream crc buf buf_size = (some packet, spans) →
    24 + packet.data_len.toNat ≤ buf_size.toNat ∧
    (∀ span ∈ spans, span.start + span.len ≤ buf_size.toNat) ∧
    packet.data.block = buf.block ∧ buf.offset ≤ packet.data.offset ∧
    packet.data.offset + packet.data_len.toNat ≤ buf.offset + buf_size.toNat

/-- A frame lies inside the datagram exactly when its length field does, unless
one of the checks turns it down. -/
theorem frame_inside_datagram_iff (crc : FastCRC) (buf : Pointer) (buf_size : UInt32) :
    FrameInsideDatagram crc buf buf_size ↔
      (sdk_packet.length buf).toNat ≤ buf_size.toNat ∨
        ¬ HeaderAccepted crc buf buf_size ∨ ¬ DataAccepted crc buf := by
  constructor
  · intro hinside
    by_contra hnot
    simp only [not_or, not_not] at hnot
    obtain ⟨hlong, hheader, hdata⟩ := hnot
    obtain ⟨hframe, _⟩ := hinside (accepted_packet buf) (accepted_spans buf)
      (parse_comm_stream_eq_some_iff.mpr ⟨hheader, hdata, rfl, rfl⟩)
    rw [accepted_packet_data_len hheader.length] at hframe
    have := hheader.length
    omega
  · intro hfits packet spans hparse
    obtain ⟨hheader, hdata, rfl, rfl⟩ := parse_comm_stream_eq_some_iff.mp hparse
    have hlength : (sdk_packet.length buf).toNat ≤ buf_size.toNat := by
      rcases hfits with hfits | hfits | hfits
      · exact hfits
      · exact absurd hheader hfits
      · exact absurd hdata hfits
    have hmin := hheader.length
    rw [accepted_packet_data_len hmin]
    refine ⟨by omega, ?_, rfl, Nat.le_add_right _ _, ?_⟩
    · intro span hspan
      rw [accepted_spans] at hspan
      split at hspan
      · rw [List.mem_singleton] at hspan
        subst hspan
        show 0 + 18 ≤ _
        omega
      · rw [List.mem_pair] at hspan
        obtain rfl | rfl := hspan
        · show 0 + 18 ≤ _
          omega
        · show 24 + ((sdk_packet.length buf).toNat - 24) ≤ _
          omega
    · show buf.offset + 24 + _ ≤ _
      omega

/-- The 24 bytes of a header that announces one byte of data, and the zero that
an earlier datagram has left behind them in the buffer. -/
def truncated_datagram : Pointer where
  block := fun i =>
    ([0xAA, 0, 25, 0, 1, 0, 0, 0, 1, 1, 1, 1, 0, 0, 0, 0, 0, 0, 0x59, 0xcc, 0x8d, 0xef, 0x02, 0xd2]
      : List UInt8)[i]?.getD 0
  offset := 0

theorem truncated_datagram_header : HeaderAccepted fast_crc truncated_datagram 24 where
  received := by decide
  sof := by decide
  version := by decide
  length := by decide
  crc16_h := by decide +kernel

/-- The frame of 25 bytes is accepted from the 24 that were received. -/
theorem frame_inside_datagram_not_truncated :
    ¬ FrameInsideDatagram fast_crc truncated_datagram 24 := by
  intro hinside
  have hdata : DataAccepted fast_crc truncated_datagram := by
    unfold DataAccepted
    decide +kernel
  obtain ⟨hframe, _⟩ := hinside (accepted_packet truncated_datagram)
    (accepted_spans truncated_datagram)
    (parse_comm_stream_eq_some_iff.mpr ⟨truncated_datagram_header, hdata, rfl, rfl⟩)
  revert hframe
  decide

end livox_lidar
