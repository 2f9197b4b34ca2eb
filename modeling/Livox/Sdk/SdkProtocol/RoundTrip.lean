import Livox.Sdk.SdkProtocol.Frame

open memory

namespace livox_lidar

/-- The first twelve bytes of a frame. -/
def frame_head (i_packet : CommPacket) : List UInt8 :=
  [kSdkProtocolSof, kSdkVer] ++ bytes 2 (frame_length i_packet.data_len).toNat ++
    (bytes 4 (i_packet.seq_num &&& 0xFFFF).toNat ++ bytes 2 i_packet.cmd_id.toNat ++
      [i_packet.cmd_type, i_packet.sender_type])

/-- The checksums of a frame, and its data behind them. -/
def frame_tail (crc : FastCRC) (summed : List UInt8) (i_packet : CommPacket) : List UInt8 :=
  bytes 2 (crc.ccitt summed).toNat ++
    bytes 4 (if i_packet.data_len = 0 then 0 else crc.crc32 i_packet.payload).toNat ++
    i_packet.payload

@[simp] theorem length_payload (packet : CommPacket) :
    packet.payload.length = packet.data_len.toNat := by
  simp [CommPacket.payload]

@[simp] theorem length_frame_head (i_packet : CommPacket) : (frame_head i_packet).length = 12 := by
  simp [frame_head]

@[simp] theorem length_frame_tail (crc : FastCRC) (summed : List UInt8) (i_packet : CommPacket) :
    (frame_tail crc summed i_packet).length = 6 + i_packet.data_len.toNat := by
  simp [frame_tail]
  omega

theorem frame_length_toNat (data_len : UInt16) :
    (frame_length data_len).toNat = (data_len.toNat + 24) % 65536 := by
  have hlt := data_len.toNat_lt
  rw [frame_length, UInt32.toNat_toUInt16, UInt32.toNat_add, UInt16.toNat_toUInt32,
    get_packet_wrapper_len]
  show (data_len.toNat + 24) % 2 ^ 32 % 2 ^ 16 = _
  omega

section Pack

variable (crc : FastCRC) (o_buf : Nat → UInt8) {o_buf_size : UInt32} (o_len : UInt32)
  {i_packet : CommPacket}

/-- The buffer with the frame in it; the six reserved bytes keep what they had. -/
def frame_buffer (i_packet : CommPacket) : Nat → UInt8 :=
  store (store o_buf 0 (frame_head i_packet)) 18
    (frame_tail crc (load (store o_buf 0 (frame_head i_packet)) 0 18) i_packet)

/-- A frame whose length does not fit leaves its first four bytes behind. -/
theorem pack_too_long (hprotocol : i_packet.protocol = kLidarSdk)
    (hlong : o_buf_size.toNat < (frame_length i_packet.data_len).toNat) :
    pack crc o_buf o_buf_size o_len i_packet =
      { ret := -1
        o_buf := store o_buf 0
          ([kSdkProtocolSof, kSdkVer] ++ bytes 2 (frame_length i_packet.data_len).toNat)
        o_len } := by
  have hgt : (frame_length i_packet.data_len).toUInt32 > o_buf_size := by
    rw [gt_iff_lt, UInt32.lt_iff_toNat_lt, UInt16.toNat_toUInt32]
    exact hlong
  simp only [pack, hprotocol, ne_eq, not_true_eq_false, if_false, hgt, if_true]
  simp (disch := simp) only [store_behind]
  rfl

/-- A frame whose length fits is written in whole. -/
theorem pack_fits (hprotocol : i_packet.protocol = kLidarSdk)
    (hfits : (frame_length i_packet.data_len).toNat ≤ o_buf_size.toNat) :
    pack crc o_buf o_buf_size o_len i_packet =
      { ret := 0
        o_buf := frame_buffer crc o_buf i_packet
        o_len := (frame_length i_packet.data_len).toUInt32 } := by
  have hle : ¬ (frame_length i_packet.data_len).toUInt32 > o_buf_size := by
    rw [gt_iff_lt, UInt32.lt_iff_toNat_lt, UInt16.toNat_toUInt32]
    omega
  simp only [pack, hprotocol, ne_eq, not_true_eq_false, if_false, hle]
  -- the writes of the head lie one behind the other, and so do those of the tail
  simp (disch := simp) only [store_behind]
  simp only [frame_buffer, frame_head, frame_tail, List.append_assoc, List.cons_append,
    List.nil_append]

end Pack

section Frame

variable (crc : FastCRC) (o_buf : Nat → UInt8) (i_packet : CommPacket)

theorem load_frame_head : load (frame_buffer crc o_buf i_packet) 0 12 = frame_head i_packet := by
  rw [frame_buffer, load_store_disjoint _ (Or.inl (by omega)), load_store_of_length _ (by simp)]

/-- The header checksum does not cover itself. -/
theorem load_frame_summed : load (frame_buffer crc o_buf i_packet) 0 18 =
    load (store o_buf 0 (frame_head i_packet)) 0 18 := by
  rw [frame_buffer, load_store_disjoint _ (Or.inl (by omega))]

theorem load_frame_tail : load (frame_buffer crc o_buf i_packet) 18 (6 + i_packet.data_len.toNat) =
    frame_tail crc (load (frame_buffer crc o_buf i_packet) 0 18) i_packet := by
  rw [load_frame_summed, frame_buffer, load_store_of_length _ (by simp)]

/-- Behind the frame, the buffer is as it was. -/
theorem frame_buffer_beyond {i : Nat} (h : i_packet.data_len.toNat + 24 ≤ i) :
    frame_buffer crc o_buf i_packet i = o_buf i := by
  rw [frame_buffer, store_of_ge _ (by simp; omega), store_of_ge _ (by simp; omega)]

/-- The buffer that holds the frame, as the receiver sees it. -/
def frame_pointer : Pointer where
  block := frame_buffer crc o_buf i_packet
  offset := 0

variable {crc o_buf i_packet}

theorem frame_sof : sdk_packet.sof (frame_pointer crc o_buf i_packet) = kSdkProtocolSof := by
  have h := load_frame_head crc o_buf i_packet
  rw [load_succ] at h
  exact (List.cons.inj h).1

theorem frame_version : sdk_packet.version (frame_pointer crc o_buf i_packet) = kSdkVer := by
  have h := load_frame_head crc o_buf i_packet
  rw [load_succ, load_succ] at h
  exact (List.cons.inj (List.cons.inj h).2).1

theorem frame_length_field :
    sdk_packet.length (frame_pointer crc o_buf i_packet) = frame_length i_packet.data_len := by
  apply Pointer.u16_of_load
  have h := load_middle [kSdkProtocolSof, kSdkVer] (bytes 2 (frame_length i_packet.data_len).toNat)
    _ ((load_frame_head crc o_buf i_packet).trans (List.append_assoc ..))
  rwa [length_bytes] at h

theorem frame_seq_num : (sdk_packet.seq_num (frame_pointer crc o_buf i_packet)).toNat =
    i_packet.seq_num.toNat % 65536 := by
  have hload : ((frame_pointer crc o_buf i_packet).add 4).load 4 =
      bytes 4 (i_packet.seq_num &&& 0xFFFF).toNat := by
    have h := load_middle
      ([kSdkProtocolSof, kSdkVer] ++ bytes 2 (frame_length i_packet.data_len).toNat)
      (bytes 4 (i_packet.seq_num &&& 0xFFFF).toNat)
      (bytes 2 i_packet.cmd_id.toNat ++ [i_packet.cmd_type, i_packet.sender_type])
      ((load_frame_head crc o_buf i_packet).trans (by simp only [frame_head, List.append_assoc]))
    rwa [List.length_append, length_bytes, length_bytes] at h
  rw [sdk_packet.seq_num, Pointer.u32_of_load hload, UInt32.toNat_and]
  exact Nat.and_two_pow_sub_one_eq_mod _ 16

theorem frame_cmd_id :
    sdk_packet.cmd_id (frame_pointer crc o_buf i_packet) = i_packet.cmd_id := by
  apply Pointer.u16_of_load
  have h := load_middle
    ([kSdkProtocolSof, kSdkVer] ++ bytes 2 (frame_length i_packet.data_len).toNat ++
      bytes 4 (i_packet.seq_num &&& 0xFFFF).toNat)
    (bytes 2 i_packet.cmd_id.toNat) [i_packet.cmd_type, i_packet.sender_type]
    ((load_frame_head crc o_buf i_packet).trans (by simp only [frame_head, List.append_assoc]))
  rwa [List.length_append, List.length_append, length_bytes, length_bytes, length_bytes] at h

theorem frame_types :
    sdk_packet.cmd_type (frame_pointer crc o_buf i_packet) = i_packet.cmd_type ∧
      sdk_packet.sender_type (frame_pointer crc o_buf i_packet) = i_packet.sender_type := by
  have h := load_middle
    ([kSdkProtocolSof, kSdkVer] ++ bytes 2 (frame_length i_packet.data_len).toNat ++
      bytes 4 (i_packet.seq_num &&& 0xFFFF).toNat ++ bytes 2 i_packet.cmd_id.toNat)
    [i_packet.cmd_type, i_packet.sender_type] []
    ((load_frame_head crc o_buf i_packet).trans
      (by simp only [frame_head, List.append_assoc, List.append_nil]))
  rw [List.length_append, List.length_append, List.length_append, length_bytes, length_bytes,
    length_bytes] at h
  obtain ⟨htype, hrest⟩ := List.cons.inj h
  exact ⟨htype, (List.cons.inj hrest).1⟩

theorem frame_crc16_h : sdk_packet.crc16_h (frame_pointer crc o_buf i_packet) =
    crc.ccitt ((frame_pointer crc o_buf i_packet).load 18) := by
  apply Pointer.u16_of_load
  have h := load_middle [] (bytes 2 (crc.ccitt (load (frame_buffer crc o_buf i_packet) 0 18)).toNat)
    _ ((load_frame_tail crc o_buf i_packet).trans (List.append_assoc ..))
  rwa [length_bytes] at h

theorem frame_crc32_d : sdk_packet.crc32_d (frame_pointer crc o_buf i_packet) =
    if i_packet.data_len = 0 then 0 else crc.crc32 i_packet.payload := by
  apply Pointer.u32_of_load
  have h := load_middle (bytes 2 (crc.ccitt (load (frame_buffer crc o_buf i_packet) 0 18)).toNat)
    (bytes 4 (if i_packet.data_len = 0 then 0 else crc.crc32 i_packet.payload).toNat)
    i_packet.payload
    ((load_frame_tail crc o_buf i_packet).trans (by simp only [frame_tail, List.append_assoc]))
  rwa [length_bytes, length_bytes] at h

theorem frame_data : ((frame_pointer crc o_buf i_packet).add 24).load i_packet.data_len.toNat =
    i_packet.payload := by
  have h := load_middle (bytes 2 (crc.ccitt (load (frame_buffer crc o_buf i_packet) 0 18)).toNat ++
      bytes 4 (if i_packet.data_len = 0 then 0 else crc.crc32 i_packet.payload).toNat)
    i_packet.payload []
    ((load_frame_tail crc o_buf i_packet).trans
      (by simp only [frame_tail, List.append_assoc, List.append_nil]))
  rwa [List.length_append, length_bytes, length_bytes, length_payload] at h

/-- A whole frame passes all the checks of the receiver. -/
theorem frame_accepted {buf_size : UInt32} (hwhole : i_packet.data_len.toNat + 24 < 65536)
    (hsize : buf_size.toNat = i_packet.data_len.toNat + 24) :
    HeaderAccepted crc (frame_pointer crc o_buf i_packet) buf_size ∧
      DataAccepted crc (frame_pointer crc o_buf i_packet) := by
  have hlength : (sdk_packet.length (frame_pointer crc o_buf i_packet)).toNat =
      i_packet.data_len.toNat + 24 := by
    rw [frame_length_field, frame_length_toNat]
    omega
  refine ⟨⟨by omega, frame_sof, frame_version, by omega, frame_crc16_h⟩, ?_⟩
  have hzero : i_packet.data_len = 0 ↔ i_packet.data_len.toNat + 24 = 24 := by
    rw [← UInt16.toNat_inj, UInt16.toNat_zero]
    omega
  rw [DataAccepted, hlength, frame_crc32_d, Nat.add_sub_cancel, frame_data]
  simp only [hzero]

end Frame

/-- What the sender and the receiver of a frame owe each other: a packed frame
has the length of its data and the header, stays in its buffer and is parsed
back; a frame that is not packed leaves the buffer alone. -/
def PackRoundTrips (crc : FastCRC) (o_buf : Nat → UInt8) (o_buf_size o_len : UInt32)
    (i_packet : CommPacket) : Prop :=
  let result := pack crc o_buf o_buf_size o_len i_packet
  if result.ret = 0 then
    result.o_len.toNat = i_packet.data_len.toNat + 24 ∧ result.o_len.toNat ≤ o_buf_size.toNat ∧
    (∀ i, result.o_len.toNat ≤ i → result.o_buf i = o_buf i) ∧
    ∃ packet spans,
      parse_comm_stream crc { block := result.o_buf, offset := 0 } result.o_len =
        (some packet, spans) ∧
      packet.cmd_id = i_packet.cmd_id ∧ packet.cmd_type = i_packet.cmd_type ∧
      packet.sender_type = i_packet.sender_type ∧ packet.payload = i_packet.payload ∧
      packet.seq_num.toNat = i_packet.seq_num.toNat % 65536
  else result.o_buf = o_buf

/-- The length fits in its 16 bits when it fits in the buffer; when it does not
fit in the buffer, the buffer starts with the bytes that are written before that
is found out. -/
def PackFits (o_buf : Nat → UInt8) (o_buf_size : UInt32) (data_len : UInt16) : Prop :=
  if (frame_length data_len).toNat ≤ o_buf_size.toNat then data_len.toNat + 24 < 65536
  else load o_buf 0 4 = [kSdkProtocolSof, kSdkVer] ++ bytes 2 (frame_length data_len).toNat

/-- The round trip of a frame, exactly where it works. -/
theorem pack_round_trips_iff (crc : FastCRC) (o_buf : Nat → UInt8) (o_buf_size o_len : UInt32)
    (i_packet : CommPacket) (hprotocol : i_packet.protocol = kLidarSdk) :
    PackRoundTrips crc o_buf o_buf_size o_len i_packet ↔
      PackFits o_buf o_buf_size i_packet.data_len := by
  unfold PackRoundTrips PackFits
  by_cases hfits : (frame_length i_packet.data_len).toNat ≤ o_buf_size.toNat
  · rw [if_pos hfits, pack_fits crc o_buf o_len hprotocol hfits]
    simp only [if_true, UInt16.toNat_toUInt32]
    rw [frame_length_toNat] at hfits ⊢
    constructor
    · rintro ⟨hlen, _⟩
      omega
    · intro hwhole
      have hlen : (i_packet.data_len.toNat + 24) % 65536 = i_packet.data_len.toNat + 24 := by
        omega
      have hsize : (frame_length i_packet.data_len).toUInt32.toNat =
          i_packet.data_len.toNat + 24 := by
        rw [UInt16.toNat_toUInt32, frame_length_toNat, hlen]
      rw [hlen]
      obtain ⟨hheader, hdata⟩ := @frame_accepted crc o_buf i_packet _ hwhole hsize
      obtain ⟨hcmd_type, hsender_type⟩ := @frame_types crc o_buf i_packet
      have hdata_len : (accepted_packet (frame_pointer crc o_buf i_packet)).data_len.toNat =
          i_packet.data_len.toNat := by
        rw [accepted_packet_data_len hheader.length, frame_length_field, frame_length_toNat]
        omega
      refine ⟨rfl, ?_, fun i hi => frame_buffer_beyond crc o_buf i_packet hi, _, _,
        parse_comm_stream_eq_some_iff.mpr ⟨hheader, hdata, rfl, rfl⟩, frame_cmd_id,
        hcmd_type, hsender_type, ?_, frame_seq_num⟩
      · omega
      · show (accepted_packet (frame_pointer crc o_buf i_packet)).payload = _
        rw [CommPacket.payload, hdata_len]
        exact frame_data
  · rw [pack_too_long crc o_buf o_len hprotocol (by omega)]
    simp only [hfits, if_false]
    rw [if_neg (by decide), store_eq_self_iff]
    simp

/-- A packet of the SDK that carries the numbers from zero on. -/
def counting_packet (data_len : UInt16) : CommPacket where
  protocol := kLidarSdk
  version := 0
  seq_num := 1
  cmd_id := 0x0100
  cmd_type := 0
  sender_type := 0
  data := { block := UInt8.ofNat, offset := 0 }
  data_len

theorem pack_round_trips_counting_packet :
    (counting_packet 26).protocol = kLidarSdk ∧
      PackRoundTrips fast_crc (fun _ => 0) 1400 0 (counting_packet 26) :=
  ⟨rfl, (pack_round_trips_iff fast_crc (fun _ => 0) 1400 0 (counting_packet 26) rfl).mpr
    (by unfold PackFits; decide)⟩

/-- A buffer of ten bytes is refused with the start of the frame in it, and the
16-bit length of a frame with 65535 bytes of data says 23. -/
theorem pack_round_trips_not_always :
    ¬ PackRoundTrips fast_crc (fun _ => 0) 10 0 (counting_packet 0) ∧
      ¬ PackRoundTrips fast_crc (fun _ => 0) 1400 0 (counting_packet 65535) := by
  constructor
  · unfold PackRoundTrips
    rw [pack_too_long fast_crc (fun _ => 0) 0 rfl (by decide)]
    intro h
    have hfirst := congrFun h 0
    revert hfirst
    decide
  · unfold PackRoundTrips
    rw [pack_fits fast_crc (fun _ => 0) 0 rfl (by decide)]
    rintro ⟨hlen, _⟩
    revert hlen
    decide

end livox_lidar
