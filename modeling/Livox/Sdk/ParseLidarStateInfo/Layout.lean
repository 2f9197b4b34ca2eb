import Livox.Sdk.ParseLidarStateInfo

open memory checked

namespace livox_lidar

section Text

theorem to_string_digits (b : UInt8) : (to_string b).length ≤ 3 ∧ 0 ∉ to_string b := by
  have h : ∀ n < 256, (to_string (UInt8.ofNat n)).length ≤ 3 ∧ 0 ∉ to_string (UInt8.ofNat n) := by
    decide +kernel
  have hb := h b.toNat b.toNat_lt
  rwa [UInt8.ofNat_toNat] at hb

theorem ip_string_four (a b c d : UInt8) :
    ip_string [a, b, c, d] =
      to_string a ++ 46 :: (to_string b ++ 46 :: (to_string c ++ 46 :: to_string d)) := by
  simp [ip_string, List.intercalate]

/-- An address in dotted form fits in the sixteen bytes of its member, with the
zero at its end. -/
theorem ip_string_fits {ip : List UInt8} (hip : ip.length = 4) :
    (ip_string ip).length < 16 ∧ 0 ∉ ip_string ip := by
  obtain ⟨a, b, c, d, rfl⟩ : ∃ a b c d, ip = [a, b, c, d] := by
    match ip, hip with
    | [a, b, c, d], _ => exact ⟨a, b, c, d, rfl⟩
  have ha := to_string_digits a
  have hb := to_string_digits b
  have hc := to_string_digits c
  have hd := to_string_digits d
  rw [ip_string_four]
  constructor
  · simp only [List.length_append, List.length_cons]
    omega
  · simp [ha.2, hb.2, hc.2, hd.2]

end Text

theorem CommPacket.read_completes_iff {packet : CommPacket} {offset : UInt16} {len : Nat} :
    (∃ src, packet.read offset len = .ok src) ↔
      offset.toNat + len ≤ packet.data_len.toNat := by
  unfold CommPacket.read
  constructor
  · rintro ⟨src, h⟩
    by_contra hnot
    rw [if_neg hnot] at h
    cases h
  · intro h
    exact ⟨_, if_pos h⟩

theorem CommPacket.read_eq_ok {packet : CommPacket} {offset : UInt16} {len : Nat}
    {src : List UInt8} (h : packet.read offset len = .ok src) :
    src = (packet.data.add offset.toNat).load len := by
  unfold CommPacket.read at h
  split at h
  · cases h
    rfl
  · cases h

theorem CommPacket.read_fits {packet : CommPacket} {offset : UInt16} {len : Nat}
    (h : offset.toNat + len ≤ packet.data_len.toNat) :
    packet.read offset len = .ok ((packet.data.add offset.toNat).load len) :=
  if_pos h

theorem CommPacket.read_u16_fits {packet : CommPacket} {offset : UInt16}
    (h : offset.toNat + 2 ≤ packet.data_len.toNat) :
    packet.read_u16 offset = .ok (packet.data.u16 offset.toNat) := by
  rw [CommPacket.read_u16, CommPacket.read_fits h]
  rfl

namespace parse_lidar_state_info

open direct_lidar_state_info

section Head

variable {packet : CommPacket} {offset : UInt16}

/-- The offset behind the head of a record does not wrap when the head lies in
the payload. -/
theorem head_offset (h : offset.toNat + 4 ≤ packet.data_len.toNat) :
    (offset + 2).toNat = offset.toNat + 2 ∧ (offset + 2 + 2).toNat = offset.toNat + 4 := by
  have hdata := packet.data_len.toNat_lt
  have htwo : (offset + 2).toNat = offset.toNat + 2 := by
    rw [UInt16.toNat_add]
    show (offset.toNat + 2) % 2 ^ 16 = _
    omega
  refine ⟨htwo, ?_⟩
  rw [UInt16.toNat_add, htwo]
  show (offset.toNat + 2 + 2) % 2 ^ 16 = _
  omega

/-- A record with its head in the payload: the switch is on its key, and its
length leads to the next one. -/
theorem decode_record_eq (h : offset.toNat + 4 ≤ packet.data_len.toNat)
    (info : DirectLidarStateInfo) (key_mask : Finset ParamKeyName) :
    decode_record packet offset info key_mask =
      let val_len := packet.data.u16 (offset.toNat + 2)
      match switch (packet.data.u16 offset.toNat) with
      | some (name, case) => do
        let info ← case.decode packet (offset + 2 + 2) val_len info
        pure (offset + 2 + 2 + val_len, info, insert name key_mask)
      | none => pure (offset + 2 + 2 + val_len, info, key_mask) := by
  obtain ⟨htwo, _⟩ := head_offset h
  have hkey : packet.read_u16 offset = .ok (packet.data.u16 offset.toNat) :=
    CommPacket.read_u16_fits (by omega)
  have hlen : packet.read_u16 (offset + 2) = .ok (packet.data.u16 (offset.toNat + 2)) := by
    rw [CommPacket.read_u16_fits (by omega), htwo]
  unfold decode_record
  rw [hkey, ok_bind]
  show (packet.read_u16 (offset + 2) >>= _) = _
  rw [hlen]
  rfl

end Head

/-- A part of a value: where it stands, and the member that it goes to, as it is
or as an address in dotted form. -/
structure Piece where
  member : Member
  start : UInt16
  len : Nat
  dotted : Bool
  deriving DecidableEq, Repr

def Piece.decode (packet : CommPacket) (offset : UInt16) (info : DirectLidarStateInfo)
    (piece : Piece) : Checked DirectLidarStateInfo := do
  let src ← packet.read (offset + piece.start) piece.len
  if piece.dotted then info.strcpy piece.member (ip_string src) else info.memcpy piece.member src

/-- The pieces of a value of `len` bytes, in the order in which they are read. The
address cases read theirs whatever the length says. -/
def Case.pieces (len : Nat) : Case → List Piece
  | .memcpy member => [⟨member, 0, len, false⟩]
  | .parse_lidar_ip_addr =>
    [⟨.lidar_ipcfg_ip_addr, 0, 4, true⟩, ⟨.lidar_ipcfg_net_mask, 4, 4, true⟩,
      ⟨.lidar_ipcfg_gw_addr, 8, 4, true⟩]
  | .parse_state_info_host_ip_cfg =>
    [⟨.host_state_info_host_ip_addr, 0, 4, true⟩,
      ⟨.host_state_info_host_state_info_port, 4, 2, false⟩,
      ⟨.host_state_info_lidar_state_info_port, 6, 2, false⟩]
  | .parse_point_cloud_host_ip_cfg =>
    [⟨.pointcloud_host_ipcfg_host_ip_addr, 0, 4, true⟩,
      ⟨.pointcloud_host_ipcfg_host_point_data_port, 4, 2, false⟩,
      ⟨.pointcloud_host_ipcfg_lidar_point_data_port, 6, 2, false⟩]
  | .parse_imu_data_host_ip_cfg =>
    [⟨.imu_host_ipcfg_host_ip_addr, 0, 4, true⟩,
      ⟨.imu_host_ipcfg_host_imu_data_port, 4, 2, false⟩,
      ⟨.imu_host_ipcfg_lidar_imu_data_port, 6, 2, false⟩]
  | .parse_ctl_ip_cfg =>
    [⟨.ctl_host_ipcfg_ip_addr, 0, 4, true⟩, ⟨.ctl_host_ipcfg_dst_port, 4, 2, false⟩,
      ⟨.ctl_host_ipcfg_src_port, 6, 2, false⟩]
  | .parse_log_ip_cfg =>
    [⟨.log_host_ipcfg_ip_addr, 0, 4, true⟩, ⟨.log_host_ipcfg_dst_port, 4, 2, false⟩,
      ⟨.log_host_ipcfg_src_port, 6, 2, false⟩]
  | .parse_ntp_server_ip => [⟨.ntp_server_ip_host_ip, 0, 4, true⟩]

/-- The length that the value of a key has on the wire. -/
def Case.wire_size : Case → Nat
  | .memcpy member => member.size
  | .parse_lidar_ip_addr => 12
  | .parse_ntp_server_ip => 4
  | _ => 8

/-- The pieces of a value of the right length. -/
def Case.layout (case : Case) : List Piece := case.pieces case.wire_size

theorem parse_host_ip_cfg_eq (ip_addr first_port second_port : Member) (packet : CommPacket)
    (offset : UInt16) (info : DirectLidarStateInfo) :
    parse_host_ip_cfg ip_addr first_port second_port packet offset info =
      [⟨ip_addr, 0, 4, true⟩, ⟨first_port, 4, 2, false⟩, ⟨second_port, 6, 2, false⟩].foldlM
        (Piece.decode packet offset) info := by
  have hsix : offset + 4 + 2 = offset + 6 := by rw [UInt16.add_assoc]; rfl
  simp [parse_host_ip_cfg, Piece.decode, hsix]

/-- The body of a case reads the pieces of its value one after the other. -/
theorem Case.decode_eq (packet : CommPacket) (offset val_len : UInt16)
    (info : DirectLidarStateInfo) (case : Case) :
    case.decode packet offset val_len info =
      (case.pieces val_len.toNat).foldlM (Piece.decode packet offset) info := by
  cases case with
  | memcpy member => simp [Case.decode, Case.pieces, Piece.decode]
  | parse_lidar_ip_addr =>
    have height : offset + 4 + 4 = offset + 8 := by rw [UInt16.add_assoc]; rfl
    simp [Case.decode, Case.pieces, Piece.decode, parse_lidar_state_info.parse_lidar_ip_addr,
      height]
  | parse_ntp_server_ip =>
    simp [Case.decode, Case.pieces, Piece.decode, parse_lidar_state_info.parse_ntp_server_ip]
  | parse_state_info_host_ip_cfg => exact parse_host_ip_cfg_eq ..
  | parse_point_cloud_host_ip_cfg => exact parse_host_ip_cfg_eq ..
  | parse_imu_data_host_ip_cfg => exact parse_host_ip_cfg_eq ..
  | parse_ctl_ip_cfg => exact parse_host_ip_cfg_eq ..
  | parse_log_ip_cfg => exact parse_host_ip_cfg_eq ..

/-- The piece covers its member: it is four bytes of an address, or has the
member's size. -/
def Piece.Whole (piece : Piece) : Prop :=
  if piece.dotted then piece.len = 4 ∧ piece.member.size = 16 else piece.len = piece.member.size

instance (piece : Piece) : Decidable piece.Whole := by
  unfold Piece.Whole
  infer_instance

/-- The member of the piece shows the bytes: as they are, or as an address. -/
def Piece.Shows (piece : Piece) (src : List UInt8) (info : DirectLidarStateInfo) : Prop :=
  if piece.dotted then
    string (info piece.member).1 = ip_string src ∧ Terminated (info piece.member).1
  else (info piece.member).1 = src

theorem Piece.Shows.congr {piece : Piece} {src : List UInt8} {info result : DirectLidarStateInfo}
    (h : piece.Shows src info) (heq : result piece.member = info piece.member) :
    piece.Shows src result := by
  unfold Piece.Shows at h ⊢
  rwa [heq]

theorem Piece.decode_whole {packet : CommPacket} {offset : UInt16} {piece : Piece}
    (hwhole : piece.Whole)
    (hfits : (offset + piece.start).toNat + piece.len ≤ packet.data_len.toNat)
    (info : DirectLidarStateInfo) :
    ∃ result, piece.decode packet offset info = .ok result ∧
      piece.Shows ((packet.data.add (offset + piece.start).toNat).load piece.len) result ∧
      ∀ other, other ≠ piece.member → result other = info other := by
  have hread := CommPacket.read_fits hfits
  have hlen : ((packet.data.add (offset + piece.start).toNat).load piece.len).length = piece.len := by
    simp
  unfold Piece.decode Piece.Shows
  unfold Piece.Whole at hwhole
  rw [hread, ok_bind]
  generalize (packet.data.add (offset + piece.start).toNat).load piece.len = src at hlen ⊢
  cases hdotted : piece.dotted with
  | true =>
    rw [hdotted] at hwhole
    obtain ⟨hfour, hsixteen⟩ := hwhole
    obtain ⟨hshort, hzero⟩ := ip_string_fits (hlen.trans hfour)
    obtain ⟨result, hcopy, hstring, hterminated, hothers⟩ :=
      info.strcpy_fits hzero (show _ < piece.member.size by omega)
    exact ⟨result, hcopy, ⟨hstring, hterminated⟩, hothers⟩
  | false =>
    rw [hdotted] at hwhole
    obtain ⟨result, hcopy, hbytes, hothers⟩ := info.memcpy_whole (hlen.trans hwhole)
    exact ⟨result, hcopy, hbytes, hothers⟩

/-- Pieces for different members, read one after the other, all show. -/
theorem pieces_decode_whole {packet : CommPacket} {offset : UInt16} {pieces : List Piece}
    (hwhole : ∀ piece ∈ pieces, piece.Whole) (hmembers : (pieces.map Piece.member).Nodup)
    (hfits : ∀ piece ∈ pieces,
      (offset + piece.start).toNat + piece.len ≤ packet.data_len.toNat)
    (info : DirectLidarStateInfo) :
    ∃ result, pieces.foldlM (Piece.decode packet offset) info = .ok result ∧
      (∀ piece ∈ pieces,
        piece.Shows ((packet.data.add (offset + piece.start).toNat).load piece.len) result) ∧
      ∀ other, other ∉ pieces.map Piece.member → result other = info other := by
  induction pieces generalizing info with
  | nil => exact ⟨info, rfl, by simp, by simp⟩
  | cons piece pieces ih =>
    rw [List.map_cons, List.nodup_cons] at hmembers
    obtain ⟨first, hfirst, hshows, hframe⟩ :=
      piece.decode_whole (hwhole piece (by simp)) (hfits piece (by simp)) info
    obtain ⟨result, hrest, hall, hothers⟩ := ih (fun p hp => hwhole p (by simp [hp])) hmembers.2
      (fun p hp => hfits p (by simp [hp])) first
    refine ⟨result, ?_, ?_, ?_⟩
    · rw [List.foldlM_cons, hfirst, ok_bind, hrest]
    · intro p hp
      obtain rfl | hp := List.mem_cons.mp hp
      · exact hshows.congr (hothers p.member hmembers.1)
      · exact hall p hp
    · intro other hother
      rw [List.map_cons, List.mem_cons, not_or] at hother
      rw [hothers other hother.2, hframe other hother.1]

theorem Case.layout_whole (case : Case) : ∀ piece ∈ case.layout, piece.Whole := by
  cases case with
  | memcpy member =>
    intro piece hpiece
    rw [List.mem_singleton.mp hpiece]
    rfl
  | _ => decide

theorem Case.layout_nodup (case : Case) : (case.layout.map Piece.member).Nodup := by
  cases case with
  | memcpy member => exact List.nodup_singleton _
  | _ => decide

theorem Case.layout_inside (case : Case) :
    ∀ piece ∈ case.layout, piece.start.toNat + piece.len ≤ case.wire_size := by
  cases case with
  | memcpy member =>
    intro piece hpiece
    rw [List.mem_singleton.mp hpiece]
    show 0 + member.size ≤ member.size
    omega
  | _ => decide

/-- The members of a key hold a value of the right length. -/
def Case.Holds (case : Case) (value : List UInt8) (info : DirectLidarStateInfo) : Prop :=
  ∀ piece ∈ case.layout, piece.Shows ((value.drop piece.start.toNat).take piece.len) info

theorem Case.Holds.congr {case : Case} {value : List UInt8} {info result : DirectLidarStateInfo}
    (h : case.Holds value info)
    (heq : ∀ member ∈ case.layout.map Piece.member, result member = info member) :
    case.Holds value result :=
  fun piece hpiece => (h piece hpiece).congr (heq _ (List.mem_map_of_mem hpiece))

/-- A value of the right length that lies in the payload ends up in the members of
its key, and nothing else changes. -/
theorem Case.decode_whole {packet : CommPacket} {offset val_len : UInt16} {case : Case}
    (hlen : val_len.toNat = case.wire_size)
    (hfits : offset.toNat + case.wire_size ≤ packet.data_len.toNat)
    (info : DirectLidarStateInfo) :
    ∃ result, case.decode packet offset val_len info = .ok result ∧
      case.Holds ((packet.data.add offset.toNat).load case.wire_size) result ∧
      ∀ other, other ∉ case.layout.map Piece.member → result other = info other := by
  have hdata := packet.data_len.toNat_lt
  have hstart : ∀ piece ∈ case.layout,
      (offset + piece.start).toNat = offset.toNat + piece.start.toNat := by
    intro piece hpiece
    have hinside := case.layout_inside piece hpiece
    rw [UInt16.toNat_add]
    by_cases hzero : piece.len = 0
    · have hwhole := case.layout_whole piece hpiece
      unfold Piece.Whole at hwhole
      have hsize : 0 < piece.member.size := by cases piece.member <;> decide
      split at hwhole <;> omega
    · omega
  rw [Case.decode_eq, hlen]
  have hpieces : ∀ piece ∈ case.layout,
      (offset + piece.start).toNat + piece.len ≤ packet.data_len.toNat := by
    intro piece hpiece
    have hinside := case.layout_inside piece hpiece
    rw [hstart piece hpiece]
    omega
  obtain ⟨result, hdecode, hshows, hothers⟩ :=
    pieces_decode_whole case.layout_whole case.layout_nodup hpieces info
  refine ⟨result, hdecode, ?_, hothers⟩
  intro piece hpiece
  have hinside := case.layout_inside piece hpiece
  have hpart := hshows piece hpiece
  rw [hstart piece hpiece] at hpart
  rw [Pointer.load, load_take_drop _ hinside, Pointer.add_offset, Nat.add_assoc]
  exact hpart

end parse_lidar_state_info

end livox_lidar
