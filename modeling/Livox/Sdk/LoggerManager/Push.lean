import Livox.Sdk.LoggerManager
import Livox.Sdk.ParseLidarStateInfo.Layout
import Livox.Sdk.SdkProtocol.Frame

open checked execution memory ordered_map

namespace livox_lidar

namespace logger_manager

/-- The length of the data that the message tells of. -/
def told_length (packet : CommPacket) : UInt16 := packet.data.u16 14

/-- The header of the message and the data that it tells of are inside the payload. -/
def MessageFits (packet : CommPacket) : Prop :=
  16 + (told_length packet).toNat ≤ packet.data_len.toNat

section Reads

variable {packet : CommPacket} {offset : UInt16} {flag : UInt8}

theorem read_u8_completes_iff :
    (∃ b, read_u8 packet offset = .ok b) ↔ offset.toNat + 1 ≤ packet.data_len.toNat :=
  map_completes_iff.trans CommPacket.read_completes_iff

theorem read_u32_completes_iff :
    (∃ b, read_u32 packet offset = .ok b) ↔ offset.toNat + 4 ≤ packet.data_len.toNat :=
  map_completes_iff.trans CommPacket.read_completes_iff

theorem read_u8_fits (h : offset.toNat + 1 ≤ packet.data_len.toNat) :
    read_u8 packet offset = .ok (packet.data.u8 offset.toNat) := by
  rw [read_u8, CommPacket.read_fits h]
  simp [Except.map, Pointer.load, Pointer.add, Pointer.u8, load, value]

theorem read_u32_fits (h : offset.toNat + 4 ≤ packet.data_len.toNat) :
    read_u32 packet offset = .ok (packet.data.u32 offset.toNat) := by
  rw [read_u32, CommPacket.read_fits h]
  rfl

/-- What is copied of a message that fits. -/
theorem request_of_fits (h : MessageFits packet) :
    request packet flag = .ok
      { log_type := packet.data.u8 0, file_index := packet.data.u8 1, flag
        trans_index := packet.data.u32 10
        data := (packet.data.add 16).load (told_length packet).toNat } := by
  rw [MessageFits] at h
  have hlength : data_length packet = .ok (told_length packet) :=
    CommPacket.read_u16_fits (show 14 + 2 ≤ _ by omega)
  have htype : log_type packet = .ok (packet.data.u8 0) := read_u8_fits (show 0 + 1 ≤ _ by omega)
  have hfile : file_index packet = .ok (packet.data.u8 1) := read_u8_fits (show 1 + 1 ≤ _ by omega)
  have htrans : trans_index packet = .ok (packet.data.u32 10) :=
    read_u32_fits (show 10 + 4 ≤ _ by omega)
  have hdata : packet.read 16 (told_length packet).toNat =
      .ok ((packet.data.add 16).load (told_length packet).toNat) := CommPacket.read_fits h
  rw [request, hlength, ok_bind, htype, ok_bind, hfile, ok_bind, htrans, ok_bind, hdata, ok_bind]

theorem request_completes_iff : (∃ req, request packet flag = .ok req) ↔ MessageFits packet := by
  constructor
  · rintro ⟨req, h⟩
    obtain ⟨length, hlength, h⟩ := bind_eq_ok_iff.mp h
    obtain ⟨_, _, h⟩ := bind_eq_ok_iff.mp h
    obtain ⟨_, _, h⟩ := bind_eq_ok_iff.mp h
    obtain ⟨_, _, h⟩ := bind_eq_ok_iff.mp h
    obtain ⟨data, hdata, -⟩ := bind_eq_ok_iff.mp h
    have hheader : 14 + 2 ≤ packet.data_len.toNat := by
      obtain ⟨two, htwo, -⟩ := bind_eq_ok_iff.mp hlength
      exact CommPacket.read_completes_iff.mp ⟨two, htwo⟩
    have htold : data_length packet = .ok (told_length packet) := CommPacket.read_u16_fits hheader
    rw [htold] at hlength
    obtain rfl := Except.ok.inj hlength
    exact CommPacket.read_completes_iff.mp ⟨data, hdata⟩
  · intro h
    exact ⟨_, request_of_fits h⟩

/-- The data that are copied lie in the payload. -/
theorem request_data_in_payload {req : DeviceLoggerFilePushRequest} (h : request packet flag = .ok req) :
    req.data <:+: packet.payload := by
  have hfits := request_completes_iff.mp ⟨req, h⟩
  rw [request_of_fits hfits] at h
  obtain rfl := Except.ok.inj h
  have hslice : (packet.payload.drop 16).take (told_length packet).toNat =
      (packet.data.add 16).load (told_length packet).toNat :=
    load_take_drop packet.data.block hfits
  rw [← hslice]
  exact (List.take_prefix _ _).isInfix.trans (List.drop_suffix _ _).isInfix

end Reads

end logger_manager

namespace LoggerManager

open logger_manager

/-- No handler is a null pointer, and there is a parser once the log is enabled. -/
structure Ready (s : LoggerManager) : Prop where
  handlers : ∀ handle : UInt32, s.handlers[handle]? ≠ some none
  comm_port : s.log_enable = true → s.comm_port = true

/-- The message can be handled: its flag lies in the payload, what is sent back does, and what is
stored does where there is a handler; a message that creates a file has or can be given one. -/
def PushFits (s : LoggerManager) (handle : UInt32) (packet : CommPacket) : Prop :=
  4 ≤ packet.data_len.toNat ∧
    (packet.data.u8 3 &&& 1 ≠ 0 → 14 ≤ packet.data_len.toNat) ∧
    if packet.data.u8 3 &&& ((1 : UInt8) <<< 1) ≠ 0 then
      (handle ∈ s.handlers ∨ handle ∈ s.devices_info) ∧ MessageFits packet
    else handle ∈ s.handlers → MessageFits packet

/-- The parser has accepted the packet, and it is a log message. -/
def Pushed (s : LoggerManager) (crc : FastCRC) (buf : Option Pointer) (buf_size : UInt32)
    (packet : CommPacket) : Prop :=
  s.log_enable = true ∧ ∃ data, buf = some data ∧ buf_size ≠ 0 ∧
    (parse_comm_stream crc data buf_size).1 = some packet ∧ packet.cmd_id = kCommandIDLidarPushLog

/-- Whatever has come to a queue is a part of the payload. -/
def Stores (s : LoggerManager) (payload : List UInt8) (t : LoggerManager) : Prop :=
  ∀ (handle : UInt32) (after : LoggerHandler), t.handlers[handle]? = some (some after) →
    ∀ write_buff ∈ after.queue, write_buff.data <:+: payload ∨
      ∃ before, s.handlers[handle]? = some (some before) ∧ write_buff ∈ before.queue

section Push

variable {s t : LoggerManager} {handle : UInt32} {packet : CommPacket} {flag : UInt8}

theorem Ready.insert (h : s.Ready) (handle : UInt32) (handler : LoggerHandler) :
    Ready { s with handlers := s.handlers.insert handle (some handler) } where
  handlers other := by
    rw [lookup_insert]
    split
    · simp
    · exact h.handlers other
  comm_port := h.comm_port

theorem Ready.make_handler (h : s.Ready) (handle : UInt32) : (s.make_handler handle).Ready := by
  unfold LoggerManager.make_handler
  split
  · exact h
  split
  · exact h.insert handle _
  · exact h

theorem mem_handlers_make_handler :
    handle ∈ (s.make_handler handle).handlers ↔ handle ∈ s.handlers ∨ handle ∈ s.devices_info := by
  unfold LoggerManager.make_handler
  split
  case isTrue hmem => exact iff_of_true hmem (.inl hmem)
  case isFalse hnot =>
    split
    case h_1 info hinfo =>
      exact iff_of_true Std.TreeMap.mem_insert_self (.inr (mem_iff_lookup.mpr ⟨info, hinfo⟩))
    case h_2 hnone =>
      have hdevice : handle ∉ s.devices_info := by
        rintro hmem
        obtain ⟨info, hinfo⟩ := mem_iff_lookup.mp hmem
        rw [hnone] at hinfo
        cases hinfo
      exact iff_of_false hnot (not_or.mpr ⟨hnot, hdevice⟩)

theorem deref_handler_completes_iff (h : s.Ready) :
    (∃ handler, deref ((s.handlers[handle]?).getD none) = .ok handler) ↔ handle ∈ s.handlers := by
  rw [mem_iff_lookup]
  have hnull := h.handlers handle
  rcases hlookup : s.handlers[handle]? with _ | _ | handler
  · exact iff_of_false (by rintro ⟨_, ⟨⟩⟩) (by rintro ⟨_, ⟨⟩⟩)
  · exact absurd hlookup hnull
  · exact iff_of_true ⟨handler, rfl⟩ ⟨_, rfl⟩

theorem store_log_bag_completes_iff (h : s.Ready) {purpose : Flag} :
    (∃ t, s.store_log_bag handle packet flag purpose = .ok t) ↔
      handle ∈ s.handlers ∧ MessageFits packet := by
  refine bind_completes_iff (deref_handler_completes_iff h) fun handler _ => ?_
  constructor
  · rintro ⟨t, h⟩
    obtain ⟨req, hreq, -⟩ := bind_eq_ok_iff.mp h
    exact request_completes_iff.mp ⟨req, hreq⟩
  · intro hfits
    exact ⟨_, bind_eq_ok_iff.mpr ⟨_, request_of_fits hfits, rfl⟩⟩

theorem Ready.store_log_bag (h : s.Ready) {purpose : Flag}
    (hstore : s.store_log_bag handle packet flag purpose = .ok t) : t.Ready := by
  obtain ⟨handler, -, hstore⟩ := bind_eq_ok_iff.mp hstore
  obtain ⟨req, -, hstore⟩ := bind_eq_ok_iff.mp hstore
  cases hstore
  exact h.insert handle _

theorem on_logger_create_completes_iff (h : s.Ready) :
    (∃ t, s.on_logger_create handle packet flag = .ok t) ↔
      (handle ∈ s.handlers ∨ handle ∈ s.devices_info) ∧ MessageFits packet := by
  rw [on_logger_create, store_log_bag_completes_iff (h.make_handler handle), mem_handlers_make_handler]

/-- Of a message that is not stored the log type is read, which lies in the payload with the flag. -/
theorem log_type_completes (h : 4 ≤ packet.data_len.toNat) : ∃ b, log_type packet = .ok b :=
  read_u8_completes_iff.mpr (show 0 + 1 ≤ _ by omega)

theorem on_logger_stopped_completes_iff (h : s.Ready) (hlen : 4 ≤ packet.data_len.toNat) :
    (∃ t, s.on_logger_stopped handle packet flag = .ok t) ↔
      (handle ∈ s.handlers → MessageFits packet) := by
  unfold on_logger_stopped
  split
  case isTrue hmem =>
    rw [map_completes_iff, store_log_bag_completes_iff h, forall_prop_of_true hmem,
      and_iff_right hmem]
  case isFalse hnot =>
    exact iff_of_true (map_completes_iff.mpr (log_type_completes hlen)) fun hmem => absurd hmem hnot

theorem on_logger_transfer_completes_iff (h : s.Ready) (hlen : 4 ≤ packet.data_len.toNat) :
    (∃ t, s.on_logger_transfer handle packet flag = .ok t) ↔
      (handle ∈ s.handlers → MessageFits packet) := by
  unfold on_logger_transfer
  split
  case isTrue hmem =>
    rw [store_log_bag_completes_iff h, forall_prop_of_true hmem, and_iff_right hmem]
  case isFalse hnot =>
    exact iff_of_true (map_completes_iff.mpr (log_type_completes hlen)) fun hmem => absurd hmem hnot

theorem acknowledge_completes_iff :
    (∃ t, s.acknowledge handle packet flag = .ok t) ↔
      (flag &&& 1 ≠ 0 → 14 ≤ packet.data_len.toNat) := by
  unfold acknowledge
  split
  case isTrue hasked =>
    rw [forall_prop_of_true hasked]
    constructor
    · rintro ⟨t, h⟩
      obtain ⟨_, _, h⟩ := bind_eq_ok_iff.mp h
      obtain ⟨_, _, h⟩ := bind_eq_ok_iff.mp h
      obtain ⟨index, hindex, -⟩ := bind_eq_ok_iff.mp h
      exact read_u32_completes_iff.mp ⟨index, hindex⟩
    · intro hlen
      have htype : log_type packet = .ok (packet.data.u8 0) :=
        read_u8_fits (show 0 + 1 ≤ _ by omega)
      have hfile : file_index packet = .ok (packet.data.u8 1) :=
        read_u8_fits (show 1 + 1 ≤ _ by omega)
      have htrans : trans_index packet = .ok (packet.data.u32 10) :=
        read_u32_fits (show 10 + 4 ≤ _ by omega)
      rw [htype, ok_bind, hfile, ok_bind, htrans, ok_bind]
      exact ⟨_, rfl⟩
  case isFalse hnot => exact iff_of_true ⟨s, rfl⟩ fun hasked => absurd hasked hnot

/-- An answer changes nothing but what has been sent. -/
theorem acknowledge_eq_ok (h : s.acknowledge handle packet flag = .ok t) :
    ∃ sent, t = { s with sent } := by
  unfold acknowledge at h
  split at h
  · obtain ⟨_, _, h⟩ := bind_eq_ok_iff.mp h
    obtain ⟨_, _, h⟩ := bind_eq_ok_iff.mp h
    obtain ⟨_, _, h⟩ := bind_eq_ok_iff.mp h
    cases h
    exact ⟨_, rfl⟩
  · cases h
    exact ⟨s.sent, rfl⟩

theorem Ready.acknowledge (h : s.Ready) (hack : s.acknowledge handle packet flag = .ok t) :
    t.Ready := by
  obtain ⟨sent, rfl⟩ := acknowledge_eq_ok hack
  exact ⟨h.handlers, h.comm_port⟩

theorem flag_completes_iff :
    (∃ b, logger_manager.flag packet = .ok b) ↔ 4 ≤ packet.data_len.toNat :=
  read_u8_completes_iff

theorem push_log_completes_iff (h : s.Ready) :
    (∃ t, s.push_log handle packet = .ok t) ↔ s.PushFits handle packet := by
  refine bind_completes_iff flag_completes_iff fun b hb => ?_
  have hlen := flag_completes_iff.mp ⟨b, hb⟩
  rw [show logger_manager.flag packet = .ok (packet.data.u8 3) from read_u8_fits hlen] at hb
  obtain rfl := Except.ok.inj hb
  refine bind_completes_iff acknowledge_completes_iff fun t hack => ?_
  have hready := h.acknowledge hack
  obtain ⟨sent, rfl⟩ := acknowledge_eq_ok hack
  split
  · exact on_logger_create_completes_iff hready
  split
  · exact on_logger_stopped_completes_iff hready hlen
  · exact on_logger_transfer_completes_iff hready hlen

/-- What a push does once it has been answered: nothing, or it stores the message in the handler of
the device, which it may have made, and may wake up the thread that deletes. -/
theorem push_log_cases (h : s.push_log handle packet = .ok t) :
    ∃ sent, t = { s with sent } ∨
      ∃ u v flag purpose cond, (u = { s with sent } ∨ u = make_handler { s with sent } handle) ∧
        u.store_log_bag handle packet flag purpose = .ok v ∧ t = { v with cond } := by
  obtain ⟨flag, -, h⟩ := bind_eq_ok_iff.mp h
  obtain ⟨u, hack, h⟩ := bind_eq_ok_iff.mp h
  obtain ⟨sent, rfl⟩ := acknowledge_eq_ok hack
  refine ⟨sent, ?_⟩
  split at h
  · exact .inr ⟨_, t, flag, .kCreateFile, t.cond, .inr rfl, h, rfl⟩
  split at h
  · unfold on_logger_stopped at h
    split at h
    · obtain ⟨v, hstore, rfl⟩ := map_eq_ok_iff.mp h
      exact .inr ⟨_, v, flag, .kEndFile, true, .inl rfl, hstore, rfl⟩
    · obtain ⟨_, _, rfl⟩ := map_eq_ok_iff.mp h
      exact .inl rfl
  · unfold on_logger_transfer at h
    split at h
    · exact .inr ⟨_, t, flag, .kTransferData, t.cond, .inl rfl, h, rfl⟩
    · obtain ⟨_, _, rfl⟩ := map_eq_ok_iff.mp h
      exact .inl rfl

theorem Ready.push_log (h : s.Ready) (hpush : s.push_log handle packet = .ok t) : t.Ready := by
  obtain ⟨sent, rfl | ⟨u, v, flag, purpose, cond, hu, hstore, rfl⟩⟩ := push_log_cases hpush
  · exact ⟨h.handlers, h.comm_port⟩
  · have hsent : Ready { s with sent } := ⟨h.handlers, h.comm_port⟩
    have hready : u.Ready := by
      rcases hu with rfl | rfl
      · exact hsent
      · exact hsent.make_handler handle
    have hv := hready.store_log_bag hstore
    exact ⟨hv.handlers, hv.comm_port⟩

end Push

section Stores

variable {s t u : LoggerManager} {handle : UInt32} {packet : CommPacket} {flag : UInt8}
  {payload : List UInt8}

theorem stores_of_handlers (h : t.handlers = s.handlers) : s.Stores payload t := by
  intro other after hafter write_buff hmem
  rw [h] at hafter
  exact .inr ⟨after, hafter, hmem⟩

theorem Stores.trans (hst : s.Stores payload t) (htu : t.Stores payload u) : s.Stores payload u := by
  intro other after hafter write_buff hmem
  rcases htu other after hafter write_buff hmem with hpart | ⟨middle, hmiddle, hmem⟩
  · exact .inl hpart
  · exact hst other middle hmiddle write_buff hmem

theorem make_handler_stores : s.Stores payload (s.make_handler handle) := by
  unfold make_handler
  split
  · exact stores_of_handlers rfl
  split
  · intro other after hafter write_buff hmem
    rw [lookup_insert] at hafter
    split at hafter
    · cases hafter
      cases hmem
    · exact .inr ⟨after, hafter, hmem⟩
  · exact stores_of_handlers rfl

theorem lookup_of_deref {handler : LoggerHandler}
    (h : deref ((s.handlers[handle]?).getD none) = .ok handler) :
    s.handlers[handle]? = some (some handler) := by
  rcases hlookup : s.handlers[handle]? with _ | _ | held
  · rw [hlookup] at h
    cases h
  · rw [hlookup] at h
    cases h
  · rw [hlookup] at h
    cases h
    rfl

theorem store_log_bag_stores {purpose : Flag}
    (h : s.store_log_bag handle packet flag purpose = .ok t) : s.Stores packet.payload t := by
  obtain ⟨handler, hderef, h⟩ := bind_eq_ok_iff.mp h
  obtain ⟨req, hreq, h⟩ := bind_eq_ok_iff.mp h
  cases h
  intro other after hafter write_buff hmem
  rw [lookup_insert] at hafter
  split at hafter
  case isTrue heq =>
    subst heq
    cases hafter
    rcases List.mem_append.mp hmem with hold | hnew
    · exact .inr ⟨handler, lookup_of_deref hderef, hold⟩
    · obtain rfl := List.mem_singleton.mp hnew
      exact .inl (request_data_in_payload hreq)
  case isFalse => exact .inr ⟨after, hafter, hmem⟩

theorem push_log_stores (h : s.push_log handle packet = .ok t) : s.Stores packet.payload t := by
  obtain ⟨sent, rfl | ⟨u, v, flag, purpose, cond, hu, hstore, rfl⟩⟩ := push_log_cases h
  · exact stores_of_handlers rfl
  · have hmade : s.Stores packet.payload u := by
      rcases hu with rfl | rfl
      · exact stores_of_handlers rfl
      · have hsent : s.Stores packet.payload { s with sent } := stores_of_handlers rfl
        exact hsent.trans make_handler_stores
    exact (hmade.trans (store_log_bag_stores hstore)).trans (stores_of_handlers rfl)

end Stores

section Handler

variable {s t : LoggerManager} {crc : FastCRC} {handle : UInt32} {buf : Option Pointer}
  {buf_size : UInt32}

theorem pushed_eq_ok (h : s.Ready) (crc : FastCRC) (buf : Option Pointer) (buf_size : UInt32) :
    ∃ pushed, s.pushed crc buf buf_size = .ok pushed ∧
      ∀ packet, pushed = some packet ↔ s.Pushed crc buf buf_size packet := by
  unfold pushed Pushed
  by_cases henable : s.log_enable = true
  swap
  · exact ⟨none, if_pos (Bool.eq_false_iff.mpr henable), by simp [henable]⟩
  rw [if_neg (by simp [henable])]
  cases buf with
  | none => exact ⟨none, rfl, by simp⟩
  | some data =>
    by_cases hsize : buf_size = 0
    · exact ⟨none, if_pos hsize, by simp [hsize]⟩
    · have hport : ¬ s.comm_port = false := by simp [h.comm_port henable]
      refine ⟨_, (if_neg hsize).trans (if_neg hport), fun packet => ?_⟩
      simp [Option.filter_eq_some_iff, henable, hsize]

/-- A buffer is handled exactly when the log message in it, if there is one, can be. -/
theorem handler_completes_iff (h : s.Ready) :
    (∃ t, s.handler crc handle buf buf_size = .ok t) ↔
      ∀ packet, s.Pushed crc buf buf_size packet → s.PushFits handle packet := by
  obtain ⟨pushed, hpushed, hiff⟩ := pushed_eq_ok h crc buf buf_size
  simp only [handler, hpushed, ok_bind, ← hiff]
  cases pushed with
  | none => simp
  | some packet => simp [push_log_completes_iff h]

theorem handler_stores (h : s.Ready) (hhandler : s.handler crc handle buf buf_size = .ok t)
    {packet : CommPacket} (hpacket : s.Pushed crc buf buf_size packet) :
    s.Stores packet.payload t := by
  obtain ⟨pushed, hpushed, hiff⟩ := pushed_eq_ok h crc buf buf_size
  obtain rfl := (hiff packet).mpr hpacket
  rw [handler, hpushed] at hhandler
  exact push_log_stores hhandler

theorem Ready.handler (h : s.Ready) (hhandler : s.handler crc handle buf buf_size = .ok t) :
    t.Ready := by
  obtain ⟨pushed, hpushed, -⟩ := pushed_eq_ok h crc buf buf_size
  rw [LoggerManager.handler, hpushed] at hhandler
  cases pushed with
  | none =>
    cases hhandler
    exact h
  | some packet => exact h.push_log hhandler

end Handler

section Step

variable {s t : LoggerManager}

theorem ready_new : new.Ready where
  handlers := by simp [new]
  comm_port := by simp [new]

theorem Ready.init (h : s.Ready) (lidar_logger_cfg : Option LivoxLidarLoggerCfg) (made : Bool) :
    (s.init lidar_logger_cfg made).2.Ready := by
  unfold LoggerManager.init
  cases lidar_logger_cfg with
  | none => exact ⟨h.handlers, by simp⟩
  | some cfg =>
    dsimp only
    split
    · exact ⟨h.handlers, by simp⟩
    split
    · exact ⟨h.handlers, by simp⟩
    simp only [init_logger_save_path]
    cases made with
    | false =>
      simp only [Bool.false_eq_true, if_false]
      split <;> exact ⟨h.handlers, fun _ => rfl⟩
    | true =>
      simp only [if_true]
      split <;> exact ⟨h.handlers, fun _ => rfl⟩

theorem Ready.save_to_file (h : s.Ready) {handle : UInt32} {e : LoggerEvent}
    (hsave : s.save_to_file handle e = .ok t) : t.Ready := by
  unfold LoggerManager.save_to_file at hsave
  split at hsave
  · obtain ⟨handler, -, hsave⟩ := bind_eq_ok_iff.mp hsave
    cases hsave
    exact h.insert handle handler
  · cases hsave
    exact h

theorem stop_all_logger_handlers (s : LoggerManager) : s.stop_all_logger.handlers = s.handlers := by
  unfold stop_all_logger
  split
  case isTrue => rfl
  case isFalse henable =>
    clear henable
    generalize s.devices_info.keys = handles
    induction handles generalizing s with
    | nil => rfl
    | cons handle handles ih => exact ih (s.stop_logger handle kLivoxLidarRealTimeLog)

theorem Ready.destory (h : s.Ready) (hdestory : s.destory = .ok t) : t.Ready := by
  unfold LoggerManager.destory at hdestory
  split at hdestory
  · cases hdestory
    exact h
  split at hdestory
  · cases hdestory
  · cases hdestory
    refine ⟨fun handle => ?_, fun henable => by cases henable⟩
    show (stop_all_logger _).handlers[handle]? ≠ some none
    rw [stop_all_logger_handlers]
    simp

theorem Ready.step {crc : FastCRC} {e : LoggerManagerEvent} (h : s.Ready)
    (hstep : s.step crc e = .ok t) : t.Ready := by
  cases e with
  | init lidar_logger_cfg made =>
    cases hstep
    exact h.init lidar_logger_cfg made
  | add_device handle detection_data =>
    change s.add_device handle detection_data = .ok t at hstep
    unfold add_device at hstep
    split at hstep
    · cases hstep
      exact h
    · obtain ⟨sn, -, hstep⟩ := bind_eq_ok_iff.mp hstep
      cases hstep
      exact ⟨h.handlers, h.comm_port⟩
  | remove_device handle =>
    cases hstep
    unfold remove_device
    split
    · exact ⟨h.handlers, h.comm_port⟩
    · exact h
  | start_logger handle log_type =>
    cases hstep
    unfold start_logger
    split
    · exact h
    · have hmade := h.make_handler handle
      exact ⟨hmade.handlers, hmade.comm_port⟩
  | stop_logger handle log_type =>
    cases hstep
    exact ⟨h.handlers, h.comm_port⟩
  | handler handle buf buf_size => exact h.handler hstep
  | swap handle => exact h.save_to_file hstep
  | write handle file_system => exact h.save_to_file hstep
  | destory => exact h.destory hstep

/-- A push is handled without following a null pointer and without touching a byte outside the
payload, of which all that is stored is a part. -/
def HandlesSafely (crc : FastCRC) (s : LoggerManager) : LoggerManagerEvent → Prop
  | .handler handle buf buf_size => ∃ t, s.handler crc handle buf buf_size = .ok t ∧
      ∀ packet, s.Pushed crc buf buf_size packet → s.Stores packet.payload t
  | _ => True

def PushesFit (crc : FastCRC) (s : LoggerManager) : LoggerManagerEvent → Prop
  | .handler handle buf buf_size =>
      ∀ packet, s.Pushed crc buf buf_size packet → s.PushFits handle packet
  | _ => True

theorem handlesSafely_iff {crc : FastCRC} (h : s.Ready) (e : LoggerManagerEvent) :
    s.HandlesSafely crc e ↔ s.PushesFit crc e := by
  cases e with
  | handler handle buf buf_size =>
    refine Iff.trans ?_ (handler_completes_iff h)
    constructor
    · rintro ⟨t, hhandler, -⟩
      exact ⟨t, hhandler⟩
    · rintro ⟨t, hhandler⟩
      exact ⟨t, hhandler, fun packet => handler_stores h hhandler⟩
  | _ => exact Iff.rfl

/-- Along every run, from whatever device a log message comes and whatever is in it, handling it is
safe exactly when it fits. -/
theorem push_handling_safe_iff (crc : FastCRC) (es : List LoggerManagerEvent) :
    StepsSatisfy (step crc) (fun s e => s.HandlesSafely crc e ↔ s.PushesFit crc e) new es := by
  have hready : StepsSatisfy (step crc) (fun _ _ => True) new es :=
    stepsSatisfy_of_forall fun _ _ => trivial
  refine hready.of_invariant (fun s e t h _ hstep => h.step hstep) ?_ ready_new
  intro s e h _
  exact handlesSafely_iff h e

end Step

/-- A message of 16 bytes that is to create a file, in its frame. -/
def create_message : Pointer where
  block := fun i =>
    ([0xAA, 0, 40, 0, 0, 0, 0, 0, 0, 3, 0, 1, 0, 0, 0, 0, 0, 0, 243, 148, 30, 254, 231, 140, 0, 0, 0, 2]
      : List UInt8)[i]?.getD 0
  offset := 0

/-- With the log enabled the message is accepted from a device that has not been detected. -/
theorem create_message_pushed (s : LoggerManager) (h : s.log_enable = true) :
    s.Pushed fast_crc (some create_message) 40 (accepted_packet create_message) := by
  have hheader : HeaderAccepted fast_crc create_message 40 :=
    { received := by decide, sof := by decide, version := by decide, length := by decide
      crc16_h := by decide +kernel }
  have hdata : DataAccepted fast_crc create_message := by
    unfold DataAccepted
    decide +kernel
  have hparse : parse_comm_stream fast_crc create_message 40 =
      (some (accepted_packet create_message), accepted_spans create_message) :=
    parse_comm_stream_eq_some_iff.mpr ⟨hheader, hdata, rfl, rfl⟩
  exact ⟨h, create_message, rfl, by decide, by rw [hparse], by decide⟩

/-- Its handler is a null pointer. -/
theorem unknown_device_not_safe :
    ∃ s, exec (step fast_crc) new [.init (some ⟨true, 1, []⟩) true] = .ok s ∧
      ¬ s.HandlesSafely fast_crc (.handler 1 (some create_message) 40) := by
  refine ⟨(new.init (some ⟨true, 1, []⟩) true).2, rfl, ?_⟩
  rw [handlesSafely_iff (ready_new.init _ _)]
  intro hfits
  have hpushed := create_message_pushed (new.init (some ⟨true, 1, []⟩) true).2 rfl
  obtain ⟨-, -, hmessage⟩ := hfits _ hpushed
  rw [if_pos (by decide)] at hmessage
  rcases hmessage.1 with hhandler | hdevice
  · exact Std.TreeMap.not_mem_emptyc hhandler
  · exact Std.TreeMap.not_mem_emptyc hdevice

end LoggerManager

end livox_lidar
