import Livox.Library.Exec
import Livox.Library.Slices
import Livox.Sdk.Upgrade.Responses

open checked execution slices

namespace livox_lidar

/-- The bytes of a chunk with their place in the image. -/
def LivoxLidarXferFirmwareResquest.piece (chunk : LivoxLidarXferFirmwareResquest) : Piece UInt8 :=
  ⟨chunk.offset.toNat, chunk.data⟩

namespace firmware_transfer

/-- What happens on the way to the device and back. -/
inductive Entry where
  | sent (request : Request)
  | answered (request : Request) (status : LivoxLidarStatus) (response : Response)
  deriving DecidableEq

/-- The upgrader, the request that it has made and that has not been answered yet, and the
log of the requests and their answers, the newest first. -/
structure State where
  upgrader : LivoxLidarUpgrader
  waiting : Option Request
  log : List Entry

/-- The chunks acknowledged since the last request to start. -/
def acked_chunks : List Entry → List LivoxLidarXferFirmwareResquest
  | [] => []
  | .sent request :: log => if request.handler = .start_upgrade then [] else acked_chunks log
  | .answered (.livox_lidar_xfer_firmware chunk) status response :: log =>
    if status = .kLivoxLidarStatusSuccess ∧ response.ret_code = 0 then acked_chunks log ++ [chunk]
    else acked_chunks log
  | .answered .. :: log => acked_chunks log

/-- The answers in a row, up to the last request, that count and that a request followed. -/
def retries (counts : LivoxLidarStatus → Response → Prop) [∀ status, DecidablePred (counts status)] :
    List Entry → Nat
  | .sent _ :: .answered _ status response :: log =>
    if counts status response then retries counts log + 1 else 0
  | _ => 0

/-- The request came to no success. -/
def Failed (status : LivoxLidarStatus) (_ : Response) : Prop := status ≠ .kLivoxLidarStatusSuccess

/-- The request came to no success, or the device refused it. -/
def Unsuccessful (status : LivoxLidarStatus) (response : Response) : Prop :=
  status ≠ .kLivoxLidarStatusSuccess ∨ response.ret_code ≠ 0

instance (status : LivoxLidarStatus) : DecidablePred (Failed status) := fun _ =>
  inferInstanceAs (Decidable (_ ≠ _))

instance (status : LivoxLidarStatus) : DecidablePred (Unsuccessful status) := fun _ =>
  inferInstanceAs (Decidable (_ ∨ _))

/-- A request that is made after one that failed is the same request. -/
def RetryRepeats : List Entry → Prop
  | .sent request :: .answered failed status _ :: _ =>
    status ≠ .kLivoxLidarStatusSuccess → request = failed
  | _ => True

/-- The request to complete the transfer is made when the chunks are the whole image, and
none to transfer a chunk after it. -/
def CompletesCovered (image : List UInt8) : List Entry → Prop
  | .sent (.livox_lidar_complete_xfer_firmware _) :: log =>
    ((acked_chunks log).map fun chunk => chunk.data).flatten = image
  | .sent (.livox_lidar_xfer_firmware _) :: log =>
    ∀ checksum, .sent (.livox_lidar_complete_xfer_firmware checksum) ∉ log
  | _ => True

/-- The retries stay below the limit of the phase that the last request belongs to. -/
def RetriesBelow (counts : LivoxLidarStatus → Response → Prop)
    [∀ status, DecidablePred (counts status)] : List Entry → Prop
  | .sent request :: log =>
    retries counts (.sent request :: log) < request.try_count_limit.toNat
  | _ => True

/-- What has been sent and acknowledged at the end of a log is the image in order, with as
many retries as are allowed for the answers that count. -/
structure TransferredInOrder (counts : LivoxLidarStatus → Response → Prop)
    [∀ status, DecidablePred (counts status)] (image : List UInt8) (log : List Entry) : Prop where
  in_order : InOrder 1024 image ((acked_chunks log).map fun chunk => chunk.piece)
  lengths : ∀ chunk ∈ acked_chunks log, chunk.length.toNat = chunk.data.length
  repeats : RetryRepeats log
  covered : CompletesCovered image log
  retries : RetriesBelow counts log

namespace State

/-- The state after an event of the upgrader. -/
def after (log : List Entry) (outcome : Outcome) : State where
  upgrader := outcome.upgrader
  waiting := outcome.request
  log := outcome.request.toList.map .sent ++ log

/-- The state after the start thread. -/
def start (firmware : Firmware) (handle : UInt32) : State :=
  after [] ((LivoxLidarUpgrader.construct firmware handle).fsm_event_handler
    .kLivoxLidarEventRequestUpgrade 10)

/-- The request that is waited for is answered, or times out. -/
def step (s : State) (answer : LivoxLidarStatus × Response) : Checked State :=
  match s.waiting with
  | none => .error .precondition
  | some request =>
    .ok (after (.answered request answer.1 answer.2 :: s.log)
      (s.upgrader.respond request answer.1 answer.2))

variable {firmware : Firmware} {s : State} {request : Request} {status : LivoxLidarStatus}
  {response : Response} {v : LivoxLidarUpgrader} {next : Option Request}

/-- How much of the image the chunks make up that have been acknowledged, while a request is
waited for. -/
def Reached (u : LivoxLidarUpgrader) (count : Nat) : Request → Prop
  | .livox_lidar_start_upgrade _ | .livox_lidar_start_upgrade_v3 _ => count = 0
  | .livox_lidar_xfer_firmware _ => u.read_offset.toNat = count * 1024
  | _ => u.firmware.data.length ≤ count * 1024

/-- The acknowledged chunks are the first pieces of the image, as many as have been reached
when a request is waited for. -/
def Acknowledged (u : LivoxLidarUpgrader) (waiting : Option Request) (log : List Entry) : Prop :=
  ∃ count, (acked_chunks log).map (fun chunk => chunk.piece) =
      pieces 1024 u.firmware.data count ∧
    (∀ i < count, i * 1024 < u.firmware.data.length) ∧
    ∀ request, waiting = some request → Reached u count request

/-- What holds while the answer to a request is waited for. -/
structure Waits (s : State) (request : Request) : Prop where
  awaits : s.upgrader.Awaits request
  sent : ∃ log, s.log = .sent request :: log
  retries : retries Failed s.log = s.upgrader.try_count.toNat
  below : s.upgrader.try_count < request.try_count_limit
  unsent : request.state = .kLivoxLidarUpgradeRequest ∨
      request.state = .kLivoxLidarUpgradeXferFirmware →
    ∀ checksum, .sent (.livox_lidar_complete_xfer_firmware checksum) ∉ s.log

/-- What the state of the upgrader says of the log. -/
structure Transferring (firmware : Firmware) (s : State) : Prop where
  firmware : s.upgrader.firmware = firmware
  read_length : s.upgrader.read_length = 1024
  acknowledged : Acknowledged s.upgrader s.waiting s.log
  lengths : ∀ chunk ∈ acked_chunks s.log, chunk.length.toNat = chunk.data.length
  repeats : RetryRepeats s.log
  waits : ∀ request, s.waiting = some request → Waits s request
  ended : s.waiting = none → ∃ request status response log,
    s.log = .answered request status response :: log

/-- Before the transfer nothing has been reached. -/
theorem reached_start {u : LivoxLidarUpgrader} {count : Nat}
    (hstate : request.state = .kLivoxLidarUpgradeRequest) :
    Reached u count request ↔ count = 0 := by
  cases request with
  | livox_lidar_start_upgrade start | livox_lidar_start_upgrade_v3 start => exact Iff.rfl
  | livox_lidar_xfer_firmware chunk | livox_lidar_complete_xfer_firmware checksum
  | livox_lidar_get_upgrade_progress | livox_lidar_request_reboot reboot => cases hstate

section Log

theorem retries_sent_answered (counts : LivoxLidarStatus → Response → Prop)
    [∀ status, DecidablePred (counts status)] (request answered : Request)
    (status : LivoxLidarStatus) (response : Response) (log : List Entry) :
    retries counts (.sent request :: .answered answered status response :: log) =
      if counts status response then retries counts log + 1 else 0 := rfl

/-- An answer that acknowledges no chunk. -/
theorem acked_chunks_answered {log : List Entry}
    (hother : ¬ (request.state = .kLivoxLidarUpgradeXferFirmware ∧
      status = .kLivoxLidarStatusSuccess ∧ response.ret_code = 0)) :
    acked_chunks (.answered request status response :: log) = acked_chunks log := by
  cases request with
  | livox_lidar_xfer_firmware chunk => exact if_neg fun hack => hother ⟨rfl, hack⟩
  | livox_lidar_start_upgrade start | livox_lidar_start_upgrade_v3 start
  | livox_lidar_complete_xfer_firmware checksum | livox_lidar_get_upgrade_progress
  | livox_lidar_request_reboot reboot => rfl

theorem acked_chunks_acked {chunk : LivoxLidarXferFirmwareResquest} {log : List Entry}
    (hcode : response.ret_code = 0) :
    acked_chunks (.answered (.livox_lidar_xfer_firmware chunk) .kLivoxLidarStatusSuccess response ::
      log) = acked_chunks log ++ [chunk] :=
  if_pos ⟨rfl, hcode⟩

end Log

/-- A chunk that has been sent is the piece of the image at its offset. -/
theorem piece_of_awaits {u : LivoxLidarUpgrader} {chunk : LivoxLidarXferFirmwareResquest}
    (h : u.Awaits (.livox_lidar_xfer_firmware chunk)) (hlength : u.read_length = 1024) :
    chunk.piece = piece 1024 u.firmware.data u.read_offset.toNat ∧
      chunk.length.toNat = chunk.data.length := by
  obtain ⟨hoffset, rfl⟩ := h.chunk
  have hdata := u.firmware.data_length
  have hrest := UInt32.toNat_sub_of_le _ _ (UInt32.le_of_lt hoffset)
  rw [UInt32.lt_iff_toNat_lt] at hoffset
  have hread : u.xfer_firmware_request.length.toNat =
      min 1024 (u.firmware.data.length - u.read_offset.toNat) := by
    simp only [LivoxLidarUpgrader.xfer_firmware_request, hlength, gt_iff_lt]
    split
    · rename_i hshort
      rw [UInt32.lt_iff_toNat_lt, hrest] at hshort
      rw [hrest, hdata]
      exact (min_eq_right hshort.le).symm
    · rename_i hfull
      rw [UInt32.lt_iff_toNat_lt, hrest] at hfull
      rw [hdata]
      exact (min_eq_left (not_lt.mp hfull)).symm
  have hbytes : u.xfer_firmware_request.data =
      (u.firmware.data.drop u.read_offset.toNat).take u.xfer_firmware_request.length.toNat := rfl
  constructor
  · rw [LivoxLidarXferFirmwareResquest.piece, hbytes, hread, piece]
    congr 1
    rw [← List.length_drop, List.take_eq_take_iff]
    omega
  · rw [hbytes, List.length_take, List.length_drop, hread]
    omega

section Step

/-- An answer that acknowledges no chunk leaves as much of the image behind it. -/
theorem acknowledged_kept {u : LivoxLidarUpgrader} {log : List Entry} {count : Nat}
    (hpieces : (acked_chunks log).map (fun chunk => chunk.piece) =
      pieces 1024 u.firmware.data count)
    (hbefore : ∀ i < count, i * 1024 < u.firmware.data.length)
    (hother : ¬ (request.state = .kLivoxLidarUpgradeXferFirmware ∧
      status = .kLivoxLidarStatusSuccess ∧ response.ret_code = 0))
    (hsame : v.firmware = u.firmware)
    (hreached : ∀ made, next = some made → Reached v count made) :
    Acknowledged v next (.answered request status response :: log) := by
  rw [Acknowledged, acked_chunks_answered hother, hsame]
  exact ⟨count, hpieces, hbefore, hreached⟩

/-- An acknowledged chunk is the next piece of the image. -/
theorem acknowledged_more {u : LivoxLidarUpgrader} {log : List Entry} {count : Nat}
    {chunk : LivoxLidarXferFirmwareResquest}
    (hpieces : (acked_chunks log).map (fun chunk => chunk.piece) =
      pieces 1024 u.firmware.data count)
    (hbefore : ∀ i < count, i * 1024 < u.firmware.data.length)
    (hawaits : u.Awaits (.livox_lidar_xfer_firmware chunk)) (hread : u.read_length = 1024)
    (hoffset : u.read_offset.toNat = count * 1024) (hcode : response.ret_code = 0)
    (hsame : v.firmware = u.firmware)
    (hreached : ∀ made, next = some made → Reached v (count + 1) made) :
    Acknowledged v next (.answered (.livox_lidar_xfer_firmware chunk) .kLivoxLidarStatusSuccess
      response :: log) := by
  rw [Acknowledged, acked_chunks_acked hcode, hsame]
  refine ⟨count + 1, ?_, ?_, hreached⟩
  · rw [List.map_append, List.map_singleton, hpieces, pieces_succ,
      (piece_of_awaits hawaits hread).1, hoffset]
  · intro i hi
    obtain hless | rfl := Nat.lt_succ_iff_lt_or_eq.mp hi
    · exact hbefore i hless
    · have hlast := UInt32.lt_iff_toNat_lt.mp hawaits.chunk.1
      rwa [hoffset, ← u.firmware.data_length] at hlast

/-- The offset does not overflow behind a chunk of an image of the permitted length. -/
theorem toNat_next_offset {u : LivoxLidarUpgrader} {chunk : LivoxLidarXferFirmwareResquest}
    (hawaits : u.Awaits (.livox_lidar_xfer_firmware chunk)) (hread : u.read_length = 1024)
    (hbound : u.firmware.data.length ≤ 2 ^ 32 - 1024) :
    (u.read_offset + u.read_length).toNat = u.read_offset.toNat + 1024 := by
  have hless := UInt32.lt_iff_toNat_lt.mp hawaits.chunk.1
  rw [← u.firmware.data_length] at hless
  rw [hread, UInt32.toNat_add]
  exact Nat.mod_eq_of_lt (by simp only [UInt32.reduceToNat]; omega)

/-- The chunks after an answer, before the request that follows it. -/
theorem Acknowledged.answered {u : LivoxLidarUpgrader} {log : List Entry}
    (h : Acknowledged u (some request) log) (hawaits : u.Awaits request)
    (hread : u.read_length = 1024) (hbound : u.firmware.data.length ≤ 2 ^ 32 - 1024)
    (ha : u.Answered request status response v next) :
    Acknowledged v next (.answered request status response :: log) := by
  obtain ⟨count, hpieces, hbefore, hall⟩ := h
  have hreached := hall request rfl
  cases ha with
  | retried hstatus =>
    refine acknowledged_kept hpieces hbefore (fun hack => hstatus hack.2.1) rfl ?_
    rintro made ⟨⟩
    exact hreached
  | given_up hstatus =>
    exact acknowledged_kept hpieces hbefore (fun hack => hstatus hack.2.1) rfl nofun
  | refused hcode =>
    exact acknowledged_kept hpieces hbefore (fun hack => hcode hack.2.2) rfl nofun
  | busy _ hstate =>
    refine acknowledged_kept hpieces hbefore (fun hack => ?_) rfl ?_
    · rw [hstate] at hack
      cases hack.1
    · rintro made ⟨⟩
      exact hreached
  | granted _ hstate hv =>
    -- the transfer begins where nothing has been transferred
    have hzero := hawaits.read_offset_of_start hstate
    have hnone : count = 0 := (reached_start hstate).mp hreached
    subst hnone hv
    unfold LivoxLidarUpgrader.xfer_firmware
    refine acknowledged_kept hpieces hbefore (fun hack => ?_) ?_ ?_
    · rw [hstate] at hack
      cases hack.1
    · split <;> rfl
    · intro made hmade
      split at hmade
      · rename_i hoffset
        cases hmade
        rw [if_pos hoffset, Reached, hzero]
        rfl
      · cases hmade
  | acked hcode hv hoffset =>
    subst hv
    refine acknowledged_more hpieces hbefore hawaits hread hreached hcode rfl ?_
    rintro made ⟨⟩
    have hnext := toNat_next_offset hawaits hread hbound
    rw [Reached, hnext, hreached]
    omega
  | covered hcode hv hoffset =>
    subst hv
    refine acknowledged_more hpieces hbefore hawaits hread hreached hcode rfl ?_
    rintro made ⟨⟩
    have hnext := toNat_next_offset hawaits hread hbound
    rw [UInt32.lt_iff_toNat_lt, hnext, ← u.firmware.data_length, hreached] at hoffset
    show u.firmware.data.length ≤ (count + 1) * 1024
    omega
  | completed | progressing | upgraded =>
    refine acknowledged_kept hpieces hbefore (fun hack => by cases hack.1) rfl ?_
    rintro made ⟨⟩
    exact hreached
  | rebooted =>
    exact acknowledged_kept hpieces hbefore (fun hack => by cases hack.1) rfl nofun

/-- The same with the request: one to start throws the chunks away, of which there are none
then. -/
theorem Acknowledged.sent {u : LivoxLidarUpgrader} {log : List Entry}
    (h : Acknowledged u (some request) log) :
    Acknowledged u (some request) (.sent request :: log) := by
  obtain ⟨count, hpieces, hbefore, hall⟩ := h
  refine ⟨count, ?_, hbefore, hall⟩
  have hreached := hall request rfl
  rw [acked_chunks]
  split
  · rename_i hstart
    have hnone : count = 0 := by
      cases request with
      | livox_lidar_start_upgrade start | livox_lidar_start_upgrade_v3 start => exact hreached
      | livox_lidar_xfer_firmware chunk | livox_lidar_complete_xfer_firmware checksum
      | livox_lidar_get_upgrade_progress | livox_lidar_request_reboot reboot => cases hstart
    rw [hnone]
    rfl
  · exact hpieces

/-- An answer acknowledges at most the chunk that it answers. -/
theorem mem_acked_chunks_answered {log : List Entry} {chunk : LivoxLidarXferFirmwareResquest}
    (hchunk : chunk ∈ acked_chunks (.answered request status response :: log)) :
    chunk ∈ acked_chunks log ∨ request = .livox_lidar_xfer_firmware chunk := by
  cases request with
  | livox_lidar_xfer_firmware sent =>
    simp only [acked_chunks] at hchunk
    split at hchunk
    · obtain hold | rfl := List.mem_append.mp hchunk |>.imp_right List.mem_singleton.mp
      · exact Or.inl hold
      · exact Or.inr rfl
    · exact Or.inl hchunk
  | livox_lidar_start_upgrade start | livox_lidar_start_upgrade_v3 start
  | livox_lidar_complete_xfer_firmware checksum | livox_lidar_get_upgrade_progress
  | livox_lidar_request_reboot reboot => exact Or.inl hchunk

theorem mem_acked_chunks_sent {log : List Entry} {chunk : LivoxLidarXferFirmwareResquest}
    (hchunk : chunk ∈ acked_chunks (.sent request :: log)) : chunk ∈ acked_chunks log := by
  rw [acked_chunks] at hchunk
  split at hchunk
  · cases hchunk
  · exact hchunk

theorem try_count_limit_bounds (request : Request) :
    0 < request.try_count_limit ∧ request.try_count_limit ≤ 30 := by
  unfold Request.try_count_limit
  split <;> decide

/-- The counter is the number of the retries, and a request that failed is made again. -/
theorem Waits.retried {made : Request} (h : Waits s request)
    (ha : s.upgrader.Answered request status response v (some made)) :
    firmware_transfer.retries Failed (.sent made :: .answered request status response :: s.log) =
        v.try_count.toNat ∧
      v.try_count < made.try_count_limit ∧
      (status ≠ .kLivoxLidarStatusSuccess → made = request) := by
  rw [retries_sent_answered]
  by_cases hstatus : status = .kLivoxLidarStatusSuccess
  · subst hstatus
    rw [if_neg fun hfailed : Failed _ response => hfailed rfl, ha.try_count_reset]
    exact ⟨rfl, (try_count_limit_bounds made).1, fun hfailed => absurd rfl hfailed⟩
  · obtain ⟨rfl, hcount, hbelow⟩ := ha.repeats hstatus
    have hlimit := UInt32.le_iff_toNat_le.mp (try_count_limit_bounds made).2
    have hless := UInt32.lt_iff_toNat_lt.mp h.below
    refine ⟨?_, hbelow, fun _ => rfl⟩
    rw [if_pos (show Failed status response from hstatus), h.retries, hcount, UInt32.toNat_add]
    simp only [UInt32.reduceToNat] at hlimit ⊢
    omega

/-- A request to start or to transfer is not made after one to complete. -/
theorem Waits.unsent_after {made : Request} (h : Waits s request)
    (ha : s.upgrader.Answered request status response v (some made))
    (hstate : made.state = .kLivoxLidarUpgradeRequest ∨
      made.state = .kLivoxLidarUpgradeXferFirmware) (checksum) :
    .sent (.livox_lidar_complete_xfer_firmware checksum) ∉
      .sent made :: .answered request status response :: s.log := by
  have hbefore : request.state = .kLivoxLidarUpgradeRequest ∨
      request.state = .kLivoxLidarUpgradeXferFirmware := by
    generalize hnext : some made = next at ha
    cases ha with
    | retried | busy =>
      cases hnext
      exact hstate
    | granted _ hrequest => exact Or.inl hrequest
    | acked => exact Or.inr rfl
    | covered | completed | progressing | upgraded =>
      cases hnext
      obtain hstate | hstate := hstate <;> cases hstate
    | given_up | refused | rebooted => cases hnext
  intro hmem
  obtain heq | hmem := List.mem_cons.mp hmem
  · cases heq
    obtain hstate | hstate := hstate <;> cases hstate
  · obtain heq | hmem := List.mem_cons.mp hmem
    · cases heq
    · exact h.unsent hbefore checksum hmem

theorem start_transferring (firmware : Firmware) (handle : UInt32) :
    Transferring firmware (start firmware handle) := by
  have hawaits := LivoxLidarUpgrader.construct_awaits firmware handle
  have hstate := LivoxLidarUpgrader.start_upgrade_request_state (.construct firmware handle)
  unfold start
  rw [LivoxLidarUpgrader.construct_starts]
  generalize (LivoxLidarUpgrader.construct firmware handle).start_upgrade_request = request at *
  have hnone : acked_chunks [.sent request] = [] := by
    rw [acked_chunks]
    split <;> rfl
  refine ⟨rfl, rfl, ⟨0, ?_, nofun, ?_⟩, ?_, trivial, ?_, nofun⟩
  · exact congrArg (List.map _) hnone
  · rintro _ ⟨⟩
    exact (reached_start hstate).mpr rfl
  · intro chunk hchunk
    have hempty : chunk ∈ ([] : List LivoxLidarXferFirmwareResquest) := hnone ▸ hchunk
    cases hempty
  · rintro _ ⟨⟩
    refine ⟨hawaits, ⟨[], rfl⟩, rfl, (try_count_limit_bounds request).1, ?_⟩
    rintro _ checksum hmem
    have hone : Entry.sent (.livox_lidar_complete_xfer_firmware checksum) = .sent request :=
      List.mem_singleton.mp hmem
    rw [← Entry.sent.inj hone] at hstate
    cases hstate

/-- What holds of the log holds on after an answer. -/
theorem Transferring.after {outcome : Outcome} (h : Transferring firmware s)
    (hbound : firmware.data.length ≤ 2 ^ 32 - 1024) (hwaiting : s.waiting = some request)
    (ha : s.upgrader.Answered request status response outcome.upgrader outcome.request) :
    Transferring firmware (State.after (.answered request status response :: s.log) outcome) := by
  obtain ⟨v, next, observed⟩ := outcome
  have hw := h.waits request hwaiting
  have hchunks : Acknowledged v next (.answered request status response :: s.log) :=
    (hwaiting ▸ h.acknowledged).answered hw.awaits h.read_length (h.firmware ▸ hbound) ha
  have hlengths : ∀ chunk ∈ acked_chunks (.answered request status response :: s.log),
      chunk.length.toNat = chunk.data.length := by
    intro chunk hchunk
    obtain hold | rfl := mem_acked_chunks_answered hchunk
    · exact h.lengths chunk hold
    · exact (piece_of_awaits hw.awaits h.read_length).2
  cases next with
  | none =>
    exact {
      firmware := ha.same.1.trans h.firmware
      read_length := ha.same.2.2.trans h.read_length
      acknowledged := hchunks
      lengths := hlengths
      repeats := trivial
      waits := nofun
      ended := fun _ => ⟨request, status, response, s.log, rfl⟩ }
  | some made =>
    obtain ⟨hcount, hbelow, hrepeats⟩ := hw.retried ha
    exact {
      firmware := ha.same.1.trans h.firmware
      read_length := ha.same.2.2.trans h.read_length
      acknowledged := hchunks.sent
      lengths := fun chunk hchunk => hlengths chunk (mem_acked_chunks_sent hchunk)
      repeats := hrepeats
      waits := by
        rintro _ ⟨⟩
        exact ⟨ha.awaits hw.awaits rfl, ⟨_, rfl⟩, hcount, hbelow, hw.unsent_after ha⟩
      ended := nofun }

/-- What holds of the log goes on to hold with each answer. -/
theorem Transferring.step (hbound : firmware.data.length ≤ 2 ^ 32 - 1024)
    {t : State} {answer : LivoxLidarStatus × Response} (h : Transferring firmware s)
    (hstep : s.step answer = .ok t) : Transferring firmware t := by
  unfold State.step at hstep
  split at hstep
  · cases hstep
  · rename_i request hwaiting
    cases hstep
    exact h.after hbound hwaiting ((h.waits request hwaiting).awaits.answered _ _)

end Step

theorem Transferring.completes_covered (h : Transferring firmware s) :
    CompletesCovered firmware.data s.log := by
  cases hwaiting : s.waiting with
  | none =>
    obtain ⟨request, status, response, log, hlog⟩ := h.ended hwaiting
    rw [hlog]
    trivial
  | some request =>
    have hw := h.waits request hwaiting
    obtain ⟨log, hlog⟩ := hw.sent
    rw [hlog]
    cases request with
    | livox_lidar_complete_xfer_firmware checksum =>
      obtain ⟨count, hpieces, _, hreached⟩ := h.acknowledged
      have hall : s.upgrader.firmware.data.length ≤ count * 1024 := hreached _ hwaiting
      have hchunks : acked_chunks s.log = acked_chunks log := by
        rw [hlog]
        rfl
      rw [hchunks] at hpieces
      have hflatten := flatten_pieces_of_le hall
      rw [← hpieces, List.map_map, h.firmware] at hflatten
      exact hflatten
    | livox_lidar_xfer_firmware chunk =>
      intro checksum hmem
      exact hw.unsent (Or.inr rfl) checksum (hlog ▸ List.mem_cons_of_mem _ hmem)
    | livox_lidar_start_upgrade start | livox_lidar_start_upgrade_v3 start
    | livox_lidar_get_upgrade_progress | livox_lidar_request_reboot reboot => trivial

theorem Transferring.retries_below (h : Transferring firmware s) : RetriesBelow Failed s.log := by
  cases hwaiting : s.waiting with
  | none =>
    obtain ⟨request, status, response, log, hlog⟩ := h.ended hwaiting
    rw [hlog]
    trivial
  | some request =>
    have hw := h.waits request hwaiting
    obtain ⟨log, hlog⟩ := hw.sent
    have hcount := hw.retries
    rw [hlog] at hcount ⊢
    rw [RetriesBelow, hcount]
    exact UInt32.lt_iff_toNat_lt.mp hw.below

/-- While chunks are acknowledged as pieces of the image, what is sent is in order. -/
theorem Transferring.in_order (h : Transferring firmware s) :
    TransferredInOrder Failed firmware.data s.log := by
  obtain ⟨count, hpieces, hbefore, hreached⟩ := h.acknowledged
  rw [h.firmware] at hpieces hbefore
  refine ⟨?_, h.lengths, h.repeats, ?_, ?_⟩
  · rw [hpieces]
    exact inOrder_pieces (by decide) hbefore
  · exact h.completes_covered
  · exact h.retries_below

end State

/-- In every run the image is transferred in order and once: the chunks acknowledged since
the last request to start are its next slices, a request that failed is made again as it
was, the transfer is completed when the chunks are the whole image, and the failures in a
row that are retried stay below the limit of their phase. -/
theorem firmware_transferred_in_order (firmware : Firmware) (handle : UInt32)
    (hbound : firmware.header.firmware_length.toNat ≤ 2 ^ 32 - 1024)
    (answers : List (LivoxLidarStatus × Response)) :
    StatesSatisfy State.step (fun s => TransferredInOrder Failed firmware.data s.log)
      (State.start firmware handle) answers := by
  rw [← firmware.data_length] at hbound
  exact (statesSatisfy_invariant (fun _ _ _ h hstep => h.step hbound hstep)
    (State.start_transferring firmware handle) answers).mono fun _ h => h.in_order

/-- A firmware with an image of 1500 bytes. -/
def sample_firmware : Firmware where
  header :=
    { file_version := 0x02000000
      firmware_version := 1
      firmware_length := 1500
      firmware_type := 1
      device_type := 10
      encrypt_type := 0
      checksum_type := 0
      checksum_length := 16
      checksum := Vector.replicate 128 0
      hw_whitelist := Vector.replicate 128 0
      modify_time := 0 }
  data := List.replicate 1500 7
  data_length := List.length_replicate

/-- The device is busy first; a chunk is sent twice. -/
def sample_answers : List (LivoxLidarStatus × Response) :=
  [(.kLivoxLidarStatusSuccess, ⟨kSystemIsNotReady, 0⟩), (.kLivoxLidarStatusSuccess, ⟨0, 0⟩),
    (.kLivoxLidarStatusTimeout, ⟨0, 0⟩), (.kLivoxLidarStatusSuccess, ⟨0, 0⟩),
    (.kLivoxLidarStatusSuccess, ⟨0, 0⟩), (.kLivoxLidarStatusSuccess, ⟨0, 0⟩),
    (.kLivoxLidarStatusSuccess, ⟨0, 100⟩), (.kLivoxLidarStatusSuccess, ⟨0, 0⟩)]

theorem firmware_transferred_in_order_sample :
    StatesSatisfy State.step (fun s => TransferredInOrder Failed sample_firmware.data s.log)
      (State.start sample_firmware 2) sample_answers :=
  firmware_transferred_in_order sample_firmware 2 (by decide) sample_answers

/-- A busy device is asked again and again: ten refusals in a row, which is the limit, are
each followed by a retry. -/
theorem busy_retried_beyond_limit :
    ¬ StatesSatisfy State.step (fun s => TransferredInOrder Unsuccessful sample_firmware.data s.log)
      (State.start sample_firmware 2)
      (List.replicate 10 (.kLivoxLidarStatusSuccess, ⟨kSystemIsNotReady, 0⟩)) := by
  intro h
  have hretries : 10 < 10 := (h.last rfl).retries
  exact absurd hretries (lt_irrefl 10)

end firmware_transfer

end livox_lidar
