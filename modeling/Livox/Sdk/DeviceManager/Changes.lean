import Livox.Sdk.DeviceManager.Manager

open checked ordered_map

namespace livox_lidar

open util device_manager

section Delegates

variable {tasks : List DelegateTask} {taken : Bool} {sock other : Int}

@[simp] theorem delegates_nil (sock : Int) : delegates [] sock = false := rfl

theorem descriptors_add (tasks : List DelegateTask) (taken : Bool) (other : Int) :
    descriptors (tasks ++ [add_delegate taken other]) =
      if OPEN_MAX_POLL ≤ (descriptors tasks).length ∨ taken = false ∨ other ∈ descriptors tasks then
        descriptors tasks
      else descriptors tasks ++ [other] := by
  rw [descriptors, List.foldl_append]
  rfl

/-- A loop calls for no other socket than before and the one it has been asked to. -/
theorem delegates_of_add (h : delegates (tasks ++ [add_delegate taken other]) sock = true) :
    sock = other ∨ delegates tasks sock = true := by
  rw [delegates, decide_eq_true_eq, descriptors_add] at h
  rw [delegates, decide_eq_true_eq]
  split at h
  · exact .inr h
  · rcases List.mem_append.mp h with hmem | hmem
    · exact .inr hmem
    · exact .inl (List.mem_singleton.mp hmem)

theorem delegates_remove (tasks : List DelegateTask) (socks : List Int) (sock : Int) :
    delegates (tasks ++ Channels.remove_delegates socks) sock =
      (delegates tasks sock && !decide (sock ∈ socks ∧ 0 < sock)) := by
  induction socks generalizing tasks with
  | nil => simp [Channels.remove_delegates]
  | cons x socks ih =>
    have hone : ∀ ran : List DelegateTask, delegates (ran ++ [remove_delegate x]) sock =
        (delegates ran sock && !decide (sock = x)) := by
      intro ran
      have hremove : descriptors (ran ++ [remove_delegate x]) =
          (descriptors ran).filter (· ≠ x) := by
        rw [descriptors, List.foldl_append]
        rfl
      simp [delegates, hremove]
    by_cases hx : 0 < x
    · have hsplit : tasks ++ Channels.remove_delegates (x :: socks) =
          (tasks ++ [remove_delegate x]) ++ Channels.remove_delegates socks := by
        simp [Channels.remove_delegates, hx]
      rw [hsplit, ih, hone, Bool.and_assoc]
      congr 1
      by_cases h : sock = x
      · subst h
        simp [hx]
      · simp [h]
    · have hsame : Channels.remove_delegates (x :: socks) = Channels.remove_delegates socks := by
        simp [Channels.remove_delegates, hx]
      rw [hsame, ih]
      congr 2
      rw [decide_eq_decide, List.mem_cons]
      constructor
      · rintro ⟨hmem, hpos⟩
        exact ⟨.inr hmem, hpos⟩
      · rintro ⟨rfl | hmem, hpos⟩
        · exact absurd hpos hx
        · exact ⟨hmem, hpos⟩

end Delegates

namespace Channels

/-- The sockets for the detection that have been opened. -/
def detection_sockets (c : Channels) : List Int :=
  [c.detection_broadcast_socket, c.detection_socket].filter (0 < ·)

/-- The sockets that the device manager still knows of. -/
def listed (c : Channels) : List Int :=
  c.detection_sockets ++ c.socket_vec ++ c.vec_broadcast_socket

theorem mem_listed {c : Channels} {sock : Int} :
    sock ∈ c.listed ↔
      sock ∈ c.detection_sockets ∨ sock ∈ c.socket_vec ∨ sock ∈ c.vec_broadcast_socket := by
  rw [listed, List.mem_append, List.mem_append, or_assoc]

theorem mem_detection_sockets {c : Channels} {sock : Int} :
    sock ∈ c.detection_sockets ↔
      (sock = c.detection_broadcast_socket ∨ sock = c.detection_socket) ∧ 0 < sock := by
  simp [detection_sockets]

/-- A descriptor that the kernel may answer with. -/
def Fresh (c : Channels) (sock : Int) : Prop := 0 < sock ∧ sock ∉ c.process.sockets

/-- A socket is opened for the address and the port. -/
structure Names (socket : Socket) (host_ip : List UInt8) (port : UInt16) : Prop where
  netif : device_manager.netif socket.netif = device_manager.netif host_ip
  port : socket.port = port

/-- What one call of the functions that create channels can do: nothing is opened, a channel is shared,
or a socket that is new gets its place in the containers and its delegate. -/
inductive Change (c : Channels) : Channels → Prop where
  | refused : Change c { c with process := c.process.called }
  | share {key : List UInt8} {sock : Int} (hchannel : c.channel_info[key]? = some sock) :
    Change c (c.share_command_channel key sock)
  | command {host_ip : List UInt8} {port : UInt16} {sock : Int} {socket : Socket} {taken : Bool}
    (hfresh : c.Fresh sock) (hsocket : Names socket host_ip port)
    (hnew : channel_key host_ip port ∉ c.channel_info) :
    Change c
      (c.add_command_channel taken (c.process.opened sock socket) (channel_key host_ip port) sock)
  | data {host_ip : List UInt8} {port : UInt16} {sock : Int} {socket : Socket} {taken : Bool}
    (hfresh : c.Fresh sock) (hsocket : Names socket host_ip port)
    (hnew : channel_key host_ip port ∉ c.channel_info) :
    Change c (c.add_data_channel taken (c.process.opened sock socket) (channel_key host_ip port) sock)
  | view {host_ip : List UInt8} {port : UInt16} {sock : Int} {socket : Socket} {taken : Bool}
    (hfresh : c.Fresh sock) (hsocket : Names socket host_ip port)
    (hnew : channel_key host_ip port ∉ c.channel_info) :
    Change c (c.add_view_channel taken (c.process.opened sock socket) (channel_key host_ip port) sock)
  | broadcast {sock : Int} {socket : Socket} {taken : Bool} (hfresh : c.Fresh sock) :
    Change c (c.add_broadcast_socket taken (c.process.opened sock socket) sock)

/-- What several calls can do. -/
abbrev Changes : Channels → Channels → Prop := Relation.ReflTransGen Change

theorem netif_netif (host_ip : List UInt8) : netif (netif host_ip) = netif host_ip := by
  rw [netif, netif]
  split
  · rfl
  · rfl

section Create

variable (kernel : Kernel) {c : Channels}

theorem and_then_changes {attempt : Attempt} {next : Channels → Attempt}
    (h : Changes c attempt.channels) (hnext : ∀ d, Changes d (next d).channels) :
    Changes c (attempt.and_then next).channels := by
  rw [Attempt.and_then]
  split
  · exact h.trans (hnext _)
  · exact h

theorem and_then_of_ret {attempt : Attempt} {next : Channels → Attempt} (h : attempt.ret = true) :
    attempt.and_then next = next attempt.channels := if_pos h

theorem and_then_true (c : Channels) (next : Channels → Attempt) :
    ({ ret := true, channels := c } : Attempt).and_then next = next c := rfl

theorem and_then_of_not_ret {attempt : Attempt} {next : Channels → Attempt} (h : attempt.ret = false) :
    attempt.and_then next = attempt := if_neg (by simp [h])

/-- What the first function leaves and the second one keeps. -/
theorem and_then_rule {P : Channels → Prop} {attempt : Attempt} {next : Channels → Attempt}
    (h : P attempt.channels) (hnext : attempt.ret = true → P (next attempt.channels).channels) :
    P (attempt.and_then next).channels := by
  rw [Attempt.and_then]
  split
  case isTrue hret => exact hnext hret
  case isFalse => exact h

theorem and_then_ret {attempt : Attempt} {next : Channels → Attempt} :
    (attempt.and_then next).ret = true ↔ attempt.ret = true ∧ (next attempt.channels).ret = true := by
  rw [Attempt.and_then]
  split
  case isTrue hret => exact (and_iff_right hret).symm
  case isFalse hret => exact ⟨fun h => absurd h hret, fun h => absurd h.1 hret⟩

theorem create_cmd_changes (c : Channels) (host_ip : List UInt8) (port : UInt16) :
    Changes c (c.create_cmd_socket_and_add_delegate kernel host_ip port).channels := by
  rw [create_cmd_socket_and_add_delegate]
  split
  · exact .refl
  dsimp only
  split
  case h_1 sock hchannel => exact .single (.share hchannel)
  case h_2 hnew =>
    rcases create_socket_cases kernel c.process port true true true (netif host_ip) []
      with heq | ⟨sock, hpositive, hsock, heq⟩
    · rw [heq]
      exact .single .refused
    · rw [heq]
      dsimp only
      rw [if_neg (by omega)]
      exact .single (.command ⟨hpositive, hsock⟩ ⟨netif_netif host_ip, rfl⟩
        (by simpa [mem_iff_lookup] using hnew))

theorem create_data_changes (c : Channels) (host_ip : List UInt8) (port : UInt16)
    (multicast_ip : List UInt8) :
    Changes c (c.create_data_socket_and_add_delegate kernel host_ip port multicast_ip).channels := by
  rw [create_data_socket_and_add_delegate]
  split
  · exact .refl
  dsimp only
  split
  · exact .refl
  case isFalse hnew =>
    rcases create_socket_cases kernel c.process port true true false (netif host_ip) multicast_ip
      with heq | ⟨sock, hpositive, hsock, heq⟩
    · rw [heq]
      exact .single .refused
    · rw [heq]
      dsimp only
      rw [if_neg (by omega)]
      exact .single (.data ⟨hpositive, hsock⟩ ⟨netif_netif host_ip, rfl⟩ hnew)

theorem create_view_changes (c : Channels) (host_ip : List UInt8) (port : UInt16) :
    Changes c (c.create_view_socket kernel host_ip port).channels := by
  rw [create_view_socket]
  dsimp only
  split
  · exact .refl
  case isFalse hnew =>
    rcases create_socket_cases kernel c.process port true true true host_ip []
      with heq | ⟨sock, hpositive, hsock, heq⟩
    · rw [heq]
      exact .single .refused
    · rw [heq]
      dsimp only
      rw [if_neg (by omega)]
      exact .single (.view ⟨hpositive, hsock⟩ ⟨rfl, rfl⟩ hnew)

theorem create_broadcast_changes (c : Channels) (port : UInt16) :
    Changes c (c.create_broadcast_socket kernel port).channels := by
  rw [create_broadcast_socket]
  rcases create_socket_cases kernel c.process port true true true broadcast_ip []
    with heq | ⟨sock, hpositive, hsock, heq⟩
  · rw [heq]
    exact .single .refused
  · rw [heq]
    dsimp only
    rw [if_neg (by omega)]
    exact .single (.broadcast ⟨hpositive, hsock⟩)

theorem create_data_channel_changes (c : Channels) (host_net_info : define.HostNetInfo) :
    Changes c (c.create_data_channel kernel host_net_info).channels :=
  and_then_changes (create_data_changes kernel c _ _ _) fun d =>
    and_then_changes (create_data_changes kernel d _ _ _) fun e => create_data_changes kernel e _ _ _

theorem create_command_channel_changes (c : Channels) (master_sdk log_enable : Bool)
    (dev_type : UInt8) (host_net_info : define.HostNetInfo) :
    Changes c
      (c.create_command_channel kernel master_sdk log_enable dev_type host_net_info).channels := by
  have hcmd : ∀ (d : Channels) (needed : Bool) (port : UInt16),
      Changes d
        (if needed then d.create_cmd_socket_and_add_delegate kernel host_net_info.host_ip port
          else { ret := true, channels := d }).channels := by
    intro d needed port
    split
    · exact create_cmd_changes kernel d _ _
    · exact .refl
  refine and_then_changes (hcmd c _ _) fun d => and_then_changes (hcmd d _ _) fun e =>
    and_then_changes (hcmd e _ _) fun f => and_then_changes ?_ fun g => hcmd g _ _
  split
  · exact create_broadcast_changes kernel f _
  · exact .refl

theorem create_lidar_channels_changes (c : Channels) (master_sdk log_enable : Bool)
    (lidars_cfg : List define.LivoxLidarCfg) :
    Changes c (c.create_lidar_channels kernel master_sdk log_enable lidars_cfg).channels := by
  induction lidars_cfg generalizing c with
  | nil => exact .refl
  | cons cfg rest ih =>
    exact and_then_changes (create_data_channel_changes kernel c _) fun d =>
      and_then_changes (create_command_channel_changes kernel d _ _ _ _) fun e => ih e

theorem create_view_data_channel_changes (c : Channels) (info : device_manager.ViewLidarIpInfo) :
    Changes c (c.create_view_data_channel kernel info).channels :=
  and_then_changes (create_view_changes kernel c _ _) fun d => create_view_changes kernel d _ _

/-- None of the threads whose places `CreateIOThread` comes to has failed. -/
def Joins (c : Channels) : Prop :=
  c.detection_io_thread ≠ .failed ∧
    (0 ≤ kernel.epoll_create c.process.calls → c.cmd_io_thread ≠ .failed ∧
      (0 ≤ kernel.epoll_create (c.process.calls + 1) → c.data_io_thread ≠ .failed))

theorem create_io_threads_of_not_joins (h : ¬ c.Joins kernel) :
    c.create_io_threads kernel = .error null_thread := by
  simp only [create_io_threads, create_detection_io_thread, create_command_io_thread,
    create_data_io_thread, replace_io_thread, create_io_thread, Process.called]
  by_cases hdetection : c.detection_io_thread = .failed
  case pos => simp [hdetection]
  case neg =>
    by_cases hfirst : 0 ≤ kernel.epoll_create c.process.calls
    case neg => exact absurd ⟨hdetection, fun hle => absurd hle hfirst⟩ h
    case pos =>
      by_cases hcmd : c.cmd_io_thread = .failed
      case pos => simp [hdetection, hfirst, hcmd]
      case neg =>
        by_cases hsecond : 0 ≤ kernel.epoll_create (c.process.calls + 1)
        case neg => exact absurd ⟨hdetection, fun _ => ⟨hcmd, fun hle => absurd hle hsecond⟩⟩ h
        case pos =>
          have hdata : c.data_io_thread = .failed := by
            by_contra hdata
            exact h ⟨hdetection, fun _ => ⟨hcmd, fun _ => hdata⟩⟩
          simp [hdetection, hfirst, hcmd, hsecond, hdata]

/-- The threads are new, or, when one is refused, the first of them is. -/
theorem create_io_threads_of_joins (h : c.Joins kernel) :
    ∃ calls cmd_io data_io detection_io_thread cmd_io_thread data_io_thread ret,
      c.create_io_threads kernel =
        .ok
          { ret
            channels :=
              { c with
                process := { c.process with calls }
                detection_io_thread
                cmd_io_thread
                data_io_thread
                detection_io := []
                cmd_io
                data_io } } ∧
      (ret = true → (cmd_io = [] ∧ data_io = []) ∧
        detection_io_thread = .started ∧ cmd_io_thread = .started ∧ data_io_thread = .started) ∧
      (cmd_io = [] ∨ cmd_io = c.cmd_io) ∧ (data_io = [] ∨ data_io = c.data_io) ∧
      (c.has_io_threads = true → detection_io_thread ≠ .null ∧ cmd_io_thread ≠ .null ∧
        data_io_thread ≠ .null) := by
  obtain ⟨hdetection, hrest⟩ := h
  simp only [create_io_threads, create_detection_io_thread, create_command_io_thread,
    create_data_io_thread, replace_io_thread, create_io_thread, Process.called, has_io_threads,
    decide_eq_true_eq]
  by_cases hfirst : 0 ≤ kernel.epoll_create c.process.calls
  case neg =>
    refine ⟨c.process.calls + 1, c.cmd_io, c.data_io, .failed, c.cmd_io_thread, c.data_io_thread, false, ?_,
      by simp, .inr rfl, .inr rfl, fun hthreads => ⟨by simp, hthreads.2⟩⟩
    simp [hdetection, hfirst]
  case pos =>
    obtain ⟨hcmd, hrest⟩ := hrest hfirst
    by_cases hsecond : 0 ≤ kernel.epoll_create (c.process.calls + 1)
    case neg =>
      refine ⟨c.process.calls + 1 + 1, [], c.data_io, .started, .failed, c.data_io_thread, false, ?_,
        by simp, .inl rfl, .inr rfl, fun hthreads => ⟨by simp, by simp, hthreads.2.2⟩⟩
      simp [hdetection, hfirst, hcmd, hsecond]
    case pos =>
      have hdata := hrest hsecond
      by_cases hthird : 0 ≤ kernel.epoll_create (c.process.calls + 1 + 1)
      case neg =>
        refine ⟨c.process.calls + 1 + 1 + 1, [], [], .started, .started, .failed, false, ?_,
          by simp, .inl rfl, .inl rfl, by simp⟩
        simp [hdetection, hfirst, hcmd, hsecond, hdata, hthird]
      case pos =>
        refine ⟨c.process.calls + 1 + 1 + 1, [], [], .started, .started, .started, true, ?_,
          by simp, .inl rfl, .inl rfl, by simp⟩
        simp [hdetection, hfirst, hcmd, hsecond, hdata, hthird]

/-- The socket for broadcasts is refused, or it is new. -/
theorem create_detection_broadcast_socket_cases (c : Channels) :
    c.create_detection_broadcast_socket kernel =
        { ret := false
          channels := { c with process := c.process.called, detection_broadcast_socket := -1 } } ∨
      ∃ sock socket taken, c.Fresh sock ∧
        c.create_detection_broadcast_socket kernel =
          { ret := true
            channels :=
              { c with
                process := c.process.opened sock socket
                detection_broadcast_socket := sock
                detection_io := c.detection_io ++ [add_delegate taken sock] } } := by
  rw [create_detection_broadcast_socket]
  rcases create_socket_cases kernel c.process kDetectionPort true true true broadcast_ip []
    with heq | ⟨sock, hpositive, hsock, heq⟩
  · rw [heq]
    exact .inl rfl
  · rw [heq]
    dsimp only
    rw [if_neg (by omega)]
    exact .inr ⟨sock, _, _, ⟨hpositive, hsock⟩, rfl⟩

/-- The socket for the answers is refused, or it is new and is the channel under its key. -/
theorem create_detection_socket_cases (c : Channels) (detection_host_ip : List UInt8) :
    c.create_detection_socket kernel detection_host_ip =
        { ret := false
          channels := { c with process := c.process.called, detection_socket := -1 } } ∨
      ∃ sock socket taken, c.Fresh sock ∧ Names socket detection_host_ip kDetectionPort ∧
        c.create_detection_socket kernel detection_host_ip =
          { ret := true
            channels :=
              ({ c with
                process := c.process.opened sock socket
                detection_socket := sock
                detection_io := c.detection_io ++ [add_delegate taken sock]
                channel_info :=
                  c.channel_info.insert (channel_key detection_host_ip kDetectionPort) sock } :
                Channels).share_command_channel (channel_key detection_host_ip kDetectionPort) sock } := by
  rw [create_detection_socket]
  rcases create_socket_cases kernel c.process kDetectionPort true true true detection_host_ip []
    with heq | ⟨sock, hpositive, hsock, heq⟩
  · rw [heq]
    exact .inl rfl
  · rw [heq]
    dsimp only
    rw [if_neg (by omega)]
    exact .inr ⟨sock, _, _, ⟨hpositive, hsock⟩, ⟨rfl, rfl⟩, rfl⟩

end Create

/-- `Destory` forgets the channels. -/
theorem destory_new {c d : Channels} {detection_thread : Bool} (h : c.destory detection_thread = .ok d) :
    d.channel_info = ∅ ∧ d.custom_command_channel = ∅ ∧ d.vec_broadcast_socket = [] := by
  rw [Channels.destory] at h
  split at h
  · cases h
  obtain ⟨first, -, h⟩ := bind_eq_ok_iff.mp h
  obtain ⟨second, -, h⟩ := bind_eq_ok_iff.mp h
  obtain ⟨third, -, h⟩ := bind_eq_ok_iff.mp h
  cases h
  exact ⟨rfl, rfl, rfl⟩

end Channels

/-- `Init` gets as far as the threads. -/
def device_manager.InitArgs.starts (args : InitArgs) : Bool :=
  args.logger_init &&
    match args.cfg with
    | .view _ => true
    | .configured lidars_cfg custom_lidars_cfg _ => !(lidars_cfg ++ custom_lidars_cfg).isEmpty

namespace DeviceManager

variable {kernel : Kernel} {crc : FastCRC} {s t : DeviceManager}

/-- The logger manager starts no second thread. -/
def OneLogger (s : DeviceManager) (args : InitArgs) : Prop :=
  ¬ (args.log_enable = true ∧ s.cycle_delete_thread = true)

theorem start_logger_eq {log_enable : Bool} (h : s.start_logger log_enable = .ok t) :
    t = { s with cycle_delete_thread := log_enable || s.cycle_delete_thread } ∧
      ¬ (log_enable = true ∧ s.cycle_delete_thread = true) := by
  rw [start_logger] at h
  split at h
  · cases h
  case isFalse hone =>
    cases h
    exact ⟨rfl, hone⟩

theorem start_logger_completes_iff {log_enable : Bool} :
    (∃ t, s.start_logger log_enable = .ok t) ↔ ¬ (log_enable = true ∧ s.cycle_delete_thread = true) := by
  rw [start_logger]
  split <;> simp_all

/-- What `LivoxLidarSdkInit` leaves: the channels are started when `Init` gets as far as that, and stay
as they are when it does not. -/
theorem sdk_init_channels {args : InitArgs} (h : s.sdk_init kernel args = .ok t) :
    if s.is_initialized = false ∧ args.starts = true then
      s.OneLogger args ∧
      ∃ create_channels attempt, (∀ c, Channels.Changes c (create_channels c).channels) ∧
        s.toChannels.start kernel t.detection_host_ip create_channels = .ok attempt ∧
        t.toChannels = attempt.channels ∧ t.is_initialized = attempt.ret
    else t.toChannels = s.toChannels ∧ (t.is_initialized = true → t = s) := by
  obtain ⟨cfg, logger_init, log_enable⟩ := args
  rw [DeviceManager.sdk_init] at h
  cases hinit : s.is_initialized with
  | true =>
    rw [if_pos hinit] at h
    cases h
    simp
  | false =>
    rw [if_neg (by simp [hinit])] at h
    obtain ⟨⟨ret, u⟩, hattempt, h⟩ := bind_eq_ok_iff.mp h
    cases h
    cases cfg with
    | view host_ip =>
      cases logger_init with
      | false =>
        cases hattempt
        simp [InitArgs.starts]
      | true =>
        obtain ⟨logged, hlogger, hattempt⟩ := bind_eq_ok_iff.mp hattempt
        obtain ⟨rfl, hone⟩ := start_logger_eq hlogger
        obtain ⟨attempt, hstart, hattempt⟩ := bind_eq_ok_iff.mp hattempt
        cases hattempt
        simp only [InitArgs.starts, Bool.and_self, and_self, if_true]
        exact ⟨hone, fun c => { ret := true, channels := c }, attempt, fun _ => .refl, hstart, rfl, rfl⟩
    | configured lidars_cfg custom_lidars_cfg master_sdk =>
      rw [DeviceManager.init] at hattempt
      dsimp only at hattempt
      cases hhead : (lidars_cfg ++ custom_lidars_cfg).head? with
      | none =>
        have hnil := List.head?_eq_none_iff.mp hhead
        rw [hhead] at hattempt
        cases hattempt
        simp [InitArgs.starts, hnil]
      | some cfg =>
        have hne : (lidars_cfg ++ custom_lidars_cfg).isEmpty = false := by
          rw [List.isEmpty_eq_false_iff]
          exact List.ne_nil_of_mem (List.mem_of_head? hhead)
        rw [hhead] at hattempt
        cases logger_init with
        | false =>
          cases hattempt
          simp [InitArgs.starts]
        | true =>
          obtain ⟨logged, hlogger, hattempt⟩ := bind_eq_ok_iff.mp hattempt
          obtain ⟨rfl, hone⟩ := start_logger_eq hlogger
          obtain ⟨attempt, hstart, hattempt⟩ := bind_eq_ok_iff.mp hattempt
          cases hattempt
          simp only [InitArgs.starts, hne, Bool.not_false, Bool.and_self, and_self, if_true]
          exact ⟨hone, fun c => c.create_lidar_channels kernel master_sdk log_enable custom_lidars_cfg,
            attempt, fun c => Channels.create_lidar_channels_changes kernel c _ _ _, hstart, rfl, rfl⟩

theorem handle_records_eq (s : DeviceManager) (datagram : Datagram) :
    ∃ handled, s.handle_records datagram = { s with handled } := by
  rw [DeviceManager.handle_records]
  split <;> split <;> exact ⟨_, rfl⟩

theorem handle_detection_data_eq (s : DeviceManager) (handle : UInt32) (detection_data : DetectionData) :
    ∃ view_devices, s.handle_detection_data handle detection_data = { s with view_devices } := by
  rw [DeviceManager.handle_detection_data]
  split <;> exact ⟨_, rfl⟩

/-- What the general command handler does with an answer: nothing, or it has a handler for the type of
device, and the device is a new one or one that it knows. -/
theorem general_handler_cases {datagram : Datagram} (h : s.general_handler crc datagram = .ok t) :
    t = s ∨ ∃ dev_type general, s.general.create_command_handler dev_type = .ok general ∧
      (datagram.handle ∈ general.devices ∧ (∃ view_devices, t = { s with general, view_devices }) ∨
        t = { s with general := { general with devices := general.devices.insert datagram.handle } } ∧
          s.sdk_framework_cfg_ptr ≠ none) := by
  rw [general_handler] at h
  split at h
  · cases h
  split at h
  · cases h
    exact .inl rfl
  split at h
  · cases h
    exact .inl rfl
  split at h
  · cases h
    exact .inl rfl
  obtain ⟨verified, -, h⟩ := bind_eq_ok_iff.mp h
  split at h
  · cases h
    exact .inl rfl
  obtain ⟨general, hgeneral, h⟩ := bind_eq_ok_iff.mp h
  refine .inr ⟨_, general, hgeneral, ?_⟩
  split at h
  · cases h
  case isFalse hframework =>
  split at h
  case isTrue hknown =>
    cases h
    exact .inl ⟨hknown, handle_detection_data_eq { s with general } datagram.handle _⟩
  case isFalse hnew =>
    cases h
    exact .inr ⟨rfl, fun hnone => hframework ⟨hnone, .inl hnew⟩⟩

/-- A call changes only what the general command handler and the viewer keep of the devices. -/
theorem call_eq {datagram : Datagram} {handled : Handled} (h : s.call crc datagram handled = .ok t) :
    ∃ handled general view_devices, t = { s with handled, general, view_devices } := by
  rw [DeviceManager.call] at h
  split at h
  case isFalse =>
    cases h
    exact ⟨_, _, _, rfl⟩
  case isTrue =>
    obtain rfl | ⟨dev_type, general, -, ⟨-, view_devices, rfl⟩ | ⟨rfl, -⟩⟩ := general_handler_cases h
    · exact ⟨_, _, _, rfl⟩
    · exact ⟨_, _, view_devices, rfl⟩
    · exact ⟨_, _, _, rfl⟩

/-- The manager after a lidar of a type has got its configuration. -/
def registered (kernel : Kernel) (s : DeviceManager) (datagram : Datagram) (dev_type : UInt8)
    (cfg : define.LivoxLidarCfg) (custom_lidars_cfg : List define.LivoxLidarCfg) (master_sdk : Bool) :
    DeviceManager :=
  { s with
    type_lidars_cfg_map := s.type_lidars_cfg_map.insert dev_type (lidar_cfg datagram cfg)
    custom_lidars_cfg_map := s.custom_lidars_cfg_map.insert datagram.handle (lidar_cfg datagram cfg)
    custom_lidars_cfg_ptr := some (custom_lidars_cfg ++ [lidar_cfg datagram cfg])
    toChannels :=
      (s.toChannels.create_lidar_channels kernel master_sdk s.log_enable
        (custom_lidars_cfg ++ [lidar_cfg datagram cfg])).channels }

/-- The type of device that answers in a datagram, when `OnData` does not drop it. -/
def answered_type (crc : FastCRC) (s : DeviceManager) (datagram : Datagram) : Option UInt8 :=
  if datagram.size = 0 ∨ datagram.lidar_ip = s.detection_host_ip ∨ datagram.port ≠ kDetectionPort then none
  else (detection_answer crc datagram).map (·.detection_data.dev_type)

/-- What the registration does: nothing, when no lidar of a type that has a configuration answers, or that
lidar gets the configuration. -/
theorem register_lidar_cases {datagram : Datagram} (h : s.register_lidar kernel crc datagram = .ok t) :
    (t = s ∧ (datagram.port = kDetectionPort → ∀ answer ∈ detection_answer crc datagram,
      s.type_lidars_cfg_map[answer.detection_data.dev_type]? = none)) ∨
      ∃ answer general cfg custom_lidars_cfg master_sdk,
        datagram.port = kDetectionPort ∧ detection_answer crc datagram = some answer ∧
        s.type_lidars_cfg_map[answer.detection_data.dev_type]? = some cfg ∧
        s.custom_lidars_cfg_ptr = some custom_lidars_cfg ∧
        s.sdk_framework_cfg_ptr = some master_sdk ∧
        (s.general.init master_sdk).create_command_handler answer.detection_data.dev_type =
          .ok general ∧
        t = registered kernel { s with general } datagram answer.detection_data.dev_type cfg
          custom_lidars_cfg master_sdk := by
  rw [DeviceManager.register_lidar] at h
  split at h
  case isTrue hport =>
    cases h
    exact .inl ⟨rfl, fun hdetection => absurd hdetection hport⟩
  case isFalse hport =>
  split at h
  · cases h
  split at h
  case h_1 hanswer =>
    cases h
    exact .inl ⟨rfl, fun _ => by simp [hanswer]⟩
  case h_2 answer hanswer =>
  dsimp only at h
  split at h
  case h_1 htype =>
    cases h
    exact .inl ⟨rfl, fun _ => by simpa [hanswer] using htype⟩
  case h_2 cfg custom_lidars_cfg master_sdk hcfg hcustom hframework =>
    obtain ⟨general, hgeneral, h⟩ := bind_eq_ok_iff.mp h
    split at h
    · cases h
    · cases h
      exact .inr ⟨answer, general, cfg, custom_lidars_cfg, master_sdk, not_not.mp hport, hanswer, hcfg,
        hcustom, hframework, hgeneral, rfl⟩
  case h_3 => cases h

/-- What `OnData` does to the manager: a handler is called, or an answer of a lidar that has no
configuration yet is one of a type that has, and the lidar is registered. -/
theorem on_data_cases {datagram : Datagram} (h : s.on_data kernel crc datagram = .ok t) :
    (∃ handled general view_devices, t = { s with handled, general, view_devices } ∧
      (s.is_view = false → s.custom_lidars_cfg_map[datagram.handle]? = none →
        ∀ dev_type, s.answered_type crc datagram = some dev_type →
          s.type_lidars_cfg_map[dev_type]? = none)) ∨
      ∃ handled general dev_type cfg custom_lidars_cfg master_sdk,
        s.is_view = false ∧ s.custom_lidars_cfg_map[datagram.handle]? = none ∧
        s.answered_type crc datagram = some dev_type ∧
        s.type_lidars_cfg_map[dev_type]? = some cfg ∧
        s.custom_lidars_cfg_ptr = some custom_lidars_cfg ∧
        s.sdk_framework_cfg_ptr = some master_sdk ∧
        t = registered kernel { s with handled, general } datagram dev_type cfg custom_lidars_cfg
          master_sdk := by
  rw [DeviceManager.on_data] at h
  rw [answered_type]
  split at h
  case isTrue hsize =>
    cases h
    refine .inl ⟨_, _, _, rfl, fun _ _ => ?_⟩
    simp [hsize]
  case isFalse hsize =>
  split at h
  case isTrue hhost =>
    cases h
    refine .inl ⟨_, _, _, rfl, fun _ _ => ?_⟩
    simp [hhost]
  case isFalse hhost =>
  obtain ⟨handled, hrecords⟩ := s.handle_records_eq datagram
  rw [hrecords] at h
  dsimp only at h
  split at h
  case isTrue hview =>
    obtain ⟨handled, general, view_devices, rfl⟩ := call_eq h
    exact .inl ⟨handled, general, view_devices, rfl, fun hnot => absurd hview (by simp [hnot])⟩
  case isFalse hview =>
  split at h
  case h_1 cfg hcfg =>
    split at h
    · obtain ⟨handled, general, view_devices, rfl⟩ := call_eq h
      exact .inl ⟨handled, general, view_devices, rfl, fun _ hnone => by simp [hcfg] at hnone⟩
    · cases h
      exact .inl ⟨handled, _, _, rfl, fun _ hnone => by simp [hcfg] at hnone⟩
  case h_2 hnew =>
  obtain ⟨rfl, hnone⟩ | ⟨answer, general, cfg, custom_lidars_cfg, master_sdk, hport, hanswer, hcfg,
    hcustom, hframework, -, rfl⟩ := register_lidar_cases h
  · refine .inl ⟨handled, _, _, rfl, fun _ _ dev_type hanswered => ?_⟩
    rw [ite_eq_iff] at hanswered
    obtain ⟨-, hanswered⟩ | ⟨hkept, hanswered⟩ := hanswered
    · cases hanswered
    · obtain ⟨answer, hanswer, rfl⟩ := Option.map_eq_some_iff.mp hanswered
      exact hnone (by simpa [hsize, hhost] using hkept) answer hanswer
  · refine .inr ⟨handled, general, _, cfg, custom_lidars_cfg, master_sdk, by simpa using hview, hnew, ?_,
      hcfg, hcustom, hframework, rfl⟩
    rw [if_neg (by simp [hsize, hhost, hport]), hanswer]
    rfl

theorem on_data_changes {datagram : Datagram} (h : s.on_data kernel crc datagram = .ok t) :
    Channels.Changes s.toChannels t.toChannels := by
  obtain ⟨handled, general, view_devices, rfl, -⟩ |
    ⟨handled, general, dev_type, cfg, custom_lidars_cfg, master_sdk, -, -, -, -, -, -, rfl⟩ :=
    on_data_cases h
  · exact .refl
  · exact Channels.create_lidar_channels_changes kernel _ _ _ _

theorem on_data_keeps {datagram : Datagram} (h : s.on_data kernel crc datagram = .ok t) :
    t.is_initialized = s.is_initialized ∧ t.detection_host_ip = s.detection_host_ip := by
  obtain ⟨handled, general, view_devices, rfl, -⟩ |
    ⟨handled, general, dev_type, cfg, custom_lidars_cfg, master_sdk, -, -, -, -, -, -, rfl⟩ :=
    on_data_cases h
  · exact ⟨rfl, rfl⟩
  · exact ⟨rfl, rfl⟩

/-- What a call of `AddViewLidar` does to the manager. -/
theorem add_view_lidar_eq {info : device_manager.ViewLidarIpInfo}
    (h : s.add_view_lidar kernel info = .ok t) :
    t = s ∨ ∃ view_devices view_lidars_info info,
      t = { s with
        toChannels := (s.toChannels.create_view_data_channel kernel info).channels
        view_devices
        view_lidars_info } := by
  rw [DeviceManager.add_view_lidar] at h
  split at h
  · cases h
    exact .inl rfl
  split at h
  · cases h
    exact .inl rfl
  split at h
  · cases h
  dsimp only at h
  split at h
  · cases h
  · cases h
    exact .inr ⟨_, _, _, rfl⟩

theorem add_view_lidar_changes {info : device_manager.ViewLidarIpInfo}
    (h : s.add_view_lidar kernel info = .ok t) :
    Channels.Changes s.toChannels t.toChannels ∧ t.is_initialized = s.is_initialized ∧
      t.detection_host_ip = s.detection_host_ip := by
  obtain rfl | ⟨view_devices, view_lidars_info, info, rfl⟩ := add_view_lidar_eq h
  · exact ⟨.refl, rfl, rfl⟩
  · exact ⟨Channels.create_view_data_channel_changes kernel _ _, rfl, rfl⟩

end DeviceManager

end livox_lidar
