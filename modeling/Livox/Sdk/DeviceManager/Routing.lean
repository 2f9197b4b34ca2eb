import Livox.Library.DecimalText
import Livox.Sdk.DeviceManager.Sockets

open checked decimal_text execution ordered_map

namespace livox_lidar

open util device_manager

section ChannelKey

/-- There is no colon in a port. -/
theorem colon_not_mem_port_string (port : UInt16) : 58 ∉ port_string port := by
  intro hmem
  obtain ⟨c, hc, hcolon⟩ := List.mem_map.mp hmem
  obtain ⟨-, hlast⟩ := mem_toDigits_bound hc
  have hvalue := congrArg UInt8.toNat hcolon
  rw [UInt8.toNat_ofNat_of_lt' (by simp [UInt8.size]; omega)] at hvalue
  simp at hvalue
  omega

/-- The characters of the digits. -/
theorem port_string_chars (port : UInt16) :
    (port_string port).map (fun b => Char.ofNat b.toNat) = Nat.toDigits 10 port.toNat := by
  rw [port_string, List.map_map]
  refine (List.map_congr_left fun c hc => ?_).trans (List.map_id _)
  obtain ⟨-, hlast⟩ := mem_toDigits_bound hc
  rw [Function.comp_apply, UInt8.toNat_ofNat_of_lt' (by simp [UInt8.size]; omega), Char.ofNat_toNat, id]

theorem port_string_inj {port other : UInt16} (h : port_string port = port_string other) :
    port = other := by
  have hdigits := congrArg (List.map fun b => Char.ofNat b.toNat) h
  rw [port_string_chars, port_string_chars] at hdigits
  exact UInt16.toNat_inj.mp (toDigits_inj hdigits)

/-- A key stands for one address and one port. -/
theorem channel_key_inj {host_ip other_ip : List UInt8} {port other : UInt16}
    (h : channel_key host_ip port = channel_key other_ip other) : host_ip = other_ip ∧ port = other := by
  obtain ⟨hip, hport⟩ := append_cons_inj_of_notMem_right (colon_not_mem_port_string port)
    (colon_not_mem_port_string other) h
  exact ⟨hip, port_string_inj hport⟩

end ChannelKey

namespace Channels

variable {c d : Channels} {sock : Int} {host_ip : List UInt8} {port : UInt16} {detection_thread : Bool}

/-- The socket is open, and was opened for the address and the port. -/
def Reaches (c : Channels) (sock : Int) (host_ip : List UInt8) (port : UInt16) : Prop :=
  ∃ socket, c.process.sockets[sock]? = some socket ∧ Names socket host_ip port

/-- A socket that has been open is open as it was. -/
def Keeps (c d : Channels) : Prop :=
  ∀ (sock : Int) (socket : Socket), c.process.sockets[sock]? = some socket →
    d.process.sockets[sock]? = some socket

/-- Under each key there is a socket for its address and port. -/
def Table (c : Channels) (channels : Std.TreeMap (List UInt8) Int) : Prop :=
  ∀ (key : List UInt8) (sock : Int), channels[key]? = some sock →
    ∃ host_ip port, key = channel_key host_ip port ∧ c.Reaches sock host_ip port

/-- The channels are sockets for their keys, and no two of them are one socket. -/
structure Named (c : Channels) : Prop where
  info : c.Table c.channel_info
  command : c.Table c.custom_command_channel
  own : ∀ (key other : List UInt8) (sock : Int), c.channel_info[key]? = some sock →
    c.channel_info[other]? = some sock → key = other

theorem Reaches.opened (h : c.Reaches sock host_ip port) : sock ∈ c.process.sockets := by
  obtain ⟨socket, hsocket, -⟩ := h
  exact mem_iff_lookup.mpr ⟨socket, hsocket⟩

theorem Reaches.keeps (h : c.Reaches sock host_ip port) (hkeeps : c.Keeps d) :
    d.Reaches sock host_ip port := by
  obtain ⟨socket, hsocket, hnames⟩ := h
  exact ⟨socket, hkeeps sock socket hsocket, hnames⟩

theorem keeps_opened (hfresh : c.Fresh sock) {socket : Socket}
    (hprocess : d.process = c.process.opened sock socket) : c.Keeps d := by
  intro x held hx
  have hne : sock ≠ x := fun hsame => hfresh.2 (hsame ▸ mem_iff_lookup.mpr ⟨held, hx⟩)
  rw [hprocess, Process.opened, lookup_insert, if_neg hne]
  exact hx

theorem reaches_opened {socket : Socket} (hsocket : Names socket host_ip port)
    (hprocess : d.process = c.process.opened sock socket) : d.Reaches sock host_ip port := by
  refine ⟨socket, ?_, hsocket⟩
  rw [hprocess, Process.opened, lookup_insert, if_pos rfl]

section Table

variable {channels : Std.TreeMap (List UInt8) Int}

theorem Table.keeps (h : c.Table channels) (hkeeps : c.Keeps d) : d.Table channels := by
  intro key sock hsock
  obtain ⟨host_ip, port, hkey, hreaches⟩ := h key sock hsock
  exact ⟨host_ip, port, hkey, hreaches.keeps hkeeps⟩

theorem Table.insert (h : c.Table channels) (hreaches : c.Reaches sock host_ip port) :
    c.Table (channels.insert (channel_key host_ip port) sock) := by
  intro key x hx
  rw [lookup_insert] at hx
  split at hx
  case isTrue hkey =>
    cases hx
    exact ⟨host_ip, port, hkey.symm, hreaches⟩
  case isFalse => exact h key x hx

/-- The key of a lookup names the socket. -/
theorem Table.reaches (h : c.Table channels) (hsock : channels[channel_key host_ip port]? = some sock) :
    c.Reaches sock host_ip port := by
  obtain ⟨ip, p, hkey, hreaches⟩ := h _ _ hsock
  obtain ⟨rfl, rfl⟩ := channel_key_inj hkey
  exact hreaches

theorem own_insert (hown : ∀ (key other : List UInt8) (x : Int), channels[key]? = some x →
      channels[other]? = some x → key = other)
    (hnew : ∀ key : List UInt8, channels[key]? ≠ some sock) (added key other : List UInt8) (x : Int)
    (hkey : (channels.insert added sock)[key]? = some x)
    (hother : (channels.insert added sock)[other]? = some x) : key = other := by
  rw [lookup_insert] at hkey hother
  split at hkey <;> split at hother
  case isTrue.isTrue hfirst hsecond => exact hfirst.symm.trans hsecond
  case isTrue.isFalse =>
    cases hkey
    exact absurd hother (hnew other)
  case isFalse.isTrue =>
    cases hother
    exact absurd hkey (hnew key)
  case isFalse.isFalse => exact hown key other x hkey hother

end Table

theorem Named.fresh (h : c.Named) (hfresh : c.Fresh sock) (key : List UInt8) :
    c.channel_info[key]? ≠ some sock := by
  intro hsock
  obtain ⟨host_ip, port, -, hreaches⟩ := h.info key sock hsock
  exact hfresh.2 hreaches.opened

theorem Named.share (h : c.Named) {key : List UInt8} (hchannel : c.channel_info[key]? = some sock) :
    (c.share_command_channel key sock).Named := by
  obtain ⟨host_ip, port, rfl, hreaches⟩ := h.info key sock hchannel
  rw [share_command_channel]
  split
  · exact h
  · exact ⟨h.info, h.command.insert hreaches, h.own⟩

/-- What one call can do keeps the names. -/
theorem Named.change (h : c.Named) (hchange : Change c d) : d.Named := by
  cases hchange with
  | refused => exact ⟨h.info, h.command, h.own⟩
  | share hchannel => exact h.share hchannel
  | @command host_ip port sock socket taken hfresh hsocket hnew =>
    have hkeeps : c.Keeps
        (c.add_command_channel taken (c.process.opened sock socket) (channel_key host_ip port) sock) :=
      keeps_opened hfresh rfl
    have hreaches : (c.add_command_channel taken (c.process.opened sock socket)
        (channel_key host_ip port) sock).Reaches sock host_ip port := reaches_opened hsocket rfl
    exact ⟨(h.info.keeps hkeeps).insert hreaches, (h.command.keeps hkeeps).insert hreaches,
      own_insert h.own (h.fresh hfresh) _⟩
  | @data host_ip port sock socket taken hfresh hsocket hnew =>
    have hkeeps : c.Keeps
        (c.add_data_channel taken (c.process.opened sock socket) (channel_key host_ip port) sock) :=
      keeps_opened hfresh rfl
    have hreaches : (c.add_data_channel taken (c.process.opened sock socket)
        (channel_key host_ip port) sock).Reaches sock host_ip port := reaches_opened hsocket rfl
    exact ⟨(h.info.keeps hkeeps).insert hreaches, h.command.keeps hkeeps,
      own_insert h.own (h.fresh hfresh) _⟩
  | @view host_ip port sock socket taken hfresh hsocket hnew =>
    have hkeeps : c.Keeps
        (c.add_view_channel taken (c.process.opened sock socket) (channel_key host_ip port) sock) :=
      keeps_opened hfresh rfl
    have hreaches : (c.add_view_channel taken (c.process.opened sock socket)
        (channel_key host_ip port) sock).Reaches sock host_ip port := reaches_opened hsocket rfl
    exact ⟨(h.info.keeps hkeeps).insert hreaches, h.command.keeps hkeeps,
      own_insert h.own (h.fresh hfresh) _⟩
  | @broadcast sock socket taken hfresh =>
    have hkeeps : c.Keeps (c.add_broadcast_socket taken (c.process.opened sock socket) sock) :=
      keeps_opened hfresh rfl
    exact ⟨h.info.keeps hkeeps, h.command.keeps hkeeps, h.own⟩

theorem Named.changes (h : c.Named) (hchanges : Changes c d) : d.Named := by
  induction hchanges with
  | refl => exact h
  | tail _ hchange ih => exact ih.change hchange

/-- The sockets that reach an address go on doing so, and the detection socket stays. -/
theorem Change.keeps (h : Change c d) : c.Keeps d ∧ d.detection_socket = c.detection_socket := by
  cases h with
  | refused => exact ⟨fun _ _ hx => hx, rfl⟩
  | share hchannel =>
    rw [share_command_channel]
    split <;> exact ⟨fun _ _ hx => hx, rfl⟩
  | command hfresh | data hfresh | view hfresh | broadcast hfresh =>
    exact ⟨keeps_opened hfresh rfl, rfl⟩

theorem Changes.keeps (h : Changes c d) : c.Keeps d ∧ d.detection_socket = c.detection_socket := by
  induction h with
  | refl => exact ⟨fun _ _ hx => hx, rfl⟩
  | tail _ hchange ih =>
    obtain ⟨hkeeps, hsame⟩ := hchange.keeps
    exact ⟨fun x socket hx => hkeeps x socket (ih.1 x socket hx), hsame.trans ih.2⟩

section Start

variable (kernel : Kernel)

theorem Named.create_detection_channel (h : c.Named) (detection_host_ip : List UInt8) :
    let attempt := c.create_detection_channel kernel detection_host_ip
    attempt.channels.Named ∧ (attempt.ret = true →
      attempt.channels.Reaches attempt.channels.detection_socket detection_host_ip kDetectionPort) := by
  dsimp only
  rw [Channels.create_detection_channel]
  rcases create_detection_broadcast_socket_cases kernel c with
    heq | ⟨sock, socket, taken, hfresh, heq⟩
  · rw [and_then_of_not_ret (by rw [heq]), heq]
    exact ⟨⟨h.info, h.command, h.own⟩, by simp⟩
  · rw [and_then_of_ret (by rw [heq]), heq]
    dsimp only
    generalize hd : ({ c with
        process := c.process.opened sock socket
        detection_broadcast_socket := sock
        detection_io := c.detection_io ++ [add_delegate taken sock] } : Channels) = d
    have hkeeps : c.Keeps d := keeps_opened hfresh (congrArg process hd).symm
    have hnamed : d.Named := by
      rw [← hd] at hkeeps ⊢
      exact ⟨h.info.keeps hkeeps, h.command.keeps hkeeps, h.own⟩
    rcases create_detection_socket_cases kernel d detection_host_ip with
      heq | ⟨other, socket, taken', hother, hsocket, heq⟩
    · rw [heq]
      exact ⟨⟨hnamed.info, hnamed.command, hnamed.own⟩, by simp⟩
    · rw [heq]
      generalize he : ({ d with
          process := d.process.opened other socket
          detection_socket := other
          detection_io := d.detection_io ++ [add_delegate taken' other]
          channel_info := d.channel_info.insert (channel_key detection_host_ip kDetectionPort) other } :
            Channels) = e
      have hekeeps : d.Keeps e := keeps_opened hother (congrArg process he).symm
      have hreaches : e.Reaches other detection_host_ip kDetectionPort :=
        reaches_opened hsocket (congrArg process he).symm
      have hchannel : e.channel_info[channel_key detection_host_ip kDetectionPort]? = some other := by
        rw [← he, lookup_insert, if_pos rfl]
      have hsame : e.detection_socket = other := by rw [← he]
      have henamed : e.Named := by
        rw [← he] at hekeeps hreaches ⊢
        exact ⟨(hnamed.info.keeps hekeeps).insert hreaches, hnamed.command.keeps hekeeps,
          own_insert hnamed.own (hnamed.fresh hother) _⟩
      refine ⟨henamed.share hchannel, fun _ => ?_⟩
      obtain ⟨hshare, hdetection⟩ := (Change.share hchannel).keeps
      rw [hdetection, hsame]
      exact hreaches.keeps hshare

/-- The channels of a new start, and its detection socket. -/
theorem Named.start (h : c.Named) {create_channels : Channels → Attempt}
    (hcreate : ∀ d, Changes d (create_channels d).channels) (detection_host_ip : List UInt8)
    {attempt : Attempt} (hstart : c.start kernel detection_host_ip create_channels = .ok attempt) :
    attempt.channels.Named ∧ (attempt.ret = true →
      attempt.channels.Reaches attempt.channels.detection_socket detection_host_ip kDetectionPort) := by
  have hjoins := joins_of_start kernel hstart
  obtain ⟨threads, hdone, hthreads⟩ : ∃ threads, c.create_io_threads kernel = .ok threads ∧
      threads.channels.Named := by
    obtain ⟨calls, cmd_io, data_io, detection_thread, cmd_thread, data_thread, ret, heq, -⟩ :=
      create_io_threads_of_joins kernel hjoins
    exact ⟨_, heq, h.info, h.command, h.own⟩
  obtain ⟨hnamed, hreaches⟩ := hthreads.create_detection_channel kernel detection_host_ip
  rw [Channels.start, hdone] at hstart
  cases hstart
  cases hret : threads.ret with
  | false =>
    rw [and_then_of_not_ret hret]
    exact ⟨hthreads, by simp [hret]⟩
  | true =>
    rw [and_then_of_ret hret]
    cases hret' : (threads.channels.create_detection_channel kernel detection_host_ip).ret with
    | false =>
      rw [and_then_of_not_ret hret']
      exact ⟨hnamed, by simp [hret']⟩
    | true =>
      rw [and_then_of_ret hret']
      obtain ⟨hkeeps, hsame⟩ := (hcreate
        (threads.channels.create_detection_channel kernel detection_host_ip).channels).keeps
      refine ⟨hnamed.changes (hcreate _), fun _ => ?_⟩
      rw [hsame]
      exact (hreaches hret').keeps hkeeps

end Start

theorem named_of_destory (h : c.destory detection_thread = .ok d) : d.Named := by
  obtain ⟨hinfo, hcommand, -⟩ := destory_new h
  exact ⟨by simp [hinfo, Table], by simp [hcommand, Table], by simp [hinfo]⟩

end Channels

namespace DeviceManager

variable {kernel : Kernel} {crc : FastCRC} {s t : DeviceManager}

/-- Where a command to a lidar is sent: through the channel that its configuration has for the port, or
through the detection socket when there is none. -/
def Goes (s : DeviceManager) (port : define.HostNetInfo → UInt16) (handle : UInt32) (sock : Int) : Prop :=
  match s.get_channel port handle with
  | some _ =>
    ∃ cfg, s.custom_lidars_cfg_map[handle]? = some cfg ∧
      s.Reaches sock cfg.host_net_info.host_ip (port cfg.host_net_info)
  | none => s.Reaches sock s.detection_host_ip kDetectionPort

/-- Each channel is a socket of its own, and commands are sent through sockets that are open and were
opened for them. -/
structure Routed (s : DeviceManager) : Prop where
  own : ∀ (key other : List UInt8) (sock : Int), s.channel_info[key]? = some sock →
    s.channel_info[other]? = some sock → key = other
  command : s.is_initialized = true → ∀ handle,
    s.Goes (·.cmd_data_port) handle (s.send_command_socket handle)
  logger : s.is_initialized = true → ∀ handle,
    s.Goes (·.log_data_port) handle (s.send_logger_command_socket handle)

structure RoutedInv (s : DeviceManager) : Prop where
  named : s.toChannels.Named
  detection : s.is_initialized = true → s.Reaches s.detection_socket s.detection_host_ip kDetectionPort

theorem RoutedInv.goes (h : s.RoutedInv) (hinit : s.is_initialized = true)
    (port : define.HostNetInfo → UInt16) (handle : UInt32) :
    s.Goes port handle ((s.get_channel port handle).getD s.detection_socket) := by
  rw [Goes]
  cases hchannel : s.get_channel port handle with
  | none => exact h.detection hinit
  | some sock =>
    rw [DeviceManager.get_channel] at hchannel
    split at hchannel
    case h_1 cfg hcfg => exact ⟨cfg, hcfg, h.named.command.reaches hchannel⟩
    case h_2 => cases hchannel

theorem RoutedInv.routed (h : s.RoutedInv) : s.Routed where
  own := h.named.own
  command := fun hinit handle => h.goes hinit _ handle
  logger := fun hinit handle => h.goes hinit _ handle

theorem new_routedInv : DeviceManager.new.RoutedInv where
  named := ⟨by simp [Channels.Table, new, Channels.new], by simp [Channels.Table, new, Channels.new],
    by simp [new, Channels.new]⟩
  detection := by simp [new]

theorem RoutedInv.changes (h : s.RoutedInv) (hchanges : Channels.Changes s.toChannels t.toChannels)
    (hsame : t.is_initialized = s.is_initialized ∧ t.detection_host_ip = s.detection_host_ip) :
    t.RoutedInv where
  named := h.named.changes hchanges
  detection := fun hinit => by
    obtain ⟨hkeeps, hdetection⟩ := hchanges.keeps
    rw [hdetection, hsame.2]
    exact (h.detection (hsame.1 ▸ hinit)).keeps hkeeps

theorem RoutedInv.sdk_init (h : s.RoutedInv) {args : InitArgs}
    (hstep : s.sdk_init kernel args = .ok t) : t.RoutedInv := by
  have hchannels := sdk_init_channels hstep
  split at hchannels
  case isTrue =>
    obtain ⟨-, create_channels, attempt, hcreate, hstart, heq, hret⟩ := hchannels
    obtain ⟨hnamed, hreaches⟩ := h.named.start kernel hcreate t.detection_host_ip hstart
    rw [← hret, ← heq] at hreaches
    exact ⟨heq ▸ hnamed, hreaches⟩
  case isFalse =>
    obtain ⟨heq, hsame⟩ := hchannels
    refine ⟨heq ▸ h.named, fun hinit => ?_⟩
    obtain rfl := hsame hinit
    exact h.detection hinit

theorem RoutedInv.sdk_uninit (h : s.RoutedInv) (hend : s.sdk_uninit = .ok t) : t.RoutedInv := by
  rw [DeviceManager.sdk_uninit] at hend
  split at hend
  · cases hend
    exact h
  · obtain ⟨destroyed, hdestory, hend⟩ := bind_eq_ok_iff.mp hend
    rw [DeviceManager.destory] at hdestory
    obtain ⟨channels, hchannels, hdestory⟩ := bind_eq_ok_iff.mp hdestory
    cases hdestory
    cases hend
    exact ⟨Channels.named_of_destory hchannels, by simp⟩

theorem RoutedInv.step (h : s.RoutedInv) {event : SdkEvent} (hstep : s.step kernel crc event = .ok t) :
    t.RoutedInv := by
  cases event with
  | sdk_init args => exact h.sdk_init hstep
  | on_data sock datagram =>
    rw [DeviceManager.step] at hstep
    split at hstep
    · exact h.changes (on_data_changes hstep) (on_data_keeps hstep)
    · cases hstep
      exact h
  | add_view_lidar sock info =>
    rw [DeviceManager.step] at hstep
    split at hstep
    · obtain ⟨hchanges, hsame⟩ := add_view_lidar_changes hstep
      exact h.changes hchanges hsame
    · cases hstep
      exact h
  | sdk_uninit => exact h.sdk_uninit hstep

end DeviceManager

/-- In every state of a run the commands go where the configuration says. -/
theorem commands_routed (kernel : Kernel) (crc : FastCRC) (events : List SdkEvent) :
    StatesSatisfy (DeviceManager.step kernel crc) DeviceManager.Routed DeviceManager.new events :=
  (statesSatisfy_invariant (fun _ _ _ h hstep => h.step hstep) DeviceManager.new_routedInv
    events).mono fun _ h => h.routed

end livox_lidar
