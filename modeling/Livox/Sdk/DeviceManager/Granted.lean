import Livox.Sdk.DeviceManager.Sockets

open checked ordered_map

namespace livox_lidar

open util device_manager

namespace Channels

variable {kernel : Kernel} {c d e : Channels}

/-- The keys of the ports that a channel can have. -/
def keys (host_ip : List UInt8) (ports : List UInt16) : List (List UInt8) :=
  if host_ip = [] then [] else (ports.filter (· ≠ 0)).map (channel_key host_ip)

@[simp] theorem keys_nil (host_ip : List UInt8) : keys host_ip [] = [] := by
  rw [keys]
  split <;> rfl

theorem keys_append (host_ip : List UInt8) (ports others : List UInt16) :
    keys host_ip (ports ++ others) = keys host_ip ports ++ keys host_ip others := by
  rw [keys, keys, keys]
  split
  · rfl
  · rw [List.filter_append, List.map_append]

/-- The ports of `CreateDataChannel`. -/
def data_ports (host_net_info : define.HostNetInfo) : List UInt16 :=
  [host_net_info.point_data_port, host_net_info.imu_data_port, kHostDebugPointCloudPort].filter
    (· ≠ kDetectionPort)

/-- The ports of `CreateCommandChannel`. -/
def command_ports (master_sdk log_enable : Bool) (dev_type : UInt8)
    (host_net_info : define.HostNetInfo) : List UInt16 :=
  (if master_sdk then [host_net_info.cmd_data_port] else []) ++ [host_net_info.push_msg_port] ++
    (if dev_type = kLivoxLidarTypePA then [kPaHostFaultPort] else []) ++
    (if log_enable then [host_net_info.log_data_port] else [])

/-- What calls that have succeeded add: channels under these keys, and so many sockets for broadcast
messages. -/
structure Adds (c d : Channels) (data command : List (List UInt8)) (broadcast : Nat) : Prop where
  info_kept : ∀ key ∈ c.channel_info, key ∈ d.channel_info
  command_kept : ∀ key ∈ c.custom_command_channel, key ∈ d.custom_command_channel
  data : ∀ key ∈ data, key ∈ d.channel_info
  command : ∀ key ∈ command, key ∈ d.custom_command_channel
  broadcast : d.vec_broadcast_socket.length = c.vec_broadcast_socket.length + broadcast

theorem Adds.refl (c : Channels) : c.Adds c [] [] 0 :=
  ⟨fun _ h => h, fun _ h => h, by simp, by simp, rfl⟩

theorem Adds.trans {data data' command command' : List (List UInt8)} {n m : Nat}
    (h : c.Adds d data command n) (hnext : d.Adds e data' command' m) :
    c.Adds e (data ++ data') (command ++ command') (n + m) where
  info_kept := fun key hkey => hnext.info_kept key (h.info_kept key hkey)
  command_kept := fun key hkey => hnext.command_kept key (h.command_kept key hkey)
  data := fun key hkey => (List.mem_append.mp hkey).elim
    (fun hkey => hnext.info_kept key (h.data key hkey)) (hnext.data key)
  command := fun key hkey => (List.mem_append.mp hkey).elim
    (fun hkey => hnext.command_kept key (h.command key hkey)) (hnext.command key)
  broadcast := by rw [hnext.broadcast, h.broadcast, Nat.add_assoc]

/-- A call has succeeded and has added these. -/
structure Granted (c : Channels) (attempt : Attempt) (data command : List (List UInt8)) (broadcast : Nat) :
    Prop where
  ret : attempt.ret = true
  adds : c.Adds attempt.channels data command broadcast

theorem Granted.refl (c : Channels) : c.Granted { ret := true, channels := c } [] [] 0 := ⟨rfl, .refl c⟩

theorem Granted.and_then {attempt : Attempt} {next : Channels → Attempt}
    {data data' command command' : List (List UInt8)} {n m : Nat} (h : c.Granted attempt data command n)
    (hnext : ∀ d : Channels, d.Granted (next d) data' command' m) :
    c.Granted (attempt.and_then next) (data ++ data') (command ++ command') (n + m) := by
  rw [and_then_of_ret h.ret]
  exact ⟨(hnext _).ret, h.adds.trans (hnext _).adds⟩

section Create

variable (hkernel : kernel.Grants)

include hkernel

theorem create_cmd_granted (c : Channels) (host_ip : List UInt8) (port : UInt16) :
    c.Granted (c.create_cmd_socket_and_add_delegate kernel host_ip port) [] (keys host_ip [port]) 0 := by
  rw [create_cmd_socket_and_add_delegate]
  split
  case isTrue hnone =>
    have hkeys : keys host_ip [port] = [] := by
      rcases hnone with rfl | rfl | rfl <;> simp [keys, kLogPort]
    rw [hkeys]
    exact .refl c
  case isFalse hsome =>
    obtain ⟨hip, hport, -⟩ : host_ip ≠ [] ∧ port ≠ 0 ∧ port ≠ kLogPort := by simpa using hsome
    have hkeys : keys host_ip [port] = [channel_key host_ip port] := by simp [keys, hip, hport]
    rw [hkeys]
    dsimp only
    split
    case h_1 sock _ =>
      refine ⟨rfl, ?_⟩
      rw [share_command_channel]
      split
      case isTrue hmem => exact ⟨fun _ h => h, fun _ h => h, by simp, by simpa using hmem, rfl⟩
      case isFalse =>
        exact ⟨fun _ h => h, fun _ h => mem_insert_iff.mpr (.inr h), by simp,
          by simp, rfl⟩
    case h_2 =>
      obtain ⟨sock, hpositive, -, heq⟩ :=
        hkernel.create_socket c.process port true true true (netif host_ip) []
      rw [heq]
      dsimp only
      rw [if_neg (by omega)]
      exact ⟨rfl, fun _ h => mem_insert_iff.mpr (.inr h), fun _ h => mem_insert_iff.mpr (.inr h), by simp,
        by simp [add_command_channel], rfl⟩

theorem create_data_granted (c : Channels) (host_ip : List UInt8) (port : UInt16)
    (multicast_ip : List UInt8) :
    c.Granted (c.create_data_socket_and_add_delegate kernel host_ip port multicast_ip)
      (keys host_ip ([port].filter (· ≠ kDetectionPort))) [] 0 := by
  rw [create_data_socket_and_add_delegate]
  split
  case isTrue hnone =>
    have hkeys : keys host_ip ([port].filter (· ≠ kDetectionPort)) = [] := by
      rcases hnone with rfl | rfl | rfl | rfl <;> simp [keys, kLogPort]
    rw [hkeys]
    exact .refl c
  case isFalse hsome =>
    obtain ⟨hip, hport, -, hdetection⟩ : host_ip ≠ [] ∧ port ≠ 0 ∧ port ≠ kLogPort ∧
        port ≠ kDetectionPort := by simpa using hsome
    have hkeys : keys host_ip ([port].filter (· ≠ kDetectionPort)) = [channel_key host_ip port] := by
      simp [keys, hip, hport, hdetection]
    rw [hkeys]
    dsimp only
    split
    case isTrue hmem => exact ⟨rfl, fun _ h => h, fun _ h => h, by simpa using hmem, by simp, rfl⟩
    case isFalse =>
      obtain ⟨sock, hpositive, -, heq⟩ :=
        hkernel.create_socket c.process port true true false (netif host_ip) multicast_ip
      rw [heq]
      dsimp only
      rw [if_neg (by omega)]
      exact ⟨rfl, fun _ h => mem_insert_iff.mpr (.inr h), fun _ h => h,
        by simp [add_data_channel], by simp, rfl⟩

theorem create_broadcast_granted (c : Channels) (port : UInt16) :
    c.Granted (c.create_broadcast_socket kernel port) [] [] 1 := by
  rw [create_broadcast_socket]
  obtain ⟨sock, hpositive, -, heq⟩ := hkernel.create_socket c.process port true true true broadcast_ip []
  rw [heq]
  dsimp only
  rw [if_neg (by omega)]
  exact ⟨rfl, fun _ h => h, fun _ h => h, by simp, by simp, by simp [add_broadcast_socket]⟩

theorem create_data_channel_granted (c : Channels) (host_net_info : define.HostNetInfo) :
    c.Granted (c.create_data_channel kernel host_net_info)
      (keys host_net_info.host_ip (data_ports host_net_info)) [] 0 := by
  have hports : keys host_net_info.host_ip (data_ports host_net_info) =
      keys host_net_info.host_ip ([host_net_info.point_data_port].filter (· ≠ kDetectionPort)) ++
        (keys host_net_info.host_ip ([host_net_info.imu_data_port].filter (· ≠ kDetectionPort)) ++
          keys host_net_info.host_ip ([kHostDebugPointCloudPort].filter (· ≠ kDetectionPort))) := by
    rw [← keys_append, ← keys_append, ← List.filter_append, ← List.filter_append]
    rfl
  rw [hports]
  exact (create_data_granted hkernel c _ _ _).and_then fun d =>
    (create_data_granted hkernel d _ _ _).and_then fun e => create_data_granted hkernel e _ _ _

theorem create_command_channel_granted (c : Channels) (master_sdk log_enable : Bool) (dev_type : UInt8)
    (host_net_info : define.HostNetInfo) :
    c.Granted (c.create_command_channel kernel master_sdk log_enable dev_type host_net_info) []
      (keys host_net_info.host_ip (command_ports master_sdk log_enable dev_type host_net_info))
      (if has_broadcast_socket dev_type then 1 else 0) := by
  have hcmd : ∀ (d : Channels) (needed : Bool) (port : UInt16),
      d.Granted
        (if needed then d.create_cmd_socket_and_add_delegate kernel host_net_info.host_ip port
          else { ret := true, channels := d })
        [] (keys host_net_info.host_ip (if needed then [port] else [])) 0 := by
    intro d needed port
    cases needed with
    | true => exact create_cmd_granted hkernel d _ port
    | false =>
      rw [if_neg Bool.false_ne_true, if_neg Bool.false_ne_true, keys_nil]
      exact .refl d
  have hbroadcast : ∀ d : Channels,
      d.Granted
        (if has_broadcast_socket dev_type then
          d.create_broadcast_socket kernel host_net_info.push_msg_port
          else { ret := true, channels := d })
        [] [] (if has_broadcast_socket dev_type then 1 else 0) := by
    intro d
    cases has_broadcast_socket dev_type with
    | true => exact create_broadcast_granted hkernel d _
    | false => exact .refl d
  have hall := (hcmd c master_sdk host_net_info.cmd_data_port).and_then fun d =>
    (hcmd d true host_net_info.push_msg_port).and_then fun e =>
    (hcmd e (dev_type = kLivoxLidarTypePA) kPaHostFaultPort).and_then fun f =>
    (hbroadcast f).and_then fun g => hcmd g log_enable host_net_info.log_data_port
  rw [Nat.zero_add, Nat.zero_add, Nat.zero_add] at hall
  have hports : command_ports master_sdk log_enable dev_type host_net_info =
      (if master_sdk then [host_net_info.cmd_data_port] else []) ++
        ([host_net_info.push_msg_port] ++
          ((if decide (dev_type = kLivoxLidarTypePA) then [kPaHostFaultPort] else []) ++
            (if log_enable then [host_net_info.log_data_port] else []))) := by
    simp [command_ports]
  rw [hports, keys_append, keys_append, keys_append]
  exact hall

/-- The channels of all lidars in a list. -/
theorem create_lidar_channels_granted (c : Channels) (master_sdk log_enable : Bool)
    (lidars_cfg : List define.LivoxLidarCfg) :
    c.Granted (c.create_lidar_channels kernel master_sdk log_enable lidars_cfg)
      (lidars_cfg.flatMap fun cfg => keys cfg.host_net_info.host_ip (data_ports cfg.host_net_info))
      (lidars_cfg.flatMap fun cfg => keys cfg.host_net_info.host_ip
        (command_ports master_sdk log_enable cfg.device_type cfg.host_net_info))
      (lidars_cfg.countP fun cfg => has_broadcast_socket cfg.device_type) := by
  induction lidars_cfg generalizing c with
  | nil => exact .refl c
  | cons cfg rest ih =>
    have hone := (create_data_channel_granted hkernel c cfg.host_net_info).and_then fun d =>
      (create_command_channel_granted hkernel d master_sdk log_enable cfg.device_type
        cfg.host_net_info).and_then ih
    rw [Nat.zero_add, Nat.add_comm] at hone
    rw [List.flatMap_cons, List.flatMap_cons, List.countP_cons]
    exact hone

/-- A start comes to the functions that create the channels of the lidars. -/
theorem start_granted {c : Channels} (hjoins : c.Joins kernel) (detection_host_ip : List UInt8)
    (create_channels : Channels → Attempt) :
    ∃ d, d.vec_broadcast_socket = c.vec_broadcast_socket ∧
      c.start kernel detection_host_ip create_channels = .ok (create_channels d) := by
  obtain ⟨d, hd, hthreads⟩ : ∃ d, d.vec_broadcast_socket = c.vec_broadcast_socket ∧
      c.create_io_threads kernel = .ok { ret := true, channels := d } := by
    obtain ⟨hdetection, hrest⟩ := hjoins
    obtain ⟨hcmd, hrest⟩ := hrest (hkernel.epoll_create _)
    have hdata := hrest (hkernel.epoll_create _)
    simp only [create_io_threads, create_detection_io_thread, create_command_io_thread,
      create_data_io_thread, replace_io_thread, create_io_thread, Process.called, hkernel.epoll_create,
      hdetection, hcmd, hdata, decide_true, if_true, if_false, ok_bind, Bool.true_eq_false]
    refine ⟨_, ?_, rfl⟩
    rfl
  obtain ⟨e, he, hbroadcast⟩ : ∃ e, e.vec_broadcast_socket = d.vec_broadcast_socket ∧
      d.create_detection_broadcast_socket kernel = { ret := true, channels := e } := by
    rw [create_detection_broadcast_socket]
    obtain ⟨sock, hpositive, -, heq⟩ :=
      hkernel.create_socket d.process kDetectionPort true true true broadcast_ip []
    rw [heq]
    dsimp only
    rw [if_neg (by omega)]
    refine ⟨_, ?_, rfl⟩
    rfl
  obtain ⟨f, hf, hdetection⟩ : ∃ f, f.vec_broadcast_socket = e.vec_broadcast_socket ∧
      e.create_detection_socket kernel detection_host_ip = { ret := true, channels := f } := by
    rw [create_detection_socket]
    obtain ⟨sock, hpositive, -, heq⟩ :=
      hkernel.create_socket e.process kDetectionPort true true true detection_host_ip []
    rw [heq]
    dsimp only
    rw [if_neg (by omega)]
    refine ⟨_, ?_, rfl⟩
    rw [share_command_channel]
    split <;> rfl
  refine ⟨f, hf.trans (he.trans hd), ?_⟩
  rw [Channels.start, hthreads, ok_bind, and_then_true, create_detection_channel, hbroadcast, and_then_true,
    hdetection, and_then_true]

end Create

/-- A viewer's channels take nothing from the others, whether they can be opened or not. -/
theorem create_view_data_channel_adds (c : Channels) (info : device_manager.ViewLidarIpInfo) :
    c.Adds (c.create_view_data_channel kernel info).channels [] [] 0 := by
  have hone : ∀ (d : Channels) (port : UInt16),
      d.Adds (d.create_view_socket kernel info.host_ip port).channels [] [] 0 := by
    intro d port
    rw [create_view_socket]
    dsimp only
    split
    · exact .refl d
    · split
      · exact ⟨fun _ h => h, fun _ h => h, by simp, by simp, rfl⟩
      · exact ⟨fun _ h => mem_insert_iff.mpr (.inr h), fun _ h => h, by simp, by simp, rfl⟩
  rw [create_view_data_channel, Attempt.and_then]
  split
  · exact (hone c _).trans (hone _ _)
  · exact hone c _

end Channels

end livox_lidar
