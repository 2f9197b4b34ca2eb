import Livox.Sdk.DeviceManager.Managed
import Livox.Sdk.DeviceManager.Serving

open checked execution ordered_map

namespace livox_lidar

open util device_manager

namespace Channels

variable {c d : Channels} {sock x : Int}

/-- Every socket that is open is listed, and a loop calls the manager for it. -/
def Kept (c : Channels) : Prop := ∀ sock ∈ c.process.sockets, sock ∈ c.listed ∧ c.Delegated sock

/-- The socket is open, and nothing will ever close it. -/
def Leaked (c : Channels) (sock : Int) : Prop := sock ∈ c.process.sockets ∧ sock ∉ c.listed

@[simp] theorem detection_broadcast_socket_share (c : Channels) (key : List UInt8) (sock : Int) :
    (c.share_command_channel key sock).detection_broadcast_socket = c.detection_broadcast_socket := by
  rw [share_command_channel]
  split <;> rfl

/-- One call opens nothing, or one socket that is then listed. -/
theorem Change.opened (h : Change c d) :
    d.process.sockets = c.process.sockets ∧ d.listed = c.listed ∨
      ∃ sock socket, c.Fresh sock ∧ d.process.sockets = c.process.sockets.insert sock socket ∧
        d.listed.Perm (sock :: c.listed) := by
  cases h with
  | refused => exact .inl ⟨rfl, rfl⟩
  | share hchannel => exact .inl ⟨by rw [process_share], listed_share c _ _⟩
  | @command host_ip port sock socket taken hfresh =>
    exact .inr ⟨sock, socket, hfresh, rfl, listed_command c taken _ _ sock⟩
  | @data host_ip port sock socket taken hfresh =>
    exact .inr ⟨sock, socket, hfresh, rfl, listed_data c taken _ _ sock⟩
  | @view host_ip port sock socket taken hfresh =>
    exact .inr ⟨sock, socket, hfresh, rfl, listed_view c taken _ _ sock⟩
  | @broadcast sock socket taken hfresh =>
    exact .inr ⟨sock, socket, hfresh, rfl, listed_broadcast c taken _ sock⟩

/-- No call replaces the threads or the socket for the detection's broadcasts. -/
theorem Change.threads (h : Change c d) :
    d.detection_broadcast_socket = c.detection_broadcast_socket ∧ (c.AllStarted → d.AllStarted) := by
  cases h with
  | share hchannel =>
    refine ⟨detection_broadcast_socket_share _ _ _, fun hstarted => ?_⟩
    rw [share_command_channel]
    split <;> exact hstarted
  | refused | command | data | view | broadcast => exact ⟨rfl, fun hstarted => hstarted⟩

/-- What the channels have while none are begun over others: what is open is listed, and while there is
something the threads run and serve it. -/
structure Clean (c : Channels) : Prop where
  listed : ∀ sock ∈ c.process.sockets, sock ∈ c.listed
  served : c.listed ≠ [] → 0 < c.detection_broadcast_socket ∧ c.AllStarted ∧ c.Served

theorem Clean.of_closed (h : c.Sound) (hnone : ∀ sock, sock ∉ c.process.sockets) : c.Clean where
  listed := fun sock hsock => absurd hsock (hnone sock)
  served := fun hlisted => by
    obtain ⟨sock, hsock⟩ := List.exists_mem_of_ne_nil _ hlisted
    exact absurd (h.opened sock hsock).2 (hnone sock)

theorem Clean.change (h : c.Clean) (hsound : c.Sound) (hlisted : c.listed ≠ []) (hchange : Change c d) :
    d.Clean := by
  obtain ⟨hpositive, hstarted, hserved⟩ := h.served hlisted
  obtain ⟨hsame, hthreads⟩ := hchange.threads
  refine ⟨fun x hx => ?_, fun _ => ⟨hsame ▸ hpositive, hthreads hstarted, hserved.change hsound hchange⟩⟩
  obtain ⟨hsockets, hlisted⟩ | ⟨sock, socket, -, hsockets, hperm⟩ := hchange.opened
  · rw [hsockets] at hx
    exact hlisted ▸ h.listed x hx
  · rw [hsockets, mem_insert_iff] at hx
    exact hperm.mem_iff.mpr (List.mem_cons.mpr (hx.imp_right (h.listed x)))

theorem Clean.changes (h : c.Clean) (hsound : c.Sound) (hlisted : c.listed ≠ [])
    (hchanges : Changes c d) : d.Clean := by
  have hall : d.Clean ∧ d.Sound ∧ d.listed ≠ [] := by
    induction hchanges with
    | refl => exact ⟨h, hsound, hlisted⟩
    | tail _ hchange ih => exact ⟨ih.1.change ih.2.1 ih.2.2 hchange, ih.2.1.change ih.2.2 hchange⟩
  exact hall.1

/-- Of clean channels all are kept just if the loops have room for them. -/
theorem Clean.kept_iff_fits (h : c.Clean) (hsound : c.Sound) : c.Kept ↔ c.Fits := by
  by_cases hlisted : c.listed = []
  · have hnone : ∀ sock, sock ∉ c.process.sockets := by
      intro sock hsock
      have hmem := h.listed sock hsock
      rw [hlisted] at hmem
      exact List.not_mem_nil hmem
    have hvec : c.socket_vec = [] ∧ c.vec_broadcast_socket = [] := by
      rw [Channels.listed, List.append_eq_nil_iff, List.append_eq_nil_iff] at hlisted
      exact ⟨hlisted.1.2, hlisted.2⟩
    refine iff_of_true (fun sock hsock => absurd hsock (hnone sock)) ⟨?_, ?_, ?_⟩
    · simp [cmd_sockets, hvec]
    · simp [data_sockets, hvec]
    · simp [hlisted]
  · rw [← (h.served hlisted).2.2.delegated_iff_fits hsound]
    constructor
    · exact fun hkept sock hsock => (hkept sock (hsound.opened sock hsock).2).2
    · exact fun hall sock hsock => ⟨h.listed sock hsock, hall sock (h.listed sock hsock)⟩

/-- A socket that has leaked stays open. -/
theorem Leaked.changes (h : c.Leaked x) (hchanges : Changes c d) : d.Leaked x := by
  induction hchanges with
  | refl => exact h
  | tail _ hchange ih =>
    rcases hchange.opened with ⟨hsockets, hlisted⟩ | ⟨sock, socket, hfresh, hsockets, hperm⟩
    · exact ⟨hsockets ▸ ih.1, hlisted ▸ ih.2⟩
    · refine ⟨hsockets ▸ mem_insert_iff.mpr (.inr ih.1), fun hmem => ?_⟩
      rcases List.mem_cons.mp (hperm.mem_iff.mp hmem) with rfl | hmem
      · exact hfresh.2 ih.1
      · exact ih.2 hmem

theorem Leaked.not_kept (h : c.Leaked x) : ¬ c.Kept := fun hkept => h.2 (hkept x h.1).1

section Start

variable (kernel : Kernel)

theorem Clean.share (h : c.Clean) (key : List UInt8) (sock : Int) :
    (c.share_command_channel key sock).Clean := by
  rw [share_command_channel]
  split
  · exact h
  · refine ⟨h.listed, fun hlisted => ?_⟩
    obtain ⟨hpositive, hstarted, hserved⟩ := h.served hlisted
    exact ⟨hpositive, hstarted, hserved.detection, hserved.cmd, hserved.data⟩

/-- The sockets for the detection are clean when they are the only ones. -/
theorem Sound.create_detection_channel_clean (h : c.Sound) (hnone : ∀ sock, sock ∉ c.process.sockets)
    (hdetection : c.detection_io = []) (hcmd : c.cmd_io = []) (hdata : c.data_io = [])
    (hstarted : c.AllStarted) (detection_host_ip : List UInt8) :
    (c.create_detection_channel kernel detection_host_ip).channels.Clean := by
  have hvec : c.socket_vec = [] := List.eq_nil_iff_forall_not_mem.mpr fun x hx =>
    hnone x (h.opened x (mem_listed.mpr (.inr (.inl hx)))).2
  have hbroadcast : c.vec_broadcast_socket = [] := List.eq_nil_iff_forall_not_mem.mpr fun x hx =>
    hnone x (h.opened x (mem_listed.mpr (.inr (.inr hx)))).2
  have hserves_cmd : Serves c.cmd_io c.cmd_sockets := by
    rw [cmd_sockets, hvec, hbroadcast, hcmd]
    exact serves_nil
  have hserves_data : Serves c.data_io c.data_sockets := by
    rw [data_sockets, hvec, hdata]
    exact serves_nil
  obtain ⟨hsound, -⟩ :=
    h.create_detection_broadcast_socket kernel hdetection hcmd hdata hstarted.has_io_threads
  rw [Channels.create_detection_channel]
  rcases create_detection_broadcast_socket_cases kernel c with
    heq | ⟨sock, socket, taken, hfresh, heq⟩
  · rw [and_then_of_not_ret (by rw [heq])]
    refine .of_closed hsound ?_
    rw [heq]
    exact hnone
  · rw [and_then_of_ret (by rw [heq]), heq]
    dsimp only
    generalize hd : ({ c with
        process := c.process.opened sock socket
        detection_broadcast_socket := sock
        detection_io := c.detection_io ++ [add_delegate taken sock] } : Channels) = d
    have hdbroadcast : d.detection_broadcast_socket = sock := by rw [← hd]
    have hdio : d.detection_io = [add_delegate taken sock] := by
      rw [← hd, hdetection]
      rfl
    have hdopen : ∀ x ∈ d.process.sockets, x = sock := by
      rw [← hd]
      exact fun x hx => (mem_insert_iff.mp hx).resolve_right (hnone x)
    have hdstarted : d.AllStarted := by rwa [← hd]
    have hdcmd : Serves d.cmd_io d.cmd_sockets := by rwa [← hd]
    have hddata : Serves d.data_io d.data_sockets := by rwa [← hd]
    have hserves : Serves [add_delegate taken sock] [sock] := serves_nil.add List.not_mem_nil taken
    rcases create_detection_socket_cases kernel d detection_host_ip with
      heq | ⟨other, socket, taken', hother, -, heq⟩
    · rw [heq]
      refine ⟨fun x hx => ?_, fun _ => ⟨hdbroadcast ▸ hfresh.1, hdstarted, ?_, hdcmd, hddata⟩⟩
      · obtain rfl := hdopen x hx
        exact mem_listed.mpr (.inl (mem_detection_sockets.mpr ⟨.inl hdbroadcast.symm, hfresh.1⟩))
      · rw [detection_sockets]
        dsimp only
        rw [hdbroadcast, hdio, List.filter_cons_of_pos (by simpa using hfresh.1),
          List.filter_cons_of_neg (by simp), List.filter_nil]
        exact hserves
    · rw [heq]
      refine Clean.share ?_ _ _
      refine ⟨fun x hx => ?_, fun _ => ⟨hdbroadcast ▸ hfresh.1, hdstarted, ?_, hdcmd, hddata⟩⟩
      · rcases mem_insert_iff.mp hx with rfl | hx
        · exact mem_listed.mpr (.inl (mem_detection_sockets.mpr ⟨.inr rfl, hother.1⟩))
        · obtain rfl := hdopen x hx
          exact mem_listed.mpr (.inl (mem_detection_sockets.mpr ⟨.inl hdbroadcast.symm, hfresh.1⟩))
      · rw [detection_sockets]
        dsimp only
        rw [hdbroadcast, hdio, List.filter_cons_of_pos (by simpa using hfresh.1),
          List.filter_cons_of_pos (by simpa using hother.1), List.filter_nil]
        have hne : other ∉ [sock] := fun hmem => by
          obtain rfl := List.mem_singleton.mp hmem
          exact hother.2 (hd ▸ mem_insert_iff.mpr (.inl rfl))
        exact (hserves.add hne taken').perm (List.Perm.swap _ _ _)

/-- A start that finds nothing open is clean. -/
theorem Sound.start_clean (h : c.Sound) (hnone : ∀ sock, sock ∉ c.process.sockets)
    {create_channels : Channels → Attempt} (hcreate : ∀ d, Changes d (create_channels d).channels)
    (detection_host_ip : List UInt8) {attempt : Attempt}
    (hstart : c.start kernel detection_host_ip create_channels = .ok attempt) :
    attempt.channels.Clean := by
  have hjoins := joins_of_start kernel hstart
  obtain ⟨threads, hdone, hthreads, hsockets, -, hdetection, -, hquiet⟩ := h.create_io_threads kernel hjoins
  have hnone' : ∀ sock, sock ∉ threads.channels.process.sockets := by rwa [hsockets]
  rw [Channels.start, hdone] at hstart
  cases hstart
  cases hret : threads.ret with
  | false =>
    rw [and_then_of_not_ret hret]
    exact .of_closed hthreads hnone'
  | true =>
    rw [and_then_of_ret hret]
    obtain ⟨hcmd, hdata, hstarted⟩ := hquiet hret
    have hclean := hthreads.create_detection_channel_clean kernel hnone' hdetection hcmd hdata hstarted
      detection_host_ip
    obtain ⟨hsound, hlisted⟩ := hthreads.create_detection_channel kernel hdetection hcmd hdata
      hstarted.has_io_threads detection_host_ip
    exact and_then_rule hclean fun hret' => hclean.changes hsound (hlisted hret') (hcreate _)

/-- The old socket for broadcasts is in no container but its own. -/
theorem Sound.broadcast_apart (h : c.Sound) (hpositive : 0 < c.detection_broadcast_socket) :
    c.detection_broadcast_socket ∈ c.process.sockets ∧
      c.detection_broadcast_socket ∉ c.socket_vec ∧
      c.detection_broadcast_socket ∉ c.vec_broadcast_socket ∧
      c.detection_socket ≠ c.detection_broadcast_socket := by
  obtain ⟨hopen, hvec, hbroadcast⟩ := h.detected (mem_detection_sockets.mpr ⟨.inl rfl, hpositive⟩)
  refine ⟨hopen, hvec, hbroadcast, fun hsame => ?_⟩
  have hnodup := h.nodup
  rw [Channels.listed, List.append_assoc, List.nodup_append] at hnodup
  have hdetection := hnodup.1
  rw [detection_sockets, hsame] at hdetection
  simp [hpositive] at hdetection

theorem leaked_of_replaced (hopen : x ∈ d.process.sockets) (hvec : x ∉ d.socket_vec)
    (hbroadcast : x ∉ d.vec_broadcast_socket) (hfirst : x ≠ d.detection_broadcast_socket)
    (hsecond : x ≠ d.detection_socket) : d.Leaked x := by
  refine ⟨hopen, fun hmem => ?_⟩
  rcases mem_listed.mp hmem with hmem | hmem | hmem
  · exact (mem_detection_sockets.mp hmem).1.elim hfirst hsecond
  · exact hvec hmem
  · exact hbroadcast hmem

/-- A second socket for broadcasts takes the place of the first one, which leaks. -/
theorem Sound.create_detection_channel_leaked (h : c.Sound)
    (hpositive : 0 < c.detection_broadcast_socket) (detection_host_ip : List UInt8) :
    (c.create_detection_channel kernel detection_host_ip).channels.Leaked
      c.detection_broadcast_socket := by
  obtain ⟨hopen, hvec, hbroadcast, hapart⟩ := h.broadcast_apart hpositive
  rw [Channels.create_detection_channel]
  rcases create_detection_broadcast_socket_cases kernel c with
    heq | ⟨sock, socket, taken, hfresh, heq⟩
  · rw [and_then_of_not_ret (by rw [heq]), heq]
    exact leaked_of_replaced hopen hvec hbroadcast (by simp; omega) hapart.symm
  · rw [and_then_of_ret (by rw [heq]), heq]
    dsimp only
    have hne : c.detection_broadcast_socket ≠ sock := fun hsame => hfresh.2 (hsame ▸ hopen)
    have hopen' : c.detection_broadcast_socket ∈ (c.process.opened sock socket).sockets :=
      mem_insert_iff.mpr (.inr hopen)
    generalize hd : ({ c with
        process := c.process.opened sock socket
        detection_broadcast_socket := sock
        detection_io := c.detection_io ++ [add_delegate taken sock] } : Channels) = d
    have hdopen : c.detection_broadcast_socket ∈ d.process.sockets := by rwa [← hd]
    have hdvec : c.detection_broadcast_socket ∉ d.socket_vec := by rwa [← hd]
    have hdbroadcast : c.detection_broadcast_socket ∉ d.vec_broadcast_socket := by rwa [← hd]
    have hdne : c.detection_broadcast_socket ≠ d.detection_broadcast_socket := by rwa [← hd]
    rcases create_detection_socket_cases kernel d detection_host_ip with
      heq | ⟨other, socket, taken', hother, -, heq⟩
    · rw [heq]
      exact leaked_of_replaced hdopen hdvec hdbroadcast hdne (by simp; omega)
    · rw [heq]
      rw [Leaked, process_share, listed_share]
      have hdother : c.detection_broadcast_socket ≠ other := fun hsame => hother.2 (hsame ▸ hdopen)
      exact leaked_of_replaced (mem_insert_iff.mpr (.inr hdopen)) hdvec hdbroadcast hdne hdother

/-- A start that finds a socket for broadcasts loses it, or the loop that calls for it. -/
theorem Sound.start_not_kept (h : c.Sound) (hpositive : 0 < c.detection_broadcast_socket)
    {create_channels : Channels → Attempt} (hcreate : ∀ d, Changes d (create_channels d).channels)
    (detection_host_ip : List UInt8) {attempt : Attempt}
    (hstart : c.start kernel detection_host_ip create_channels = .ok attempt) :
    ¬ attempt.channels.Kept := by
  have hjoins := joins_of_start kernel hstart
  obtain ⟨threads, hdone, hthreads, -, -, hdetection, hsame, -⟩ := h.create_io_threads kernel hjoins
  rw [← hsame] at hpositive
  rw [Channels.start, hdone] at hstart
  cases hstart
  cases hret : threads.ret with
  | false =>
    rw [and_then_of_not_ret hret]
    obtain ⟨hopen, hvec, hbroadcast, -⟩ := hthreads.broadcast_apart hpositive
    intro hkept
    obtain ⟨hlisted, hcalls⟩ := hkept _ hopen
    have hplace := hthreads.in_place (List.ne_nil_of_mem hlisted)
    rcases hcalls with hio | hio | hio
    · simp [hdetection] at hio
    · exact (hplace.cmd _ hio).elim (fun hmem => hvec (hthreads.commands _ hmem)) hbroadcast
    · exact hvec (hplace.data _ hio).1
  | true =>
    rw [and_then_of_ret hret]
    have hleaked := hthreads.create_detection_channel_leaked kernel hpositive detection_host_ip
    refine and_then_rule (P := fun d => ¬ d.Kept) hleaked.not_kept fun _ => ?_
    exact (hleaked.changes (hcreate _)).not_kept

end Start

end Channels

namespace DeviceManager

variable {kernel : Kernel} {crc : FastCRC} {s t : DeviceManager}

/-- `LivoxLidarSdkInit` gets past the loggers, with a configuration that is not empty. -/
def Begins (s : DeviceManager) (args : InitArgs) : Prop :=
  s.is_initialized = false ∧ args.starts = true ∧ s.OneLogger args

/-- The SDK is not begun over sockets that are still there: an initialization that failed behind its
first socket is not tried again. -/
def BeginsClean (s : DeviceManager) : SdkEvent → Prop
  | .sdk_init args => s.Begins args → s.listed = []
  | _ => True

structure KeptInv (s : DeviceManager) : Prop where
  sound : s.Sound
  clean : s.toChannels.Clean

theorem new_keptInv : DeviceManager.new.KeptInv where
  sound := new_sound
  clean := .of_closed new_sound.channels (by simp [new, Channels.new])

theorem KeptInv.changes (h : s.KeptInv) (hlisted : s.listed ≠ []) (ht : t.Sound)
    (hchanges : Channels.Changes s.toChannels t.toChannels) : t.KeptInv :=
  ⟨ht, h.clean.changes h.sound.channels hlisted hchanges⟩

theorem KeptInv.sdk_init (h : s.KeptInv) {args : InitArgs} (hclean : s.BeginsClean (.sdk_init args))
    (hstep : s.sdk_init kernel args = .ok t) : t.KeptInv := by
  have hchannels := sdk_init_channels hstep
  refine ⟨h.sound.sdk_init hstep, ?_⟩
  split at hchannels
  case isTrue hstarts =>
    obtain ⟨hone, create_channels, attempt, hcreate, hstart, heq, -⟩ := hchannels
    have hlisted : s.listed = [] := hclean ⟨hstarts.1, hstarts.2, hone⟩
    have hnone : ∀ sock, sock ∉ s.process.sockets := by
      intro sock hsock
      have hmem := h.clean.listed sock hsock
      rw [hlisted] at hmem
      exact List.not_mem_nil hmem
    rw [heq]
    exact h.sound.channels.start_clean kernel hnone hcreate t.detection_host_ip hstart
  case isFalse =>
    rw [hchannels.1]
    exact h.clean

theorem KeptInv.sdk_uninit (h : s.KeptInv) (hend : s.sdk_uninit = .ok t) : t.KeptInv := by
  cases hinit : s.is_initialized with
  | false =>
    rw [DeviceManager.sdk_uninit, if_pos hinit] at hend
    cases hend
    exact h
  | true =>
    obtain ⟨t', hone, ht, hsockets, -⟩ := h.sound.sdk_uninit hinit
    obtain rfl : t = t' := Except.ok.inj (hend.symm.trans hone)
    refine ⟨ht, .of_closed ht.channels fun sock hsock => ?_⟩
    obtain ⟨hopen, hnot⟩ := (hsockets sock).mp hsock
    exact hnot (h.clean.listed sock hopen)

theorem KeptInv.step (h : s.KeptInv) {event : SdkEvent} (hclean : s.BeginsClean event)
    (hstep : s.step kernel crc event = .ok t) : t.KeptInv := by
  have ht := h.sound.step hstep
  cases event with
  | sdk_init args => exact h.sdk_init hclean hstep
  | on_data sock datagram =>
    rw [DeviceManager.step] at hstep
    split at hstep
    case isTrue hsock => exact h.changes (h.sound.listed_ne_nil hsock) ht (on_data_changes hstep)
    case isFalse =>
      cases hstep
      exact h
  | add_view_lidar sock info =>
    rw [DeviceManager.step] at hstep
    split at hstep
    case isTrue hsock =>
      exact h.changes (h.sound.listed_ne_nil hsock) ht (add_view_lidar_changes hstep).1
    case isFalse =>
      cases hstep
      exact h
  | sdk_uninit => exact h.sdk_uninit hstep

/-- A socket is lost as soon as the SDK is begun over another one. -/
theorem KeptInv.sdk_init_breaks (h : s.KeptInv) {event : SdkEvent} (hnot : ¬ s.BeginsClean event) :
    ∃ t, s.step kernel crc event = .ok t ∧ ¬ t.toChannels.Kept := by
  cases event with
  | sdk_init args =>
    obtain ⟨⟨hinit, hstarts, hone⟩, hlisted⟩ : s.Begins args ∧ s.listed ≠ [] := Classical.not_imp.mp hnot
    obtain ⟨hpositive, hstarted, -⟩ := h.clean.served hlisted
    obtain ⟨t, hstep⟩ :=
      (h.sound.sdk_init_completes_iff args).mpr (.inr (.inr ⟨hone, hstarted.joins kernel⟩))
    have hchannels := sdk_init_channels hstep
    rw [if_pos ⟨hinit, hstarts⟩] at hchannels
    obtain ⟨-, create_channels, attempt, hcreate, hstart, heq, -⟩ := hchannels
    refine ⟨t, hstep, ?_⟩
    rw [heq]
    exact h.sound.channels.start_not_kept kernel hpositive hcreate _ hstart
  | on_data | add_view_lidar | sdk_uninit => exact absurd trivial hnot

end DeviceManager

/-- All sockets that are open are listed and called for in every state just if the SDK is never begun
over sockets that are still there, and no loop is ever asked to call for more than it has room for. -/
theorem sockets_kept_iff (kernel : Kernel) (crc : FastCRC) (events : List SdkEvent) :
    StatesSatisfy (DeviceManager.step kernel crc) (fun s => s.toChannels.Kept) DeviceManager.new events ↔
      StepsSatisfy (DeviceManager.step kernel crc) DeviceManager.BeginsClean DeviceManager.new events ∧
        StatesSatisfy (DeviceManager.step kernel crc) (fun s => s.toChannels.Fits) DeviceManager.new
          events :=
  statesSatisfy_iff_stepsSatisfy_and_statesSatisfy (fun _ h => h.clean.kept_iff_fits h.sound.channels)
    (fun _ _ _ h hclean hstep => h.step hclean hstep) (fun _ _ h hnot => h.sdk_init_breaks hnot)
    DeviceManager.new_keptInv events

end livox_lidar
