import Livox.Sdk.DeviceManager.Changes

open checked execution ordered_map

namespace livox_lidar

open util device_manager

section Close

variable {process : Process} {socks : List Int}

theorem close_socks_append (process : Process) (socks others : List Int) :
    Channels.close_socks process (socks ++ others) =
      Channels.close_socks process socks >>= fun process => Channels.close_socks process others := by
  rw [Channels.close_socks, List.foldlM_append]
  rfl

/-- Descriptors that are open and distinct can be closed one after the other. -/
theorem close_socks_spec (hnodup : (socks.filter (0 < ·)).Nodup)
    (hopen : ∀ sock ∈ socks, 0 < sock → sock ∈ process.sockets) :
    ∃ closed, Channels.close_socks process socks = .ok closed ∧
      ∀ sock, sock ∈ closed.sockets ↔ sock ∈ process.sockets ∧ ¬ (sock ∈ socks ∧ 0 < sock) := by
  induction socks generalizing process with
  | nil => exact ⟨process, rfl, by simp⟩
  | cons x socks ih =>
    by_cases hx : 0 < x
    · rw [List.filter_cons_of_pos (by simpa using hx)] at hnodup
      obtain ⟨hnew, hnodup⟩ := List.nodup_cons.mp hnodup
      have hrest : ∀ sock ∈ socks, 0 < sock → sock ∈ process.sockets.erase x := by
        intro sock hsock hpos
        refine mem_erase_iff.mpr ⟨?_, hopen sock (List.mem_cons_of_mem x hsock) hpos⟩
        rintro rfl
        exact hnew (List.mem_filter.mpr ⟨hsock, by simpa using hpos⟩)
      obtain ⟨closed, hclosed, hmem⟩ :=
        @ih { process with sockets := process.sockets.erase x } hnodup hrest
      refine ⟨closed, ?_, fun sock => ?_⟩
      · rw [Channels.close_socks, List.foldlM_cons, close_sock, if_pos hx,
          if_pos (hopen x (by simp) hx), ok_bind]
        exact hclosed
      · rw [hmem]
        dsimp only
        rw [mem_erase_iff, List.mem_cons]
        constructor
        · rintro ⟨⟨hne, hin⟩, hnot⟩
          exact ⟨hin, fun hout => hnot ⟨hout.1.resolve_left hne, hout.2⟩⟩
        · rintro ⟨hin, hnot⟩
          exact ⟨⟨fun heq => hnot ⟨.inl heq, heq ▸ hx⟩, hin⟩, fun hout => hnot ⟨.inr hout.1, hout.2⟩⟩
    · rw [List.filter_cons_of_neg (by simpa using hx)] at hnodup
      obtain ⟨closed, hclosed, hmem⟩ :=
        ih hnodup fun sock hsock => hopen sock (List.mem_cons_of_mem x hsock)
      refine ⟨closed, ?_, fun sock => ?_⟩
      · rw [Channels.close_socks, List.foldlM_cons, close_sock, if_neg hx, ok_bind]
        exact hclosed
      · rw [hmem, List.mem_cons]
        constructor
        · rintro ⟨hin, hnot⟩
          refine ⟨hin, fun hout => ?_⟩
          rcases hout with ⟨rfl | hmem, hpos⟩
          · exact hx hpos
          · exact hnot ⟨hmem, hpos⟩
        · rintro ⟨hin, hnot⟩
          exact ⟨hin, fun hout => hnot ⟨.inr hout.1, hout.2⟩⟩

end Close

namespace Channels

variable {c d : Channels} {sock x : Int} {socket : Socket} {key : List UInt8} {process : Process}
  {taken : Bool}

theorem mem_insert_sock {socks : Std.TreeSet Int} : x ∈ socks.insert sock ↔ x = sock ∨ x ∈ socks := by
  rw [Std.TreeSet.mem_insert, Std.LawfulEqCmp.compare_eq_iff_eq, eq_comm]

section Listed

theorem listed_command (c : Channels) (taken : Bool) (process : Process) (key : List UInt8) (sock : Int) :
    (c.add_command_channel taken process key sock).listed.Perm (sock :: c.listed) := by
  simp only [listed, add_command_channel, detection_sockets, List.append_assoc, List.cons_append,
    List.nil_append]
  rw [← List.append_assoc, ← List.append_assoc]
  exact List.perm_middle

theorem listed_data (c : Channels) (taken : Bool) (process : Process) (key : List UInt8) (sock : Int) :
    (c.add_data_channel taken process key sock).listed.Perm (sock :: c.listed) :=
  listed_command c taken process key sock

theorem listed_view (c : Channels) (taken : Bool) (process : Process) (key : List UInt8) (sock : Int) :
    (c.add_view_channel taken process key sock).listed.Perm (sock :: c.listed) :=
  listed_command c taken process key sock

theorem listed_broadcast (c : Channels) (taken : Bool) (process : Process) (sock : Int) :
    (c.add_broadcast_socket taken process sock).listed.Perm (sock :: c.listed) := by
  rw [listed, add_broadcast_socket, ← List.append_assoc]
  exact List.perm_append_singleton _ _

@[simp] theorem listed_share (c : Channels) (key : List UInt8) (sock : Int) :
    (c.share_command_channel key sock).listed = c.listed := by
  rw [share_command_channel]
  split <;> rfl

@[simp] theorem process_share (c : Channels) (key : List UInt8) (sock : Int) :
    (c.share_command_channel key sock).process = c.process := by
  rw [share_command_channel]
  split <;> rfl

end Listed

/-- Each loop calls the manager only for sockets in containers of its own. -/
structure InPlace (c : Channels) : Prop where
  detection : ∀ sock, delegates c.detection_io sock → sock ∈ c.detection_sockets
  cmd : ∀ sock, delegates c.cmd_io sock → sock ∈ c.command_channel ∨ sock ∈ c.vec_broadcast_socket
  data : ∀ sock, delegates c.data_io sock → sock ∈ c.socket_vec ∧ sock ∉ c.command_channel

/-- No socket stands in two places, all are open, a loop does not call for another one, and the loops
are there while there are sockets. -/
structure Sound (c : Channels) : Prop where
  nodup : c.listed.Nodup
  opened : ∀ sock ∈ c.listed, 0 < sock ∧ sock ∈ c.process.sockets
  commands : ∀ sock ∈ c.command_channel, sock ∈ c.socket_vec
  data : ∀ sock ∈ c.data_channel, sock ∈ c.socket_vec ∧ sock ∉ c.command_channel
  in_place : c.listed ≠ [] → c.InPlace
  stale : c.listed = [] → ∀ sock ∈ c.process.sockets, ¬ c.Delegated sock
  threads : c.listed ≠ [] → c.has_io_threads = true

theorem InPlace.listed (h : c.InPlace) (hcommands : ∀ sock ∈ c.command_channel, sock ∈ c.socket_vec)
    (hdelegated : c.Delegated sock) : sock ∈ c.listed := by
  rw [mem_listed]
  rcases hdelegated with hio | hio | hio
  · exact .inl (h.detection sock hio)
  · rcases h.cmd sock hio with hmem | hmem
    · exact .inr (.inl (hcommands sock hmem))
    · exact .inr (.inr hmem)
  · exact .inr (.inl (h.data sock hio).1)

theorem Sound.listed (h : c.Sound) (hopen : sock ∈ c.process.sockets) (hdelegated : c.Delegated sock) :
    sock ∈ c.listed := by
  by_cases hlisted : c.listed = []
  · exact absurd hdelegated (h.stale hlisted sock hopen)
  · exact (h.in_place hlisted).listed h.commands hdelegated

/-- The threads of the loops run. -/
def AllStarted (c : Channels) : Prop :=
  c.detection_io_thread = .started ∧ c.cmd_io_thread = .started ∧ c.data_io_thread = .started

theorem AllStarted.has_io_threads (h : c.AllStarted) : c.has_io_threads = true := by
  simp [Channels.has_io_threads, h.1, h.2.1, h.2.2]

theorem AllStarted.joins (h : c.AllStarted) (kernel : Kernel) : c.Joins kernel := by
  simp [Joins, h.1, h.2.1, h.2.2]

/-- A new socket is in none of the containers. -/
theorem Sound.not_mem (h : c.Sound) (hfresh : c.Fresh sock) :
    sock ∉ c.detection_sockets ∧ sock ∉ c.socket_vec ∧ sock ∉ c.vec_broadcast_socket := by
  have hnot : sock ∉ c.listed := fun hmem => hfresh.2 (h.opened sock hmem).2
  rw [mem_listed] at hnot
  exact ⟨fun hmem => hnot (.inl hmem), fun hmem => hnot (.inr (.inl hmem)),
    fun hmem => hnot (.inr (.inr hmem))⟩

/-- What stays as it is when a new socket gets a place. -/
theorem Sound.place (h : c.Sound) (hfresh : c.Fresh sock) (hperm : d.listed.Perm (sock :: c.listed))
    (hprocess : d.process = c.process.opened sock socket) :
    d.listed.Nodup ∧ ∀ x ∈ d.listed, 0 < x ∧ x ∈ d.process.sockets := by
  have hnot : sock ∉ c.listed := fun hmem => hfresh.2 (h.opened sock hmem).2
  refine ⟨hperm.nodup_iff.mpr (List.nodup_cons.mpr ⟨hnot, h.nodup⟩), fun x hx => ?_⟩
  rw [hprocess, Process.opened, mem_insert_iff]
  rcases List.mem_cons.mp (hperm.mem_iff.mp hx) with rfl | hx
  · exact ⟨hfresh.1, .inl rfl⟩
  · exact ⟨(h.opened x hx).1, .inr (h.opened x hx).2⟩

theorem listed_ne_nil (hperm : d.listed.Perm (sock :: c.listed)) : d.listed ≠ [] := by
  intro hnil
  have hmem : sock ∈ d.listed := hperm.mem_iff.mpr (by simp)
  rw [hnil] at hmem
  exact List.not_mem_nil hmem

theorem Sound.share (h : c.Sound) (key : List UInt8) (sock : Int) :
    (c.share_command_channel key sock).Sound := by
  rw [share_command_channel]
  split
  · exact h
  · exact ⟨h.nodup, h.opened, h.commands, h.data,
      fun hlisted => ⟨(h.in_place hlisted).detection, (h.in_place hlisted).cmd, (h.in_place hlisted).data⟩,
      h.stale, h.threads⟩

/-- What one call can do keeps the channels sound. -/
theorem Sound.change (h : c.Sound) (hlisted : c.listed ≠ []) (hchange : Change c d) :
    d.Sound ∧ d.listed ≠ [] := by
  have hplace := h.in_place hlisted
  have hthreads := h.threads hlisted
  cases hchange with
  | refused =>
    exact ⟨⟨h.nodup, h.opened, h.commands, h.data, fun _ => ⟨hplace.detection, hplace.cmd, hplace.data⟩,
      fun hnil => absurd hnil hlisted, h.threads⟩, hlisted⟩
  | share hchannel => exact ⟨h.share _ _, by rwa [listed_share]⟩
  | @command host_ip port sock socket taken hfresh hsocket hnew =>
    have hperm := listed_command c taken (c.process.opened sock socket) (channel_key host_ip port) sock
    obtain ⟨hnodup, hopened⟩ := h.place hfresh hperm rfl
    obtain ⟨-, hvec, -⟩ := h.not_mem hfresh
    have hne := listed_ne_nil hperm
    refine ⟨⟨hnodup, hopened, ?_, ?_, fun _ => ⟨hplace.detection, ?_, ?_⟩, fun hnil => absurd hnil hne,
      fun _ => hthreads⟩, hne⟩
    · intro x hx
      simp only [add_command_channel, mem_insert_sock, List.mem_append, List.mem_singleton] at hx ⊢
      exact hx.symm.imp_left (h.commands x)
    · intro x hx
      obtain ⟨hin, hout⟩ := h.data x hx
      simp only [add_command_channel, mem_insert_sock, List.mem_append, not_or]
      exact ⟨.inl hin, fun heq => hvec (heq ▸ hin), hout⟩
    · intro x hx
      simp only [add_command_channel, mem_insert_sock]
      rcases delegates_of_add hx with rfl | hx
      · exact .inl (.inl rfl)
      · exact (hplace.cmd x hx).imp_left .inr
    · intro x hx
      obtain ⟨hin, hout⟩ := hplace.data x hx
      simp only [add_command_channel, mem_insert_sock, List.mem_append, not_or]
      exact ⟨.inl hin, fun heq => hvec (heq ▸ hin), hout⟩
  | @data host_ip port sock socket taken hfresh hsocket hnew =>
    have hperm := listed_data c taken (c.process.opened sock socket) (channel_key host_ip port) sock
    obtain ⟨hnodup, hopened⟩ := h.place hfresh hperm rfl
    obtain ⟨-, hvec, -⟩ := h.not_mem hfresh
    have hcommand : sock ∉ c.command_channel := fun hmem => hvec (h.commands sock hmem)
    have hne := listed_ne_nil hperm
    refine ⟨⟨hnodup, hopened, ?_, ?_, fun _ => ⟨hplace.detection, hplace.cmd, ?_⟩,
      fun hnil => absurd hnil hne, fun _ => hthreads⟩, hne⟩
    · exact fun x hx => List.mem_append_left _ (h.commands x hx)
    · intro x hx
      simp only [add_data_channel, mem_insert_sock, List.mem_append, List.mem_singleton] at hx ⊢
      rcases hx with rfl | hx
      · exact ⟨.inr rfl, hcommand⟩
      · exact ⟨.inl (h.data x hx).1, (h.data x hx).2⟩
    · intro x hx
      simp only [add_data_channel, List.mem_append, List.mem_singleton]
      rcases delegates_of_add hx with rfl | hx
      · exact ⟨.inr rfl, hcommand⟩
      · exact ⟨.inl (hplace.data x hx).1, (hplace.data x hx).2⟩
  | @view host_ip port sock socket taken hfresh hsocket hnew =>
    have hperm := listed_view c taken (c.process.opened sock socket) (channel_key host_ip port) sock
    obtain ⟨hnodup, hopened⟩ := h.place hfresh hperm rfl
    obtain ⟨-, hvec, -⟩ := h.not_mem hfresh
    have hcommand : sock ∉ c.command_channel := fun hmem => hvec (h.commands sock hmem)
    have hne := listed_ne_nil hperm
    refine ⟨⟨hnodup, hopened, ?_, ?_, fun _ => ⟨hplace.detection, hplace.cmd, ?_⟩,
      fun hnil => absurd hnil hne, fun _ => hthreads⟩, hne⟩
    · exact fun x hx => List.mem_append_left _ (h.commands x hx)
    · exact fun x hx => ⟨List.mem_append_left _ (h.data x hx).1, (h.data x hx).2⟩
    · intro x hx
      simp only [add_view_channel, List.mem_append, List.mem_singleton]
      rcases delegates_of_add hx with rfl | hx
      · exact ⟨.inr rfl, hcommand⟩
      · exact ⟨.inl (hplace.data x hx).1, (hplace.data x hx).2⟩
  | @broadcast sock socket taken hfresh =>
    have hperm := listed_broadcast c taken (c.process.opened sock socket) sock
    obtain ⟨hnodup, hopened⟩ := h.place hfresh hperm rfl
    have hne := listed_ne_nil hperm
    refine ⟨⟨hnodup, hopened, h.commands, h.data, fun _ => ⟨hplace.detection, ?_, hplace.data⟩,
      fun hnil => absurd hnil hne, fun _ => hthreads⟩, hne⟩
    intro x hx
    simp only [add_broadcast_socket, List.mem_append, List.mem_singleton]
    rcases delegates_of_add hx with rfl | hx
    · exact .inr (.inr rfl)
    · exact (hplace.cmd x hx).imp_right .inl

theorem Sound.changes (h : c.Sound) (hlisted : c.listed ≠ []) (hchanges : Changes c d) :
    d.Sound ∧ d.listed ≠ [] := by
  induction hchanges with
  | refl => exact ⟨h, hlisted⟩
  | tail _ hchange ih => exact ih.1.change ih.2 hchange

section Start

variable (kernel : Kernel)

/-- The loops of new threads do not call, and the others as before. -/
theorem Sound.create_io_threads (h : c.Sound) (hjoins : c.Joins kernel) :
    ∃ attempt, c.create_io_threads kernel = .ok attempt ∧ attempt.channels.Sound ∧
      attempt.channels.process.sockets = c.process.sockets ∧ attempt.channels.listed = c.listed ∧
      attempt.channels.detection_io = [] ∧
      attempt.channels.detection_broadcast_socket = c.detection_broadcast_socket ∧
      (attempt.ret = true → attempt.channels.cmd_io = [] ∧ attempt.channels.data_io = [] ∧
        attempt.channels.AllStarted) := by
  obtain ⟨calls, cmd_io, data_io, detection_thread, cmd_thread, data_thread, ret, heq, hquiet, hcmd, hdata,
    hthreads⟩ := create_io_threads_of_joins kernel hjoins
  have hcmd' : ∀ sock, delegates cmd_io sock → delegates c.cmd_io sock := by
    rcases hcmd with rfl | rfl
    · simp
    · exact fun _ hio => hio
  have hdata' : ∀ sock, delegates data_io sock → delegates c.data_io sock := by
    rcases hdata with rfl | rfl
    · simp
    · exact fun _ hio => hio
  refine ⟨_, heq, ⟨h.nodup, h.opened, h.commands, h.data, fun hlisted => ?_,
    fun hlisted sock hsock => ?_, fun hlisted => ?_⟩, rfl, rfl, rfl, rfl, fun hret => ?_⟩
  · have hplace := h.in_place hlisted
    exact ⟨by simp, fun sock hio => hplace.cmd sock (hcmd' sock hio),
      fun sock hio => hplace.data sock (hdata' sock hio)⟩
  · rintro (hio | hio | hio)
    · simp at hio
    · exact h.stale hlisted sock hsock (.inr (.inl (hcmd' sock hio)))
    · exact h.stale hlisted sock hsock (.inr (.inr (hdata' sock hio)))
  · simpa [has_io_threads] using hthreads (h.threads hlisted)
  · obtain ⟨⟨hcmd, hdata⟩, hstarted⟩ := hquiet hret
    exact ⟨hcmd, hdata, hstarted⟩

theorem nodup_detection_sockets
    (h : 0 < c.detection_socket → c.detection_broadcast_socket ≠ c.detection_socket) :
    c.detection_sockets.Nodup := by
  rw [detection_sockets]
  by_cases hsock : 0 < c.detection_socket
  · exact List.Nodup.filter _ (by simpa using h hsock)
  · rw [List.filter_cons, List.filter_cons_of_neg (by simpa using hsock)]
    split <;> simp

/-- Other sockets for the detection keep the channels sound while only their loop calls. -/
theorem Sound.detect (h : c.Sound) (hvec : d.socket_vec = c.socket_vec)
    (hbroadcast : d.vec_broadcast_socket = c.vec_broadcast_socket)
    (hcommand : d.command_channel = c.command_channel) (hdata : d.data_channel = c.data_channel)
    (hsockets : ∀ x ∈ c.process.sockets, x ∈ d.process.sockets) (hnodup : d.detection_sockets.Nodup)
    (hdetection : ∀ x ∈ d.detection_sockets,
      x ∈ d.process.sockets ∧ x ∉ c.socket_vec ∧ x ∉ c.vec_broadcast_socket)
    (hcalls : ∀ x, delegates d.detection_io x → x ∈ d.detection_sockets) (hcmd : d.cmd_io = [])
    (hio : d.data_io = []) (hthreads : d.has_io_threads = true) : d.Sound := by
  have hplace : d.InPlace := ⟨hcalls, by simp [hcmd], by simp [hio]⟩
  have hcommands : ∀ sock ∈ d.command_channel, sock ∈ d.socket_vec := by
    rw [hcommand, hvec]
    exact h.commands
  refine ⟨?_, ?_, hcommands, ?_, fun _ => hplace, fun hnil sock _ hdelegated => ?_, fun _ => hthreads⟩
  · have hrest := h.nodup
    rw [Channels.listed, List.append_assoc, List.nodup_append] at hrest
    rw [Channels.listed, List.append_assoc, List.nodup_append, hvec, hbroadcast]
    refine ⟨hnodup, hrest.2.1, fun x hx y hy heq => ?_⟩
    obtain ⟨-, hnot, hnot'⟩ := hdetection x hx
    rcases List.mem_append.mp (heq ▸ hy) with hy | hy
    · exact hnot hy
    · exact hnot' hy
  · intro sock hsock
    rw [mem_listed, hvec, hbroadcast] at hsock
    rcases hsock with hsock | hsock
    · exact ⟨(mem_detection_sockets.mp hsock).2, (hdetection sock hsock).1⟩
    · obtain ⟨hpos, hopen⟩ := h.opened sock (mem_listed.mpr (.inr hsock))
      exact ⟨hpos, hsockets sock hopen⟩
  · rw [hcommand, hdata, hvec]
    exact h.data
  · have hmem := hplace.listed hcommands hdelegated
    rw [hnil] at hmem
    exact List.not_mem_nil hmem

theorem Sound.detected (h : c.Sound) (hmem : x ∈ c.detection_sockets) :
    x ∈ c.process.sockets ∧ x ∉ c.socket_vec ∧ x ∉ c.vec_broadcast_socket := by
  have hnodup := h.nodup
  rw [Channels.listed, List.append_assoc, List.nodup_append] at hnodup
  exact ⟨(h.opened x (mem_listed.mpr (.inl hmem))).2,
    fun hvec => hnodup.2.2 x hmem x (List.mem_append_left _ hvec) rfl,
    fun hvec => hnodup.2.2 x hmem x (List.mem_append_right _ hvec) rfl⟩

theorem Sound.create_detection_broadcast_socket (h : c.Sound) (hdetection : c.detection_io = [])
    (hcmd : c.cmd_io = []) (hdata : c.data_io = []) (hthreads : c.has_io_threads = true) :
    let attempt := c.create_detection_broadcast_socket kernel
    attempt.channels.Sound ∧ attempt.channels.cmd_io = [] ∧ attempt.channels.data_io = [] ∧
      attempt.channels.has_io_threads = true ∧
      (attempt.ret = true → 0 < attempt.channels.detection_broadcast_socket ∧
        ∃ taken, attempt.channels.detection_io =
          [add_delegate taken attempt.channels.detection_broadcast_socket]) := by
  rcases create_detection_broadcast_socket_cases kernel c with
    heq | ⟨sock, socket, taken, hfresh, heq⟩
  · rw [heq]
    refine ⟨h.detect rfl rfl rfl rfl (fun _ hx => hx) (nodup_detection_sockets ?_) ?_ ?_ hcmd hdata
      hthreads, hcmd, hdata, hthreads, by simp⟩
    · intro hpos heq
      rw [← heq] at hpos
      exact absurd hpos (by simp)
    · intro x hx
      refine h.detected (mem_detection_sockets.mpr ?_)
      obtain ⟨rfl | hx, hpos⟩ := mem_detection_sockets.mp hx
      · exact absurd hpos (by simp)
      · exact ⟨.inr hx, hpos⟩
    · simp [hdetection]
  · obtain ⟨hnot, hvec, hbroadcast⟩ := h.not_mem hfresh
    rw [heq]
    refine ⟨h.detect rfl rfl rfl rfl ?_ (nodup_detection_sockets ?_) ?_ ?_ hcmd hdata hthreads, hcmd,
      hdata, hthreads, fun _ => ⟨hfresh.1, taken, by simp [hdetection]⟩⟩
    · exact fun x hx => mem_insert_iff.mpr (.inr hx)
    · intro hpos hsame
      have hsock : sock = c.detection_socket := hsame
      exact hnot (mem_detection_sockets.mpr ⟨.inr hsock, hfresh.1⟩)
    · intro x hx
      obtain ⟨rfl | hx, hpos⟩ := mem_detection_sockets.mp hx
      · exact ⟨mem_insert_iff.mpr (.inl rfl), hvec, hbroadcast⟩
      · obtain ⟨hopen, hout⟩ := h.detected (mem_detection_sockets.mpr ⟨.inr hx, hpos⟩)
        exact ⟨mem_insert_iff.mpr (.inr hopen), hout⟩
    · intro x hx
      rw [hdetection] at hx
      rcases delegates_of_add hx with rfl | hx
      · exact mem_detection_sockets.mpr ⟨.inl rfl, hfresh.1⟩
      · exact absurd hx (by simp)

theorem Sound.create_detection_socket (h : c.Sound) (hpositive : 0 < c.detection_broadcast_socket)
    (hdetection : c.detection_io = [add_delegate taken c.detection_broadcast_socket]) (hcmd : c.cmd_io = [])
    (hdata : c.data_io = []) (hthreads : c.has_io_threads = true) (detection_host_ip : List UInt8) :
    let attempt := c.create_detection_socket kernel detection_host_ip
    attempt.channels.Sound ∧
      attempt.channels.detection_broadcast_socket = c.detection_broadcast_socket := by
  have hbroadcast := h.detected (mem_detection_sockets.mpr ⟨.inl rfl, hpositive⟩)
  have hcalls : ∀ x, delegates c.detection_io x → x = c.detection_broadcast_socket := by
    intro x hx
    rw [hdetection, ← List.nil_append [_]] at hx
    rcases delegates_of_add hx with rfl | hx
    · rfl
    · exact absurd hx (by simp)
  rcases create_detection_socket_cases kernel c detection_host_ip with
    heq | ⟨sock, socket, taken', hfresh, -, heq⟩
  · rw [heq]
    refine ⟨h.detect rfl rfl rfl rfl (fun _ hx => hx) (nodup_detection_sockets ?_) ?_ ?_ hcmd hdata
      hthreads, rfl⟩
    · exact fun hpos => absurd hpos (by simp)
    · intro x hx
      obtain ⟨rfl | rfl, hpos⟩ := mem_detection_sockets.mp hx
      · exact hbroadcast
      · exact absurd hpos (by simp)
    · exact fun x hx => mem_detection_sockets.mpr ⟨.inl (hcalls x hx), hcalls x hx ▸ hpositive⟩
  · obtain ⟨hnot, hvec, hout⟩ := h.not_mem hfresh
    rw [heq]
    dsimp only
    refine ⟨Sound.share ?_ _ _, by rw [share_command_channel]; split <;> rfl⟩
    refine h.detect rfl rfl rfl rfl ?_ (nodup_detection_sockets ?_) ?_ ?_ hcmd hdata hthreads
    · exact fun x hx => mem_insert_iff.mpr (.inr hx)
    · intro hpos hsame
      have hsock : sock = c.detection_broadcast_socket := hsame.symm
      exact hnot (mem_detection_sockets.mpr ⟨.inl hsock, hfresh.1⟩)
    · intro x hx
      obtain ⟨rfl | rfl, hpos⟩ := mem_detection_sockets.mp hx
      · exact ⟨mem_insert_iff.mpr (.inr hbroadcast.1), hbroadcast.2⟩
      · exact ⟨mem_insert_iff.mpr (.inl rfl), hvec, hout⟩
    · intro x hx
      rcases delegates_of_add hx with rfl | hx
      · exact mem_detection_sockets.mpr ⟨.inr rfl, hfresh.1⟩
      · exact mem_detection_sockets.mpr ⟨.inl (hcalls x hx), hcalls x hx ▸ hpositive⟩

/-- `CreateDetectionChannel` of new threads. -/
theorem Sound.create_detection_channel (h : c.Sound) (hdetection : c.detection_io = [])
    (hcmd : c.cmd_io = []) (hdata : c.data_io = []) (hthreads : c.has_io_threads = true)
    (detection_host_ip : List UInt8) :
    let attempt := c.create_detection_channel kernel detection_host_ip
    attempt.channels.Sound ∧ (attempt.ret = true → attempt.channels.listed ≠ []) := by
  obtain ⟨hsound, hcmd', hdata', hthreads', hbroadcast⟩ :=
    h.create_detection_broadcast_socket kernel hdetection hcmd hdata hthreads
  refine ⟨and_then_rule hsound fun hret => ?_, fun hret => ?_⟩
  · obtain ⟨hpos, taken, hio⟩ := hbroadcast hret
    exact (hsound.create_detection_socket kernel hpos hio hcmd' hdata' hthreads' detection_host_ip).1
  · obtain ⟨hfirst, -⟩ := and_then_ret.mp hret
    obtain ⟨hpos, taken, hio⟩ := hbroadcast hfirst
    obtain ⟨-, hsame⟩ :=
      hsound.create_detection_socket kernel hpos hio hcmd' hdata' hthreads' detection_host_ip
    rw [Channels.create_detection_channel, and_then_of_ret hfirst]
    refine List.ne_nil_of_mem (mem_listed.mpr (.inl (mem_detection_sockets.mpr ⟨.inl rfl, ?_⟩)))
    rwa [hsame]

/-- The channels of a new start. -/
theorem Sound.start (h : c.Sound) (hjoins : c.Joins kernel) {create_channels : Channels → Attempt}
    (hcreate : ∀ d, Changes d (create_channels d).channels) (detection_host_ip : List UInt8) :
    ∃ attempt, c.start kernel detection_host_ip create_channels = .ok attempt ∧
      attempt.channels.Sound ∧ (attempt.ret = true → attempt.channels.listed ≠ []) := by
  obtain ⟨threads, hdone, hsound, -, -, hdetection, -, hquiet⟩ := h.create_io_threads kernel hjoins
  have hchannel (hret : threads.ret = true) :=
    have ⟨hcmd, hdata, hstarted⟩ := hquiet hret
    hsound.create_detection_channel kernel hdetection hcmd hdata hstarted.has_io_threads
      detection_host_ip
  refine ⟨_, by rw [Channels.start, hdone]; rfl, ?_, fun hret => ?_⟩
  · refine and_then_rule hsound fun hret => and_then_rule (hchannel hret).1 fun hret' => ?_
    exact ((hchannel hret).1.changes ((hchannel hret).2 hret') (hcreate _)).1
  · obtain ⟨hfirst, hrest⟩ := and_then_ret.mp hret
    obtain ⟨hsecond, -⟩ := and_then_ret.mp hrest
    rw [and_then_of_ret hfirst, and_then_of_ret hsecond]
    exact ((hchannel hfirst).1.changes ((hchannel hfirst).2 hsecond) (hcreate _)).2

theorem start_of_not_joins (hjoins : ¬ c.Joins kernel) (detection_host_ip : List UInt8)
    (create_channels : Channels → Attempt) :
    c.start kernel detection_host_ip create_channels = .error null_thread := by
  rw [Channels.start, create_io_threads_of_not_joins kernel hjoins]
  rfl

theorem joins_of_start {create_channels : Channels → Attempt} {detection_host_ip : List UInt8}
    {attempt : Attempt} (h : c.start kernel detection_host_ip create_channels = .ok attempt) :
    c.Joins kernel := by
  by_contra hnot
  rw [start_of_not_joins kernel hnot] at h
  cases h

end Start

section Destory

variable {process : Process}

/-- The sockets that `Destory` goes through. -/
def to_close (c : Channels) : List Int :=
  c.socket_vec ++ c.vec_broadcast_socket ++ [c.detection_socket, c.detection_broadcast_socket]

/-- It closes what is listed. -/
theorem Sound.mem_to_close (h : c.Sound) : sock ∈ c.to_close ∧ 0 < sock ↔ sock ∈ c.listed := by
  rw [mem_listed, mem_detection_sockets, to_close, List.mem_append, List.mem_append]
  constructor
  · rintro ⟨(hsock | hsock) | hsock, hpos⟩
    · exact .inr (.inl hsock)
    · exact .inr (.inr hsock)
    · exact .inl ⟨by simpa [or_comm] using hsock, hpos⟩
  · intro hsock
    refine ⟨?_, (h.opened sock (mem_listed.mpr (hsock.imp_left mem_detection_sockets.mpr))).1⟩
    rcases hsock with ⟨hsock, -⟩ | hsock | hsock
    · exact .inr (by simpa [or_comm] using hsock)
    · exact .inl (.inl hsock)
    · exact .inl (.inr hsock)

theorem Sound.nodup_to_close (h : c.Sound) : (c.to_close.filter (0 < ·)).Nodup := by
  let detection := [c.detection_socket, c.detection_broadcast_socket]
  have hpositive : ∀ sock ∈ c.socket_vec ++ c.vec_broadcast_socket, decide (0 < sock) = true := by
    intro sock hsock
    exact decide_eq_true (h.opened sock (mem_listed.mpr (.inr (List.mem_append.mp hsock)))).1
  have hsame : (detection.reverse ++ (c.socket_vec ++ c.vec_broadcast_socket)).filter (0 < ·) =
      c.listed := by
    rw [List.filter_append, List.filter_eq_self.mpr hpositive, Channels.listed, List.append_assoc]
    rfl
  have hperm : c.to_close.Perm (detection.reverse ++ (c.socket_vec ++ c.vec_broadcast_socket)) :=
    List.perm_append_comm.trans (List.Perm.append_right _ (List.reverse_perm _).symm)
  exact (hperm.filter _).nodup_iff.mpr (hsame ▸ h.nodup)

/-- The channels when `Destory` has closed the sockets. -/
def destroyed (c : Channels) (process : Process) : Channels :=
  { new with
    detection_socket := if c.detection_socket > 0 then -1 else c.detection_socket
    detection_broadcast_socket :=
      if c.detection_broadcast_socket > 0 then -1 else c.detection_broadcast_socket
    detection_io_thread := c.detection_io_thread
    cmd_io_thread := c.cmd_io_thread
    data_io_thread := c.data_io_thread
    detection_io := c.detection_io ++
      remove_delegates [c.detection_socket, c.detection_broadcast_socket]
    cmd_io := c.cmd_io ++ remove_delegates c.command_channel.toList ++
      remove_delegates c.vec_broadcast_socket
    data_io := c.data_io ++ remove_delegates c.data_channel.toList
    process }

/-- No socket is closed twice on the way. -/
theorem Sound.destory_eq (h : c.Sound) (hthreads : c.has_io_threads = true) :
    ∃ closed, c.destory true = .ok (c.destroyed closed) ∧
      ∀ sock, sock ∈ closed.sockets ↔ sock ∈ c.process.sockets ∧ sock ∉ c.listed := by
  obtain ⟨closed, hclosed, hsockets⟩ := close_socks_spec h.nodup_to_close fun sock hsock hpos =>
    (h.opened sock (h.mem_to_close.mp ⟨hsock, hpos⟩)).2
  rw [to_close, close_socks_append, close_socks_append] at hclosed
  obtain ⟨second, hsecond, hthird⟩ := bind_eq_ok_iff.mp hclosed
  obtain ⟨first, hfirst, hsecond⟩ := bind_eq_ok_iff.mp hsecond
  refine ⟨closed, ?_, fun sock => by rw [hsockets, h.mem_to_close]⟩
  rw [Channels.destory, if_neg (by simp [hthreads])]
  simp only [if_true, true_and]
  rw [hfirst, ok_bind, hsecond, ok_bind, hthird, ok_bind]
  rfl

theorem destroyed_listed (c : Channels) (process : Process) : (c.destroyed process).listed = [] := by
  have hnone : ∀ sock : Int, ¬ 0 < (if sock > 0 then (-1 : Int) else sock) := by
    intro sock
    split <;> omega
  rw [Channels.listed, detection_sockets]
  simp [destroyed, new, hnone]

/-- The delegates that it has not removed. -/
theorem destroyed_delegated (c : Channels) (process : Process) (sock : Int) :
    (c.destroyed process).Delegated sock ↔
      delegates c.detection_io sock ∧ sock ∉ c.detection_sockets ∨
        delegates c.cmd_io sock ∧ ¬ (sock ∈ c.command_channel ∧ 0 < sock) ∧
          ¬ (sock ∈ c.vec_broadcast_socket ∧ 0 < sock) ∨
        delegates c.data_io sock ∧ ¬ (sock ∈ c.data_channel ∧ 0 < sock) := by
  rw [Delegated, mem_detection_sockets, or_comm (a := sock = _)]
  simp only [destroyed, delegates_remove, Bool.and_eq_true, Bool.not_eq_true', decide_eq_false_iff_not,
    Std.TreeSet.mem_toList, List.mem_cons, List.not_mem_nil, or_false, and_assoc]

theorem Sound.destroyed (h : c.Sound)
    (hopen : ∀ sock, sock ∈ process.sockets → sock ∈ c.process.sockets ∧ sock ∉ c.listed) :
    (c.destroyed process).Sound where
  nodup := by
    rw [destroyed_listed]
    exact List.nodup_nil
  opened := by simp [destroyed_listed]
  commands := by simp [Channels.destroyed, new]
  data := by simp [Channels.destroyed, new]
  in_place := fun hne => absurd (destroyed_listed c process) hne
  stale := by
    intro _ sock hsock hcalls
    obtain ⟨hheld, hnot⟩ := hopen sock hsock
    refine hnot (h.listed hheld ?_)
    rcases (destroyed_delegated c process sock).mp hcalls with hio | hio | hio
    · exact .inl hio.1
    · exact .inr (.inl hio.1)
    · exact .inr (.inr hio.1)
  threads := fun hne => absurd (destroyed_listed c process) hne

/-- The viewer's sockets stand in no channel set, so that their delegates stay. -/
theorem Sound.destroyed_delegated_iff (h : c.Sound) (hlisted : c.listed ≠ []) (process : Process)
    (sock : Int) :
    (c.destroyed process).Delegated sock ↔ delegates c.data_io sock ∧ sock ∉ c.data_channel := by
  have hplace := h.in_place hlisted
  have hpos : ∀ sock ∈ c.listed, 0 < sock := fun sock hsock => (h.opened sock hsock).1
  rw [destroyed_delegated]
  constructor
  · rintro (⟨hio, hnot⟩ | ⟨hio, hnot, hnot'⟩ | ⟨hio, hnot⟩)
    · exact absurd (hplace.detection sock hio) hnot
    · have hsock := hpos sock (hplace.listed h.commands (.inr (.inl hio)))
      rcases hplace.cmd sock hio with hmem | hmem
      · exact absurd ⟨hmem, hsock⟩ hnot
      · exact absurd ⟨hmem, hsock⟩ hnot'
    · exact ⟨hio, fun hmem => hnot ⟨hmem, hpos sock (hplace.listed h.commands (.inr (.inr hio)))⟩⟩
  · rintro ⟨hio, hnot⟩
    exact .inr (.inr ⟨hio, fun hmem => hnot hmem.1⟩)

/-- `Destory` closes what is listed, and leaves no delegate but those of the viewer's sockets. -/
theorem Sound.destory (h : c.Sound) (hthreads : c.has_io_threads = true) :
    ∃ d, c.destory true = .ok d ∧ d.Sound ∧ d.listed = [] ∧
      (∀ sock, sock ∈ d.process.sockets ↔ sock ∈ c.process.sockets ∧ sock ∉ c.listed) ∧
      (c.listed ≠ [] →
        ∀ sock, d.Delegated sock ↔ delegates c.data_io sock ∧ sock ∉ c.data_channel) := by
  obtain ⟨closed, hdone, hopen⟩ := h.destory_eq hthreads
  exact ⟨c.destroyed closed, hdone, h.destroyed fun sock => (hopen sock).mp, destroyed_listed c closed,
    hopen, fun hlisted => h.destroyed_delegated_iff hlisted closed⟩

end Destory

end Channels

end livox_lidar
