import Livox.Sdk.DeviceManager.Sockets

open checked execution ordered_map

namespace livox_lidar

open util device_manager

section Descriptors

variable {tasks : List DelegateTask} {socks others : List Int} {taken : Bool} {sock : Int}

/-- A loop holds a socket once, and no more of them than its back end takes. -/
theorem descriptors_spec (tasks : List DelegateTask) :
    (descriptors tasks).Nodup ∧ (descriptors tasks).length ≤ OPEN_MAX_POLL := by
  refine List.foldlRecOn tasks _ (motive := fun socks : List Int =>
    socks.Nodup ∧ socks.length ≤ OPEN_MAX_POLL) ⟨List.nodup_nil, Nat.zero_le _⟩ ?_
  rintro socks ⟨hnodup, hlength⟩ ⟨task, taken⟩ -
  cases task with
  | add_delegate_async sock delegate events =>
    dsimp only
    split
    case isTrue => exact ⟨hnodup, hlength⟩
    case isFalse hroom =>
      obtain ⟨hroom, hrest⟩ := not_or.mp hroom
      obtain ⟨-, hnew⟩ := not_or.mp hrest
      refine ⟨List.nodup_append.mpr ⟨hnodup, by simp, fun x hx y hy hsame => ?_⟩, ?_⟩
      · exact hnew (List.mem_singleton.mp hy ▸ hsame ▸ hx)
      · rw [List.length_append, List.length_singleton]
        omega
  | remove_delegate_async sock =>
    exact ⟨hnodup.filter _, (List.length_filter_le _ _).trans hlength⟩

/-- The kernel has taken the socket as often as the loop was asked to call for it. -/
def Taken (tasks : List DelegateTask) (sock : Int) : Prop :=
  ∀ posted ∈ tasks, posted.1.sock = sock → posted.2 = true

theorem taken_add_self :
    Taken (tasks ++ [add_delegate taken sock]) sock ↔ Taken tasks sock ∧ taken = true := by
  simp [Taken, or_imp, forall_and, add_delegate, io_loop.IOLoopTask.sock]

theorem taken_add_of_ne {other : Int} (hne : sock ≠ other) :
    Taken (tasks ++ [add_delegate taken other]) sock ↔ Taken tasks sock := by
  simp [Taken, or_imp, forall_and, add_delegate, io_loop.IOLoopTask.sock, hne.symm]

/-- A loop is asked to call for these sockets and no others. It calls for those that the kernel has taken,
when its back end has room for so many. -/
structure Serves (tasks : List DelegateTask) (socks : List Int) : Prop where
  own : ∀ posted ∈ tasks, posted.1.sock ∈ socks
  calls : ∀ sock, delegates tasks sock → sock ∈ socks ∧ Taken tasks sock
  all : socks.length ≤ OPEN_MAX_POLL → ∀ sock ∈ socks, Taken tasks sock → delegates tasks sock

theorem serves_nil : Serves [] [] where
  own := by simp
  calls := by simp
  all := by simp

theorem Serves.perm (h : Serves tasks socks) (hperm : others.Perm socks) : Serves tasks others where
  own := fun posted hposted => hperm.mem_iff.mpr (h.own posted hposted)
  calls := fun sock hcalls => (h.calls sock hcalls).imp_left hperm.mem_iff.mpr
  all := fun hlength sock hsock => h.all (hperm.length_eq ▸ hlength) sock (hperm.mem_iff.mp hsock)

/-- Another loop's socket is none that the kernel has refused to this one. -/
theorem Serves.taken_of_not_mem (h : Serves tasks socks) (hsock : sock ∉ socks) : Taken tasks sock :=
  fun posted hposted hsame => absurd (hsame ▸ h.own posted hposted) hsock

/-- One more delegate is taken while there is room. -/
theorem Serves.add (h : Serves tasks socks) (hnew : sock ∉ socks) (taken : Bool) :
    Serves (tasks ++ [add_delegate taken sock]) (sock :: socks) where
  own := by
    intro posted hposted
    rcases List.mem_append.mp hposted with hposted | hposted
    · exact List.mem_cons_of_mem _ (h.own posted hposted)
    · obtain rfl := List.mem_singleton.mp hposted
      exact List.mem_cons_self
  calls := by
    intro x hcalls
    have hold : sock ∉ descriptors tasks := fun hmem => hnew (h.calls sock (decide_eq_true hmem)).1
    by_cases hx : x = sock
    · subst hx
      refine ⟨List.mem_cons_self, taken_add_self.mpr ⟨h.taken_of_not_mem hnew, ?_⟩⟩
      by_contra hrefused
      rw [delegates, decide_eq_true_eq, descriptors_add, if_pos (.inr (.inl (by simpa using hrefused)))]
        at hcalls
      exact hold hcalls
    · obtain ⟨hmem, htaken⟩ := h.calls x ((delegates_of_add hcalls).resolve_left hx)
      exact ⟨List.mem_cons_of_mem _ hmem, (taken_add_of_ne hx).mpr htaken⟩
  all := by
    intro hlength x hmem htaken
    rw [List.length_cons] at hlength
    have hsub : descriptors tasks ⊆ socks := fun y hy => (h.calls y (decide_eq_true hy)).1
    have hroom : (descriptors tasks).length < OPEN_MAX_POLL := by
      have hle := ((descriptors_spec tasks).1.subperm hsub).length_le
      omega
    rw [delegates, decide_eq_true_eq, descriptors_add]
    by_cases hx : x = sock
    · subst hx
      obtain ⟨-, rfl⟩ := taken_add_self.mp htaken
      have hold : x ∉ descriptors tasks := fun hmem => hnew (hsub hmem)
      rw [if_neg (by simp [hold]; omega)]
      exact List.mem_append_right _ (List.mem_singleton.mpr rfl)
    · have hcalls := h.all (by omega) x ((List.mem_cons.mp hmem).resolve_left hx)
        ((taken_add_of_ne hx).mp htaken)
      split
      · exact of_decide_eq_true hcalls
      · exact List.mem_append_left _ (of_decide_eq_true hcalls)

/-- Sockets that are all called for are no more than the back end takes. -/
theorem length_le_of_delegates (hnodup : socks.Nodup) (h : ∀ sock ∈ socks, delegates tasks sock) :
    socks.length ≤ OPEN_MAX_POLL := by
  have hsub : socks ⊆ descriptors tasks := fun sock hsock => of_decide_eq_true (h sock hsock)
  exact (hnodup.subperm hsub).length_le.trans (descriptors_spec tasks).2

end Descriptors

namespace Channels

variable {c d : Channels} {taken : Bool} {sock x : Int}

/-- The sockets that the loop for commands is asked to call for, and those of the loop for data. -/
def cmd_sockets (c : Channels) : List Int :=
  c.socket_vec.filter (· ∈ c.command_channel) ++ c.vec_broadcast_socket

def data_sockets (c : Channels) : List Int := c.socket_vec.filter (· ∉ c.command_channel)

/-- Each loop has room for the sockets that it is asked to call for, and the kernel has refused none of
them. -/
structure Fits (c : Channels) : Prop where
  cmd : c.cmd_sockets.length ≤ OPEN_MAX_POLL
  data : c.data_sockets.length ≤ OPEN_MAX_POLL
  taken : ∀ sock ∈ c.listed, Taken c.detection_io sock ∧ Taken c.cmd_io sock ∧ Taken c.data_io sock

/-- Each loop serves its sockets. -/
structure Served (c : Channels) : Prop where
  detection : Serves c.detection_io c.detection_sockets
  cmd : Serves c.cmd_io c.cmd_sockets
  data : Serves c.data_io c.data_sockets

theorem mem_cmd_sockets :
    sock ∈ c.cmd_sockets ↔
      sock ∈ c.socket_vec ∧ sock ∈ c.command_channel ∨ sock ∈ c.vec_broadcast_socket := by
  simp [cmd_sockets]

theorem mem_data_sockets : sock ∈ c.data_sockets ↔ sock ∈ c.socket_vec ∧ sock ∉ c.command_channel := by
  simp [data_sockets]

section Change

/-- A socket for commands is one of the loop for commands. -/
theorem sockets_command (process : Process) (key : List UInt8) (hnew : sock ∉ c.socket_vec) :
    (c.add_command_channel taken process key sock).cmd_sockets.Perm (sock :: c.cmd_sockets) ∧
      (c.add_command_channel taken process key sock).data_sockets = c.data_sockets := by
  have hsame : ∀ y ∈ c.socket_vec, y ∈ c.command_channel.insert sock ↔ y ∈ c.command_channel := by
    intro y hy
    rw [mem_insert_sock, or_iff_right]
    rintro rfl
    exact hnew hy
  have hcmd : c.socket_vec.filter (· ∈ c.command_channel.insert sock) =
      c.socket_vec.filter (· ∈ c.command_channel) :=
    List.filter_congr fun y hy => decide_eq_decide.mpr (hsame y hy)
  have hdata : c.socket_vec.filter (· ∉ c.command_channel.insert sock) =
      c.socket_vec.filter (· ∉ c.command_channel) :=
    List.filter_congr fun y hy => decide_eq_decide.mpr (not_congr (hsame y hy))
  constructor
  · rw [cmd_sockets, add_command_channel]
    dsimp only
    rw [List.filter_append, hcmd, List.filter_cons_of_pos (by simp), List.filter_nil,
      List.append_assoc]
    exact List.perm_middle
  · rw [data_sockets, add_command_channel]
    dsimp only
    rw [List.filter_append, hdata, List.filter_cons_of_neg (by simp), List.filter_nil,
      List.append_nil]
    rfl

/-- A socket for data is one of the loop for data. -/
theorem sockets_data (hsocks : d.socket_vec = c.socket_vec ++ [sock])
    (hcommand : d.command_channel = c.command_channel)
    (hbroadcast : d.vec_broadcast_socket = c.vec_broadcast_socket) (hnew : sock ∉ c.command_channel) :
    d.cmd_sockets = c.cmd_sockets ∧ d.data_sockets.Perm (sock :: c.data_sockets) := by
  constructor
  · rw [cmd_sockets, cmd_sockets, hsocks, hcommand, hbroadcast, List.filter_append,
      List.filter_cons_of_neg (by simp [hnew]), List.filter_nil, List.append_nil]
  · rw [data_sockets, data_sockets, hsocks, hcommand, List.filter_append,
      List.filter_cons_of_pos (by simp [hnew]), List.filter_nil]
    exact List.perm_append_singleton _ _

theorem Served.change (h : c.Served) (hsound : c.Sound) (hchange : Change c d) : d.Served := by
  cases hchange with
  | refused => exact ⟨h.detection, h.cmd, h.data⟩
  | share hchannel =>
    rw [share_command_channel]
    split
    · exact h
    · exact ⟨h.detection, h.cmd, h.data⟩
  | @command host_ip port sock socket taken hfresh hsocket hnew =>
    obtain ⟨-, hvec, hbroadcast⟩ := hsound.not_mem hfresh
    have hnot : sock ∉ c.cmd_sockets := by simp [mem_cmd_sockets, hvec, hbroadcast]
    obtain ⟨hcmd, hdata⟩ :=
      @sockets_command c taken sock (c.process.opened sock socket) (channel_key host_ip port) hvec
    exact ⟨h.detection, (h.cmd.add hnot taken).perm hcmd, hdata ▸ h.data⟩
  | @data host_ip port sock socket taken hfresh hsocket hnew =>
    obtain ⟨-, hvec, -⟩ := hsound.not_mem hfresh
    have hcommand : sock ∉ c.command_channel := fun hmem => hvec (hsound.commands sock hmem)
    have hnot : sock ∉ c.data_sockets := by simp [mem_data_sockets, hvec]
    obtain ⟨hcmd, hdata⟩ := @sockets_data c
      (c.add_data_channel taken (c.process.opened sock socket) (channel_key host_ip port) sock) sock rfl
      rfl rfl hcommand
    exact ⟨h.detection, hcmd ▸ h.cmd, (h.data.add hnot taken).perm hdata⟩
  | @view host_ip port sock socket taken hfresh hsocket hnew =>
    obtain ⟨-, hvec, -⟩ := hsound.not_mem hfresh
    have hcommand : sock ∉ c.command_channel := fun hmem => hvec (hsound.commands sock hmem)
    have hnot : sock ∉ c.data_sockets := by simp [mem_data_sockets, hvec]
    obtain ⟨hcmd, hdata⟩ := @sockets_data c
      (c.add_view_channel taken (c.process.opened sock socket) (channel_key host_ip port) sock) sock rfl
      rfl rfl hcommand
    exact ⟨h.detection, hcmd ▸ h.cmd, (h.data.add hnot taken).perm hdata⟩
  | @broadcast sock socket taken hfresh =>
    obtain ⟨-, hvec, hbroadcast⟩ := hsound.not_mem hfresh
    have hnot : sock ∉ c.cmd_sockets := by simp [mem_cmd_sockets, hvec, hbroadcast]
    refine ⟨h.detection, (h.cmd.add hnot taken).perm ?_, h.data⟩
    rw [cmd_sockets, add_broadcast_socket, ← List.append_assoc]
    exact List.perm_append_singleton _ _

end Change

/-- The sockets of the three loops are different ones. -/
theorem Sound.loops_apart (h : c.Sound) :
    (∀ x ∈ c.detection_sockets, x ∉ c.cmd_sockets ∧ x ∉ c.data_sockets) ∧
      (∀ x ∈ c.cmd_sockets, x ∉ c.data_sockets) ∧ c.cmd_sockets.Nodup ∧ c.data_sockets.Nodup := by
  have hnodup : (c.socket_vec ++ c.vec_broadcast_socket).Nodup := by
    have hall := h.nodup
    rw [Channels.listed, List.append_assoc] at hall
    exact (List.nodup_append.mp hall).2.1
  refine ⟨fun x hx => ?_, fun x hx hdata => ?_, ?_, ?_⟩
  · obtain ⟨-, hvec, hbroadcast⟩ := h.detected hx
    simp [mem_cmd_sockets, mem_data_sockets, hvec, hbroadcast]
  · obtain ⟨hvec, hnot⟩ := mem_data_sockets.mp hdata
    rcases mem_cmd_sockets.mp hx with ⟨-, hcmd⟩ | hbroadcast
    · exact hnot hcmd
    · exact (List.nodup_append.mp hnodup).2.2 x hvec x hbroadcast rfl
  · exact hnodup.sublist (List.filter_sublist.append (List.Sublist.refl _))
  · exact hnodup.sublist (List.filter_sublist.trans (List.sublist_append_left _ _))

/-- A listed socket is one of a loop. -/
theorem mem_listed_iff_loop :
    x ∈ c.listed ↔ x ∈ c.detection_sockets ∨ x ∈ c.cmd_sockets ∨ x ∈ c.data_sockets := by
  rw [mem_listed, mem_cmd_sockets, mem_data_sockets]
  tauto

/-- All the sockets that are listed are called for just if each loop has room for its own, and the kernel
has refused none. -/
theorem Served.delegated_iff_fits (h : c.Served) (hsound : c.Sound) :
    (∀ sock ∈ c.listed, c.Delegated sock) ↔ c.Fits := by
  obtain ⟨hdetection, hcmd, hnodup_cmd, hnodup_data⟩ := hsound.loops_apart
  constructor
  · intro hall
    -- a socket of one loop is called for by that loop
    have hcalls_cmd : ∀ x ∈ c.cmd_sockets, delegates c.cmd_io x := by
      intro x hx
      rcases hall x (mem_listed_iff_loop.mpr (.inr (.inl hx))) with hio | hio | hio
      · exact absurd hx (hdetection x (h.detection.calls x hio).1).1
      · exact hio
      · exact absurd (h.data.calls x hio).1 (hcmd x hx)
    have hcalls_data : ∀ x ∈ c.data_sockets, delegates c.data_io x := by
      intro x hx
      rcases hall x (mem_listed_iff_loop.mpr (.inr (.inr hx))) with hio | hio | hio
      · exact absurd hx (hdetection x (h.detection.calls x hio).1).2
      · exact absurd hx (hcmd x (h.cmd.calls x hio).1)
      · exact hio
    refine ⟨length_le_of_delegates hnodup_cmd hcalls_cmd, length_le_of_delegates hnodup_data hcalls_data,
      fun x hx => ?_⟩
    rcases hall x hx with hio | hio | hio
    · obtain ⟨hmem, htaken⟩ := h.detection.calls x hio
      exact ⟨htaken, h.cmd.taken_of_not_mem (hdetection x hmem).1,
        h.data.taken_of_not_mem (hdetection x hmem).2⟩
    · obtain ⟨hmem, htaken⟩ := h.cmd.calls x hio
      exact ⟨h.detection.taken_of_not_mem fun hx => (hdetection x hx).1 hmem, htaken,
        h.data.taken_of_not_mem (hcmd x hmem)⟩
    · obtain ⟨hmem, htaken⟩ := h.data.calls x hio
      exact ⟨h.detection.taken_of_not_mem fun hx => (hdetection x hx).2 hmem,
        h.cmd.taken_of_not_mem fun hx => hcmd x hx hmem, htaken⟩
  · intro hfits x hx
    obtain ⟨htaken_detection, htaken_cmd, htaken_data⟩ := hfits.taken x hx
    rcases mem_listed_iff_loop.mp hx with hx | hx | hx
    · refine .inl (h.detection.all ?_ x hx htaken_detection)
      exact (List.length_filter_le _ _).trans (by simp [OPEN_MAX_POLL])
    · exact .inr (.inl (h.cmd.all hfits.cmd x hx htaken_cmd))
    · exact .inr (.inr (h.data.all hfits.data x hx htaken_data))

end Channels

end livox_lidar
