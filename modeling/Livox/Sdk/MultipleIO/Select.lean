import Livox.Sdk.MultipleIO

open checked execution ordered_map

namespace livox_lidar

namespace MultipleIOSelect

/-- What is polled is what is registered, `max_fd` is the bound for it, and `select` is given no more
bits than a set has. -/
structure Matches (s : MultipleIOSelect) : Prop where
  registered : ∀ fd, fd ∈ s.polled ↔ fd ∈ s.descriptors
  bound : ∀ fd ∈ s.descriptors, fd ≤ s.max_fd
  fits : s.nfds ≤ FD_SETSIZE

/-- There is a bit for the descriptor. -/
def HasBit (fd : Int) : Prop := 0 ≤ fd ∧ fd < FD_SETSIZE

/-- The descriptor is polled for reading or for writing. -/
def Listens (poll_fd : PollFd) : Prop :=
  poll_fd.event &&& READBLE_EVENT ≠ 0 ∨ poll_fd.event &&& WRITABLE_EVENT ≠ 0

/-- There is a bit for each descriptor that is accepted with an event and for each that is removed;
one that is accepted without an event is registered already; and none is removed above `max_fd` while
`max_fd` is itself registered. -/
def Tame (s : MultipleIOSelect) : PollSetEvent → Prop
  | .poll_set_add poll_fd _ => s.descriptors.size < s.max_poll_size →
      (Listens poll_fd → HasBit poll_fd.fd) ∧ (¬ Listens poll_fd → poll_fd.fd ∈ s.descriptors)
  | .poll_set_remove poll_fd => HasBit poll_fd.fd ∧
      ¬ (s.max_fd < poll_fd.fd ∧ s.max_fd ∈ s.descriptors)

/-- The bits are those of the registered descriptors, and none is above `max_fd`. -/
structure Kept (s : MultipleIOSelect) : Prop where
  bits : ∀ fd, fd ∈ s.rfds ∪ s.wfds ↔ fd ∈ s.descriptors
  bound : ∀ fd ∈ s.descriptors, fd ≤ s.max_fd
  fits : s.max_fd < FD_SETSIZE

section Step

variable {s t : MultipleIOSelect} {poll_fd : PollFd} {taken : Bool} {fd : Int}

theorem mem_polled : fd ∈ s.polled ↔ fd ∈ s.rfds ∪ s.wfds ∧ fd ≤ s.max_fd := by
  rw [polled, Finset.mem_filter, nfds, Int.lt_add_one_iff]

theorem Kept.matches (h : s.Kept) : s.Matches where
  registered fd := by
    rw [mem_polled, h.bits]
    exact and_iff_left_of_imp (h.bound fd)
  bound := h.bound
  fits := h.fits

theorem fd_bit_of_hasBit (h : HasBit fd) : fd_bit fd = .ok fd := if_pos h

theorem fd_bit_completes_iff : (∃ bit, fd_bit fd = .ok bit) ↔ HasBit fd := by
  constructor
  · rintro ⟨bit, h⟩
    by_contra hnot
    rw [fd_bit] at h
    rw [HasBit] at hnot
    rw [if_neg hnot] at h
    cases h
  · exact fun h => ⟨fd, fd_bit_of_hasBit h⟩

/-- The set of an event with the descriptor, if it is polled for it. -/
def with_fd (event : UInt32) (poll_fd : PollFd) (fds : Finset Int) : Finset Int :=
  if poll_fd.event &&& event ≠ 0 then insert poll_fd.fd fds else fds

theorem fd_set_eq_ok_iff {event : UInt32} {fds bits : Finset Int} :
    fd_set event poll_fd fds = .ok bits ↔
      (poll_fd.event &&& event ≠ 0 → HasBit poll_fd.fd) ∧ bits = with_fd event poll_fd fds := by
  rw [fd_set, with_fd]
  by_cases hevent : poll_fd.event &&& event ≠ 0
  · rw [if_pos hevent, if_pos hevent, map_eq_ok_iff, forall_prop_of_true hevent]
    constructor
    · rintro ⟨bit, hbit, rfl⟩
      have hhas := fd_bit_completes_iff.mp ⟨bit, hbit⟩
      rw [fd_bit_of_hasBit hhas] at hbit
      obtain rfl := Except.ok.inj hbit
      exact ⟨hhas, rfl⟩
    · rintro ⟨hhas, rfl⟩
      exact ⟨poll_fd.fd, fd_bit_of_hasBit hhas, rfl⟩
  · rw [if_neg hevent, if_neg hevent]
    constructor
    · intro h
      exact ⟨fun hpolled => absurd hpolled hevent, (Except.ok.inj h).symm⟩
    · rintro ⟨-, rfl⟩
      rfl

/-- An accepted descriptor. -/
def added (s : MultipleIOSelect) (poll_fd : PollFd) : MultipleIOSelect where
  descriptors := s.descriptors.insert poll_fd.fd poll_fd
  max_fd := if s.max_fd < poll_fd.fd then poll_fd.fd else s.max_fd
  rfds := with_fd READBLE_EVENT poll_fd s.rfds
  wfds := with_fd WRITABLE_EVENT poll_fd s.wfds
  max_poll_size := s.max_poll_size

/-- What an addition does: it is rejected, or the descriptor comes to the sets of its events. -/
theorem step_add_eq_ok_iff :
    s.step (.poll_set_add poll_fd taken) = .ok t ↔
      if s.descriptors.size < s.max_poll_size then
        (Listens poll_fd → HasBit poll_fd.fd) ∧ t = s.added poll_fd
      else t = s := by
  rw [step, map_eq_ok_iff, poll_set_add]
  by_cases hfull : s.max_poll_size ≤ s.descriptors.size
  · rw [if_pos hfull, if_neg (Nat.not_lt.mpr hfull)]
    simp [eq_comm]
  · rw [if_neg hfull, if_pos (Nat.not_le.mp hfull)]
    constructor
    · rintro ⟨⟨result, u⟩, hadd, rfl⟩
      obtain ⟨rfds, hrfds, hadd⟩ := bind_eq_ok_iff.mp hadd
      obtain ⟨wfds, hwfds, hadd⟩ := bind_eq_ok_iff.mp hadd
      obtain ⟨hread, rfl⟩ := fd_set_eq_ok_iff.mp hrfds
      obtain ⟨hwrite, rfl⟩ := fd_set_eq_ok_iff.mp hwfds
      cases hadd
      exact ⟨fun hlistens => hlistens.elim hread hwrite, rfl⟩
    · rintro ⟨hhas, rfl⟩
      have hrfds := fd_set_eq_ok_iff.mpr ⟨fun h => hhas (.inl h), Eq.refl (with_fd _ _ s.rfds)⟩
      have hwfds := fd_set_eq_ok_iff.mpr ⟨fun h => hhas (.inr h), Eq.refl (with_fd _ _ s.wfds)⟩
      refine ⟨(true, s.added poll_fd), ?_, rfl⟩
      dsimp only
      rw [hrfds, ok_bind, hwfds, ok_bind]
      rfl

/-- A removed descriptor. -/
def removed (s : MultipleIOSelect) (fd : Int) : MultipleIOSelect where
  descriptors := if fd ∈ s.descriptors then s.descriptors.erase fd else s.descriptors
  max_fd := if s.max_fd ≤ fd then s.max_fd - 1 else s.max_fd
  rfds := s.rfds.erase fd
  wfds := s.wfds.erase fd
  max_poll_size := s.max_poll_size

theorem step_remove_eq_ok_iff :
    s.step (.poll_set_remove poll_fd) = .ok t ↔ HasBit poll_fd.fd ∧ t = s.removed poll_fd.fd := by
  rw [step, map_eq_ok_iff, poll_set_remove]
  constructor
  · rintro ⟨⟨result, u⟩, hremove, rfl⟩
    obtain ⟨bit, hbit, hremove⟩ := bind_eq_ok_iff.mp hremove
    have hhas := fd_bit_completes_iff.mp ⟨bit, hbit⟩
    rw [fd_bit_of_hasBit hhas] at hbit
    cases hbit
    cases hremove
    exact ⟨hhas, rfl⟩
  · rintro ⟨hhas, rfl⟩
    refine ⟨(true, s.removed poll_fd.fd), ?_, rfl⟩
    dsimp only
    rw [fd_bit_of_hasBit hhas, ok_bind]
    rfl

theorem mem_removed :
    fd ∈ (s.removed poll_fd.fd).descriptors ↔ fd ≠ poll_fd.fd ∧ fd ∈ s.descriptors :=
  mem_ite_erase_iff

theorem mem_with_fd {event : UInt32} {fds : Finset Int} :
    fd ∈ with_fd event poll_fd fds ↔ (poll_fd.event &&& event ≠ 0 ∧ fd = poll_fd.fd) ∨ fd ∈ fds := by
  rw [with_fd]
  split
  case isTrue hevent => rw [Finset.mem_insert, and_iff_right hevent]
  case isFalse hevent => rw [or_iff_right fun h => hevent h.1]

theorem mem_added_bits :
    fd ∈ (s.added poll_fd).rfds ∪ (s.added poll_fd).wfds ↔
      (Listens poll_fd ∧ fd = poll_fd.fd) ∨ fd ∈ s.rfds ∪ s.wfds := by
  rw [added, Finset.mem_union, Finset.mem_union, mem_with_fd, mem_with_fd, Listens]
  tauto

theorem mem_added : fd ∈ (s.added poll_fd).descriptors ↔ fd = poll_fd.fd ∨ fd ∈ s.descriptors :=
  mem_insert_iff

theorem Kept.added (h : s.Kept) (hbit : Listens poll_fd → HasBit poll_fd.fd)
    (hold : ¬ Listens poll_fd → poll_fd.fd ∈ s.descriptors) : (s.added poll_fd).Kept where
  bits fd := by
    rw [mem_added_bits, mem_added, h.bits]
    by_cases hlistens : Listens poll_fd
    · rw [and_iff_right hlistens]
    · rw [or_iff_right fun hnew => hlistens hnew.1]
      refine (or_iff_right_of_imp ?_).symm
      rintro rfl
      exact hold hlistens
  bound fd hfd := by
    show fd ≤ if s.max_fd < poll_fd.fd then poll_fd.fd else s.max_fd
    rcases mem_added.mp hfd with rfl | hfd
    · split <;> omega
    · have hbound := h.bound fd hfd
      split <;> omega
  fits := by
    show (if s.max_fd < poll_fd.fd then poll_fd.fd else s.max_fd) < FD_SETSIZE
    split
    case isTrue hlt =>
      apply (hbit ?_).2
      by_contra hnot
      have hbound := h.bound poll_fd.fd (hold hnot)
      omega
    case isFalse => exact h.fits

theorem Kept.removed (h : s.Kept) (hbound : ¬ (s.max_fd < poll_fd.fd ∧ s.max_fd ∈ s.descriptors)) :
    (s.removed poll_fd.fd).Kept where
  bits fd := by
    rw [mem_removed, ← h.bits]
    simp only [MultipleIOSelect.removed, Finset.mem_union, Finset.mem_erase]
    tauto
  bound fd hfd := by
    show fd ≤ if s.max_fd ≤ poll_fd.fd then s.max_fd - 1 else s.max_fd
    obtain ⟨hne, hmem⟩ := mem_removed.mp hfd
    have hold := h.bound fd hmem
    split
    case isTrue hle =>
      -- the only descriptor that `max_fd` could have lost is `max_fd` itself
      by_contra hgt
      have heq : fd = s.max_fd := by omega
      subst heq
      exact hbound ⟨by omega, hmem⟩
    case isFalse => exact hold
  fits := by
    show (if s.max_fd ≤ poll_fd.fd then s.max_fd - 1 else s.max_fd) < FD_SETSIZE
    have hfits := h.fits
    split <;> omega

theorem Kept.step (h : s.Kept) (e : PollSetEvent) (htame : s.Tame e) :
    ∃ t, s.step e = .ok t ∧ t.Kept := by
  cases e with
  | poll_set_add poll_fd taken =>
    by_cases hless : s.descriptors.size < s.max_poll_size
    · obtain ⟨hbit, hold⟩ := htame hless
      refine ⟨s.added poll_fd, step_add_eq_ok_iff.mpr ?_, h.added hbit hold⟩
      rw [if_pos hless]
      exact ⟨hbit, rfl⟩
    · refine ⟨s, step_add_eq_ok_iff.mpr ?_, h⟩
      rw [if_neg hless]
  | poll_set_remove poll_fd =>
    exact ⟨s.removed poll_fd.fd, step_remove_eq_ok_iff.mpr ⟨htame.1, rfl⟩, h.removed htame.2⟩

theorem Kept.not_matches (h : s.Kept) {e : PollSetEvent} (hnot : ¬ s.Tame e)
    (hstep : s.step e = .ok t) : ¬ t.Matches := by
  intro hmatches
  cases e with
  | poll_set_add poll_fd taken =>
    obtain ⟨hless, hnot⟩ := Classical.not_imp.mp hnot
    rw [step_add_eq_ok_iff, if_pos hless] at hstep
    obtain ⟨hbit, rfl⟩ := hstep
    obtain ⟨hsilent, hnew⟩ := Classical.not_imp.mp fun hold => hnot ⟨hbit, hold⟩
    have hpolled := (hmatches.registered poll_fd.fd).mpr (mem_added.mpr (.inl rfl))
    rcases mem_added_bits.mp (mem_polled.mp hpolled).1 with hlistens | hbits
    · exact hsilent hlistens.1
    · exact hnew ((h.bits poll_fd.fd).mp hbits)
  | poll_set_remove poll_fd =>
    obtain ⟨hbit, rfl⟩ := step_remove_eq_ok_iff.mp hstep
    obtain ⟨hlt, hmem⟩ : s.max_fd < poll_fd.fd ∧ s.max_fd ∈ s.descriptors := by
      by_contra hbound
      exact hnot ⟨hbit, hbound⟩
    have hkept := hmatches.bound s.max_fd (mem_removed.mpr ⟨hlt.ne, hmem⟩)
    have hmax : (s.removed poll_fd.fd).max_fd = s.max_fd - 1 := if_pos hlt.le
    omega

end Step

theorem kept_new (size : Nat) : (new size).Kept where
  bits := by simp [new]
  bound := by simp [new]
  fits := show (-1 : Int) < 1024 by decide

/-- What is polled matches what is registered all along a run, without a bit outside a set, exactly
when the run is tame. -/
theorem matches_iff (size : Nat) (es : List PollSetEvent) :
    ((∃ t, exec step (new size) es = .ok t) ∧ StatesSatisfy step Matches (new size) es) ↔
      StepsSatisfy step Tame (new size) es :=
  runs_iff_stepsSatisfy (fun _ h => h.matches) (fun _ e h => h.step e)
    (fun _ _ _ h => h.not_matches) (kept_new size) es

end MultipleIOSelect

end livox_lidar
