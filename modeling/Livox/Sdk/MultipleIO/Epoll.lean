import Livox.Sdk.MultipleIO

open checked execution ordered_map

namespace livox_lidar

namespace MultipleIOEpoll

/-- What is polled is what is registered, and no more events are asked for than there is room for. -/
structure Matches (s : MultipleIOEpoll) : Prop where
  registered : ∀ fd, fd ∈ s.interest ↔ fd ∈ s.descriptors
  fits : s.max_events ≤ s.pollset_size

/-- There is room for a descriptor that is accepted and that the kernel takes, if it is a new one. -/
def HasRoom (s : MultipleIOEpoll) : PollSetEvent → Prop
  | .poll_set_add poll_fd taken => s.descriptors.size < s.max_poll_size → taken = true →
      poll_fd.fd ∉ s.descriptors → s.descriptors.size < s.pollset_size
  | .poll_set_remove _ => True

section Step

variable {s t : MultipleIOEpoll} {poll_fd : PollFd} {taken : Bool}

/-- A descriptor that is put on both lists. -/
def added (s : MultipleIOEpoll) (poll_fd : PollFd) : MultipleIOEpoll :=
  { s with
    interest := s.interest.insert poll_fd.fd (get_event poll_fd.event)
    descriptors := s.descriptors.insert poll_fd.fd poll_fd }

/-- What an addition does inside the invariant: nothing, or it puts a new descriptor on both
lists. -/
theorem step_add_cases (h : s.Matches) (poll_fd : PollFd) (taken : Bool) :
    ¬ (s.descriptors.size < s.max_poll_size ∧ taken = true ∧ poll_fd.fd ∉ s.descriptors) ∧
        s.step (.poll_set_add poll_fd taken) = .ok s ∨
      (s.descriptors.size < s.max_poll_size ∧ taken = true ∧ poll_fd.fd ∉ s.descriptors) ∧
        s.step (.poll_set_add poll_fd taken) = .ok (s.added poll_fd) := by
  rw [step, poll_set_add]
  by_cases hfull : s.max_poll_size ≤ s.descriptors.size
  · rw [if_pos hfull]
    exact .inl ⟨fun hnew => absurd hnew.1 (Nat.not_lt.mpr hfull), rfl⟩
  rw [if_neg hfull]
  by_cases hrefused : taken = false ∨ poll_fd.fd ∈ s.interest
  · rw [if_pos hrefused]
    refine .inl ⟨?_, rfl⟩
    rintro ⟨-, htaken, hnew⟩
    rcases hrefused with hfalse | hmem
    · cases htaken.symm.trans hfalse
    · exact hnew ((h.registered poll_fd.fd).mp hmem)
  · rw [if_neg hrefused]
    obtain ⟨htaken, hnew⟩ := not_or.mp hrefused
    rw [h.registered] at hnew
    exact .inr ⟨⟨Nat.not_le.mp hfull, Bool.eq_true_of_not_eq_false htaken, hnew⟩, rfl⟩

theorem max_events_added (hnew : poll_fd.fd ∉ s.descriptors) :
    (s.added poll_fd).max_events = s.max_events + 1 := by
  have hcontains : ¬ s.descriptors.contains poll_fd.fd = true :=
    fun hmem => hnew (Std.TreeMap.contains_iff_mem.mp hmem)
  rw [max_events, added, Std.TreeMap.size_insert, if_neg hcontains, max_events]

theorem Matches.added (h : s.Matches) (hnew : poll_fd.fd ∉ s.descriptors)
    (hroom : s.descriptors.size < s.pollset_size) : (s.added poll_fd).Matches where
  registered fd := by
    rw [MultipleIOEpoll.added, Std.TreeMap.mem_insert, Std.TreeMap.mem_insert, h.registered]
  fits := by
    rw [max_events_added hnew]
    exact hroom

theorem Matches.removed (h : s.Matches) (poll_fd : PollFd) :
    (s.poll_set_remove poll_fd).2.Matches where
  registered fd := by
    rw [poll_set_remove]
    dsimp only
    rw [mem_ite_erase_iff, mem_erase_iff, h.registered]
  fits := by
    rw [poll_set_remove, max_events]
    dsimp only
    split
    case isTrue => exact Std.TreeMap.size_erase_le.trans h.fits
    case isFalse => exact h.fits

theorem Matches.step (h : s.Matches) (e : PollSetEvent) (hroom : s.HasRoom e) :
    ∃ t, s.step e = .ok t ∧ t.Matches := by
  cases e with
  | poll_set_add poll_fd taken =>
    rcases step_add_cases h poll_fd taken with ⟨-, hstep⟩ | ⟨⟨hless, htaken, hnew⟩, hstep⟩
    · exact ⟨s, hstep, h⟩
    · exact ⟨s.added poll_fd, hstep, h.added hnew (hroom hless htaken hnew)⟩
  | poll_set_remove poll_fd => exact ⟨_, rfl, h.removed poll_fd⟩

theorem Matches.not_matches (h : s.Matches) {e : PollSetEvent} (hnot : ¬ s.HasRoom e)
    (hstep : s.step e = .ok t) : ¬ t.Matches := by
  intro hmatches
  cases e with
  | poll_set_add poll_fd taken =>
    obtain ⟨hless, hnot⟩ := Classical.not_imp.mp hnot
    obtain ⟨htaken, hnot⟩ := Classical.not_imp.mp hnot
    obtain ⟨hnew, hfull⟩ := Classical.not_imp.mp hnot
    rcases step_add_cases h poll_fd taken with ⟨hkept, -⟩ | ⟨-, hadded⟩
    · exact hkept ⟨hless, htaken, hnew⟩
    · obtain rfl := Except.ok.inj (hadded.symm.trans hstep)
      have hfits := hmatches.fits
      rw [max_events_added hnew] at hfits
      exact hfull hfits
  | poll_set_remove poll_fd => exact hnot trivial

end Step

theorem matches_new (size : Nat) : (new size).Matches where
  registered := by simp [new]
  fits := Nat.zero_le _

/-- What is polled matches what is registered all along a run, and the events have room, exactly when
no new descriptor is taken while there are as many as the array has places. -/
theorem matches_iff (size : Nat) (es : List PollSetEvent) :
    ((∃ t, exec step (new size) es = .ok t) ∧ StatesSatisfy step Matches (new size) es) ↔
      StepsSatisfy step HasRoom (new size) es :=
  runs_iff_stepsSatisfy (fun _ h => h) (fun _ e h => h.step e) (fun _ _ _ h => h.not_matches)
    (matches_new size) es

end MultipleIOEpoll

end livox_lidar
