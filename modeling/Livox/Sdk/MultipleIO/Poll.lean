import Livox.Sdk.MultipleIO

open checked execution ordered_map

namespace livox_lidar

namespace MultipleIOPoll

/-- What is polled is what is registered, each descriptor once, and it is in the array. -/
structure Matches (s : MultipleIOPoll) : Prop where
  once : s.polled.Nodup
  registered : ∀ fd, fd ∈ s.polled ↔ fd ∈ s.descriptors
  fits : s.pollset_num ≤ s.pollset.length

/-- A descriptor that is accepted is a new one, and one that is removed is not registered. -/
def Grows (s : MultipleIOPoll) : PollSetEvent → Prop
  | .poll_set_add poll_fd _ => s.descriptors.size < s.max_poll_size → poll_fd.fd ∉ s.descriptors
  | .poll_set_remove poll_fd => poll_fd.fd ∉ s.descriptors

structure Kept (s : MultipleIOPoll) : Prop extends s.Matches where
  length : s.pollset.length = s.max_poll_size

section Loop

variable {fd : Int} {pollset : List Pollfd} {pollset_num i : Nat}

/-- The outer loop looks at an entry. -/
theorem remove_loop_none (hnum : pollset_num ≤ pollset.length) (hi : i < pollset_num) :
    remove_loop fd pollset pollset_num i none =
      if pollset[i].fd = fd then remove_loop fd pollset pollset_num (i + 1) (some i)
      else remove_loop fd pollset pollset_num (i + 1) none := by
  have hread : readList pollset i = .ok pollset[i] :=
    readList_eq_ok_iff.mpr (List.getElem?_eq_getElem (by omega))
  rw [remove_loop, if_pos hi, hread, ok_bind]

theorem remove_loop_end (hi : ¬ i < pollset_num) :
    remove_loop fd pollset pollset_num i none = .ok (pollset, pollset_num) := by
  rw [remove_loop, if_neg hi]

/-- Entries of other descriptors stay as they are. -/
theorem remove_loop_of_absent (hnum : pollset_num ≤ pollset.length)
    (habsent : ∀ j entry, i ≤ j → j < pollset_num → pollset[j]? = some entry → entry.fd ≠ fd) :
    remove_loop fd pollset pollset_num i none = .ok (pollset, pollset_num) := by
  induction hleft : pollset_num - i generalizing i with
  | zero => exact remove_loop_end (by omega)
  | succ left ih =>
    have hi : i < pollset_num := by omega
    have hfd := habsent i pollset[i] (le_refl i) hi (List.getElem?_eq_getElem (by omega))
    rw [remove_loop_none hnum hi, if_neg hfd]
    apply ih
    · exact fun j entry hj => habsent j entry (by omega)
    · omega

/-- Behind the one entry of a descriptor the others move up, all but the last one; as many entries
are polled as before. -/
theorem remove_loop_moves {dst : Nat} (hnum : pollset_num ≤ pollset.length) (hdst : dst < i)
    (habsent : ∀ j entry, i ≤ j → j < pollset_num → pollset[j]? = some entry → entry.fd ≠ fd) :
    ∃ moved, remove_loop fd pollset pollset_num i (some dst) = .ok (moved, pollset_num) ∧
      moved.length = pollset.length := by
  induction hleft : pollset_num - i generalizing i dst pollset with
  | zero =>
    refine ⟨pollset, ?_, rfl⟩
    rw [remove_loop, if_neg (by omega)]
    exact remove_loop_end (by omega)
  | succ left ih =>
    by_cases hi : i + 1 < pollset_num
    · have hentry : pollset[i]? = some pollset[i] := List.getElem?_eq_getElem (by omega)
      have hfd := habsent i pollset[i] (le_refl i) (by omega) hentry
      have hwrite : writeList pollset dst pollset[i] = .ok (pollset.set dst pollset[i]) :=
        writeList_of_lt _ (by omega)
      rw [remove_loop, if_pos hi, readList_eq_ok_iff.mpr hentry, ok_bind, if_neg hfd, hwrite, ok_bind]
      have hset : (pollset.set dst pollset[i]).length = pollset.length := List.length_set
      have hrest : ∀ j entry, i + 1 ≤ j → j < pollset_num →
          (pollset.set dst pollset[i])[j]? = some entry → entry.fd ≠ fd := by
        intro j entry hj hjnum hlookup
        rw [List.getElem?_set_ne (by omega)] at hlookup
        exact habsent j entry (by omega) hjnum hlookup
      obtain ⟨moved, hmoved, hlength⟩ :=
        ih (hnum.trans_eq hset.symm) (Nat.succ_lt_succ hdst) hrest (by omega)
      exact ⟨moved, hmoved, hlength.trans hset⟩
    · refine ⟨pollset, ?_, rfl⟩
      rw [remove_loop, if_neg hi]
      exact remove_loop_end (by omega)

/-- Whatever descriptor is removed, as many entries are polled as before. -/
theorem remove_loop_num (fd : Int) (hnum : pollset_num ≤ pollset.length)
    (hnodup : ((pollset.take pollset_num).map Pollfd.fd).Nodup) :
    ∃ moved, remove_loop fd pollset pollset_num i none = .ok (moved, pollset_num) ∧
      moved.length = pollset.length := by
  induction hleft : pollset_num - i generalizing i with
  | zero => exact ⟨pollset, remove_loop_end (by omega), rfl⟩
  | succ left ih =>
    have hi : i < pollset_num := by omega
    rw [remove_loop_none hnum hi]
    by_cases hfd : pollset[i].fd = fd
    · rw [if_pos hfd]
      apply remove_loop_moves hnum (Nat.lt_succ_self i)
      intro j entry hj hjnum hlookup heq
      have hlookups : ((pollset.take pollset_num).map Pollfd.fd)[i]? =
          ((pollset.take pollset_num).map Pollfd.fd)[j]? := by
        rw [List.getElem?_map, List.getElem?_map, List.getElem?_take_of_lt hi,
          List.getElem?_take_of_lt hjnum, hlookup, List.getElem?_eq_getElem (by omega)]
        simp [hfd, heq]
      have hsame := (List.getElem?_inj (by simp; omega) hnodup).mp hlookups
      omega
    · rw [if_neg hfd]
      exact ih (by omega)

end Loop

section Step

variable {s t : MultipleIOPoll} {poll_fd : PollFd} {taken : Bool}

theorem Matches.num_eq (h : s.Matches) : s.pollset_num = s.descriptors.size := by
  have hkeys : s.descriptors.keys.Nodup := Std.TreeMap.nodup_keys
  have hperm : s.polled.Perm s.descriptors.keys := by
    rw [List.perm_ext_iff_of_nodup h.once hkeys]
    intro fd
    rw [h.registered, Std.TreeMap.mem_keys]
  have hlength := hperm.length_eq
  rw [Std.TreeMap.length_keys, polled, List.length_map, List.length_take] at hlength
  have hfits := h.fits
  omega

theorem polled_add {descriptors : Std.TreeMap Int PollFd} {fds : Pollfd} {max_poll_size : Nat}
    (hlt : s.pollset_num < s.pollset.length) :
    polled
      { descriptors, pollset := s.pollset.set s.pollset_num fds
        pollset_num := s.pollset_num + 1, max_poll_size } = s.polled ++ [fds.fd] := by
  rw [polled, polled, List.take_add_one, List.take_set_of_le (le_refl _), List.getElem?_set_self hlt,
    List.map_append]
  rfl

/-- What an addition does inside the invariant: it is rejected, or the descriptor is polled behind
the others. -/
theorem poll_set_add_cases (h : s.Kept) (poll_fd : PollFd) (taken : Bool) :
    ¬ s.descriptors.size < s.max_poll_size ∧ s.step (.poll_set_add poll_fd taken) = .ok s ∨
      s.descriptors.size < s.max_poll_size ∧
        ∃ t, s.step (.poll_set_add poll_fd taken) = .ok t ∧
          t.descriptors = s.descriptors.insert poll_fd.fd poll_fd ∧
          t.polled = s.polled ++ [poll_fd.fd] ∧ t.pollset_num ≤ t.pollset.length ∧
          t.pollset.length = t.max_poll_size := by
  rw [step, poll_set_add]
  by_cases hfull : s.max_poll_size ≤ s.descriptors.size
  · rw [if_pos hfull]
    exact .inl ⟨Nat.not_lt.mpr hfull, rfl⟩
  · have hlt : s.pollset_num < s.pollset.length := by
      rw [h.num_eq, h.length]
      omega
    rw [if_neg hfull]
    dsimp only
    rw [writeList_of_lt _ hlt]
    refine .inr ⟨Nat.not_le.mp hfull, _, rfl, rfl, polled_add hlt, ?_, ?_⟩
    · show s.pollset_num + 1 ≤ (s.pollset.set _ _).length
      rw [List.length_set]
      exact hlt
    · exact List.length_set.trans h.length

theorem Kept.grow (h : s.Kept) (hnew : poll_fd.fd ∉ s.descriptors)
    (hdescriptors : t.descriptors = s.descriptors.insert poll_fd.fd poll_fd)
    (hpolled : t.polled = s.polled ++ [poll_fd.fd]) (hfits : t.pollset_num ≤ t.pollset.length)
    (hlength : t.pollset.length = t.max_poll_size) : t.Kept where
  once := by
    rw [hpolled, List.nodup_append']
    refine ⟨h.once, List.nodup_singleton _, ?_⟩
    rw [List.disjoint_singleton, h.registered]
    exact hnew
  registered fd := by
    rw [hpolled, hdescriptors, List.mem_append, List.mem_singleton, h.registered, mem_insert_iff,
      or_comm]
  fits := hfits
  length := hlength

/-- A descriptor that is not registered is not removed. -/
theorem step_remove_of_unknown (h : s.Kept) (hunknown : poll_fd.fd ∉ s.descriptors) :
    s.step (.poll_set_remove poll_fd) = .ok s := by
  have habsent : ∀ j entry, 0 ≤ j → j < s.pollset_num → s.pollset[j]? = some entry →
      entry.fd ≠ poll_fd.fd := by
    rintro j entry - hj hentry heq
    apply hunknown
    rw [← h.registered, polled, ← heq]
    apply List.mem_map_of_mem
    apply List.mem_of_getElem?
    rw [List.getElem?_take_of_lt hj]
    exact hentry
  rw [step, poll_set_remove, if_neg hunknown]
  dsimp only
  rw [remove_loop_of_absent h.fits habsent]
  rfl

/-- One that is registered leaves the map, while as many are polled as before. -/
theorem step_remove_of_registered (h : s.Kept) (hregistered : poll_fd.fd ∈ s.descriptors) :
    ∃ t, s.step (.poll_set_remove poll_fd) = .ok t ∧ ¬ t.Matches := by
  obtain ⟨moved, hmoved, hlength⟩ := remove_loop_num poll_fd.fd h.fits h.once
  rw [step, poll_set_remove, if_pos hregistered]
  dsimp only
  rw [hmoved]
  refine ⟨_, rfl, fun hmatches => ?_⟩
  have hnum := hmatches.num_eq
  dsimp only at hnum
  have hpositive : 0 < s.pollset_num := by
    have hpolled := List.length_pos_of_mem ((h.registered poll_fd.fd).mpr hregistered)
    rw [polled, List.length_map, List.length_take] at hpolled
    omega
  have hcontains := Std.TreeMap.contains_iff_mem.mpr hregistered
  rw [Std.TreeMap.size_erase, if_pos hcontains, ← h.num_eq] at hnum
  omega

theorem Kept.step (h : s.Kept) (e : PollSetEvent) (hgrows : s.Grows e) :
    ∃ t, s.step e = .ok t ∧ t.Kept := by
  cases e with
  | poll_set_add poll_fd taken =>
    rcases poll_set_add_cases h poll_fd taken with ⟨-, hstep⟩ | ⟨hless, t, hstep, hadded⟩
    · exact ⟨s, hstep, h⟩
    · obtain ⟨hdescriptors, hpolled, hfits, hlength⟩ := hadded
      exact ⟨t, hstep, h.grow (hgrows hless) hdescriptors hpolled hfits hlength⟩
  | poll_set_remove poll_fd => exact ⟨s, step_remove_of_unknown h hgrows, h⟩

theorem Kept.not_matches (h : s.Kept) {e : PollSetEvent} (hnot : ¬ s.Grows e)
    (hstep : s.step e = .ok t) : ¬ t.Matches := by
  intro hmatches
  cases e with
  | poll_set_add poll_fd taken =>
    obtain ⟨hless, hregistered⟩ := Classical.not_imp.mp hnot
    rcases poll_set_add_cases h poll_fd taken with ⟨hfull, -⟩ | ⟨-, u, hu, -, hpolled, -⟩
    · exact hfull hless
    · obtain rfl := Except.ok.inj (hu.symm.trans hstep)
      have honce := hmatches.once
      rw [hpolled, List.nodup_append'] at honce
      apply List.disjoint_singleton.mp honce.2.2
      exact (h.registered poll_fd.fd).mpr (not_not.mp hregistered)
  | poll_set_remove poll_fd =>
    obtain ⟨u, hu, hbad⟩ := step_remove_of_registered h (not_not.mp hnot)
    obtain rfl := Except.ok.inj (hu.symm.trans hstep)
    exact hbad hmatches

end Step

theorem kept_new (size : Nat) : (new size).Kept where
  once := List.nodup_nil
  registered := by simp [new, polled]
  fits := Nat.zero_le _
  length := List.length_replicate

/-- What is polled matches what is registered all along a run exactly when the run never removes a
descriptor that is registered and adds none that is. -/
theorem matches_iff (size : Nat) (es : List PollSetEvent) :
    ((∃ t, exec step (new size) es = .ok t) ∧ StatesSatisfy step Matches (new size) es) ↔
      StepsSatisfy step Grows (new size) es :=
  runs_iff_stepsSatisfy (fun _ h => h.toMatches) (fun _ e h => h.step e)
    (fun _ _ _ h => h.not_matches) (kept_new size) es

end MultipleIOPoll

end livox_lidar
