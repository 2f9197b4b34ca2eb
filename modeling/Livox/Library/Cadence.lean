import Mathlib

namespace cadence

section Run

variable {α : Type}

/-- The span of what is held once a packet has been added to it. -/
def extend (held : Option (α × α)) (packet : α × α) : α × α :=
  ((held.getD packet).1, packet.2)

variable (due : α × α → Prop) [DecidablePred due]

/-- A packet, given by its first and its last time, extends the span that is held; a span that is
due is cut off as a frame. -/
def advance (state : Option (α × α) × List (α × α)) (packet : α × α) :
    Option (α × α) × List (α × α) :=
  if due (extend state.1 packet) then (none, state.2 ++ [extend state.1 packet])
  else (some (extend state.1 packet), state.2)

/-- The span held after the packets, and the frames cut off on the way. -/
def run (packets : List (α × α)) : Option (α × α) × List (α × α) :=
  packets.foldl (advance due) (none, [])

theorem run_concat (packets : List (α × α)) (packet : α × α) :
    run due (packets ++ [packet]) = advance due (run due packets) packet := by
  rw [run, List.foldl_append]
  rfl

end Run

section Windows

variable {interval window : ℕ}

/-- The first part of the `k`-th interval. -/
def InWindow (interval window k time : ℕ) : Prop :=
  k * interval ≤ time ∧ time < k * interval + window

instance (k time : ℕ) : Decidable (InWindow interval window k time) :=
  inferInstanceAs (Decidable (_ ∧ _))

theorem inWindow_iff (hwindow : window ≤ interval) {k time : ℕ} :
    InWindow interval window k time ↔ time / interval = k ∧ time % interval < window := by
  have hdiv : interval * (time / interval) + time % interval = time := Nat.div_add_mod _ _
  constructor
  · rintro ⟨hlow, hhigh⟩
    have hk : time / interval = k := by
      apply Nat.div_eq_of_lt_le hlow
      rw [Nat.succ_mul]
      omega
    rw [hk, Nat.mul_comm] at hdiv
    exact ⟨hk, by omega⟩
  · rintro ⟨rfl, hmod⟩
    rw [Nat.mul_comm] at hdiv
    exact ⟨by omega, by omega⟩

end Windows

section Cadence

variable {α : Type}

/-- A span is due when it ends in the window of an interval after the first, and is an interval
long up to the length of a window. Nothing is asked of spans that end before they begin, but that
they are cut in a window too. -/
structure DueInWindow (due : α × α → Prop) (time : α → ℕ) (interval window : ℕ) : Prop where
  pos : 0 < window
  lt : 4 * window ≤ interval
  inside : ∀ span, due span → time span.2 % interval < window ∧ window ≤ time span.2
  iff : ∀ span, time span.1 ≤ time span.2 →
    (due span ↔ time span.2 % interval < window ∧ window ≤ time span.2 ∧
      interval ≤ time span.2 - time span.1 + window)

/-- A packet after one that ended at `last`: it begins no earlier, and ends later by less than
half a window. -/
structure FollowsAt (time : α → ℕ) (window last : ℕ) (packet : α × α) : Prop where
  first_le : last ≤ time packet.1
  lt : last < time packet.2
  near : 2 * time packet.2 < 2 * last + window

/-- Between the frames of the windows `k` and `k + 1`: what is held begins in or right behind the
window `k`, and the last packet is still in the first half of the window `k + 1`. -/
def Settled (time : α → ℕ) (interval window k last : ℕ) : Option (α × α) → Prop
  | none => InWindow interval window k last
  | some span => k * interval ≤ time span.1 ∧ 2 * time span.1 < 2 * (k * interval) + 3 * window ∧
      time span.1 ≤ last ∧ 2 * last < 2 * ((k + 1) * interval) + window

variable {due : α × α → Prop} {time : α → ℕ} {interval window k last : ℕ}
  {held : Option (α × α)} {packet : α × α}

/-- What the next packet extends begins in or right behind the window of the last frame, and ends
before the next window does. -/
theorem Settled.next_bounds (h : Settled time interval window k last held)
    (hlong : 4 * window ≤ interval) (hfollows : FollowsAt time window last packet)
    (hpacket : time packet.1 ≤ time packet.2) :
    k * interval ≤ time (extend held packet).1 ∧
      2 * time (extend held packet).1 < 2 * (k * interval) + 3 * window ∧
      time (extend held packet).1 ≤ time packet.2 ∧
      time packet.2 < (k + 1) * interval + window := by
  obtain ⟨hfirst, hlt, hnear⟩ := hfollows
  have hsucc : (k + 1) * interval = k * interval + interval := Nat.succ_mul k interval
  cases held with
  | none =>
    obtain ⟨hlow, hhigh⟩ := h
    refine ⟨?_, ?_, hpacket, ?_⟩
    · exact hlow.trans hfirst
    · change 2 * time packet.1 < _
      omega
    · omega
  | some span =>
    obtain ⟨hbase, hnext, hbefore, hlast⟩ := h
    exact ⟨hbase, hnext, hbefore.trans hlt.le, by omega⟩

/-- A frame that is cut next is cut in the next window, and spans an interval up to a window. -/
theorem Settled.cut (h : Settled time interval window k last held)
    (hdue : DueInWindow due time interval window) (hfollows : FollowsAt time window last packet)
    (hpacket : time packet.1 ≤ time packet.2) (hcut : due (extend held packet)) :
    InWindow interval window (k + 1) (time packet.2) ∧
      interval ≤ time packet.2 - time (extend held packet).1 + window ∧
      time packet.2 - time (extend held packet).1 < interval + window := by
  obtain ⟨hbase, hnext, hbefore, hlast⟩ := h.next_bounds hdue.lt hfollows hpacket
  obtain ⟨hmod, _, hspan⟩ := (hdue.iff (extend held packet) hbefore).1 hcut
  have hlong := hdue.lt
  have hpos := hdue.pos
  change time packet.2 % interval < window at hmod
  change interval ≤ time packet.2 - time (extend held packet).1 + window at hspan
  have hsucc : (k + 1) * interval = k * interval + interval := Nat.succ_mul k interval
  have hlow : (k + 1) * interval ≤ time packet.2 := by
    -- the end of the interval before is no window
    by_contra hlt
    have hrest : time packet.2 % interval = time packet.2 - k * interval := by
      rw [← Nat.sub_mul_mod (show interval * k ≤ time packet.2 by rw [Nat.mul_comm]; omega),
        Nat.mul_comm interval k, Nat.mod_eq_of_lt (by omega)]
    omega
  exact ⟨⟨hlow, hlast⟩, hspan, by omega⟩

/-- When no frame is cut, the window of the next one has not been passed half. -/
theorem Settled.keep (h : Settled time interval window k last held)
    (hdue : DueInWindow due time interval window) (hfollows : FollowsAt time window last packet)
    (hpacket : time packet.1 ≤ time packet.2) (hkeep : ¬ due (extend held packet)) :
    Settled time interval window k (time packet.2) (some (extend held packet)) := by
  obtain ⟨hbase, hnext, hbefore, hlast⟩ := h.next_bounds hdue.lt hfollows hpacket
  have hlong := hdue.lt
  refine ⟨hbase, hnext, hbefore, ?_⟩
  by_contra hpassed
  have hsucc : (k + 1) * interval = k * interval + interval := Nat.succ_mul k interval
  have hwindow : InWindow interval window (k + 1) (time packet.2) := ⟨by omega, hlast⟩
  obtain ⟨_, hmod⟩ := (inWindow_iff (by omega)).1 hwindow
  apply hkeep
  refine (hdue.iff (extend held packet) hbefore).2 ⟨hmod, ?_, ?_⟩
  · change window ≤ time packet.2
    omega
  · change interval ≤ time packet.2 - time (extend held packet).1 + window
    omega

theorem Settled.le (h : Settled time interval window k last held) : k * interval ≤ last := by
  cases held with
  | none => exact h.1
  | some span => exact h.1.trans h.2.2.1

/-- The frames after the first: one in each of the windows that follow its own, each about an
interval long. -/
structure Regular (time : α → ℕ) (interval window : ℕ) (first : α × α) (rest : List (α × α)) :
    Prop where
  first_inside : time first.2 % interval < window
  first_ge : interval ≤ time first.2
  windows : rest.map (fun frame => time frame.2 / interval) =
    List.range' (time first.2 / interval + 1) rest.length
  inside : ∀ frame ∈ rest, time frame.2 % interval < window
  spans : ∀ frame ∈ rest, interval ≤ time frame.2 - time frame.1 + window ∧
    time frame.2 - time frame.1 < interval + window

theorem Regular.concat {first : α × α} {rest : List (α × α)} {frame : α × α}
    (h : Regular time interval window first rest) (hwindow : window ≤ interval)
    (hframe : InWindow interval window (time first.2 / interval + rest.length + 1) (time frame.2))
    (hspan : interval ≤ time frame.2 - time frame.1 + window ∧
      time frame.2 - time frame.1 < interval + window) :
    Regular time interval window first (rest ++ [frame]) := by
  obtain ⟨hindex, hmod⟩ := (inWindow_iff hwindow).1 hframe
  refine ⟨h.first_inside, h.first_ge, ?_, ?_, ?_⟩
  · rw [List.map_append, h.windows, List.length_append, List.length_singleton, List.range'_concat,
      List.map_singleton, hindex, Nat.one_mul, Nat.add_right_comm _ 1]
  · exact List.forall_mem_append.2 ⟨h.inside, by simpa using hmod⟩
  · exact List.forall_mem_append.2 ⟨h.spans, by simpa using hspan⟩

/-- The first frame is cut in the window of an interval after the first. -/
theorem DueInWindow.regular (hdue : DueInWindow due time interval window) {span : α × α}
    (hcut : due span) : Regular time interval window span [] := by
  obtain ⟨hmod, hwindow⟩ := hdue.inside span hcut
  refine ⟨hmod, ?_, rfl, by simp, by simp⟩
  by_contra hlt
  rw [Nat.mod_eq_of_lt (by omega)] at hmod
  omega

/-- Once a frame has been cut the others follow regularly, and the window after the last of them
has not been passed half. -/
theorem run_regular (hdue : DueInWindow due time interval window) [DecidablePred due]
    {packets : List (α × α)}
    (hchain : packets.IsChain fun previous => FollowsAt time window (time previous.2))
    (hordered : ∀ packet ∈ packets, interval ≤ time packet.2 → time packet.1 ≤ time packet.2) :
    (run due packets).2 = [] ∨
      ∃ first rest final, (run due packets).2 = first :: rest ∧ packets.getLast? = some final ∧
        Regular time interval window first rest ∧
        Settled time interval window (time first.2 / interval + rest.length) (time final.2)
          (run due packets).1 := by
  have hlong := hdue.lt
  induction packets using List.reverseRecOn with
  | nil => exact .inl rfl
  | append_singleton packets packet ih =>
    obtain ⟨hbefore, _, hnext⟩ := List.isChain_append.1 hchain
    rw [run_concat, advance]
    rcases ih hbefore fun q hq => hordered q (List.mem_append_left _ hq) with
      hnone | ⟨first, rest, final, hframes, hfinal, hregular, hsettled⟩
    · by_cases hcut : due (extend (run due packets).1 packet)
      · right
        rw [if_pos hcut, hnone]
        have hregular := hdue.regular hcut
        refine ⟨_, [], packet, rfl, by simp, hregular, ?_⟩
        exact (inWindow_iff (by omega)).2 ⟨rfl, hregular.first_inside⟩
      · left
        rwa [if_neg hcut]
    · have hfollows : FollowsAt time window (time final.2) packet := hnext final hfinal packet rfl
      have hlow : interval ≤ time packet.2 := by
        have hone : 1 ≤ time first.2 / interval :=
          (Nat.one_le_div_iff (by have := hdue.pos; omega)).2 hregular.first_ge
        calc interval = 1 * interval := (Nat.one_mul interval).symm
          _ ≤ (time first.2 / interval + rest.length) * interval :=
            Nat.mul_le_mul_right interval (by omega)
          _ ≤ time final.2 := hsettled.le
          _ ≤ time packet.2 := hfollows.lt.le
      have hpacket := hordered packet (by simp) hlow
      right
      by_cases hcut : due (extend (run due packets).1 packet)
      · obtain ⟨hwindow, hspan⟩ := hsettled.cut hdue hfollows hpacket hcut
        rw [if_pos hcut, hframes]
        refine ⟨first, rest ++ [extend (run due packets).1 packet], packet, rfl, by simp,
          hregular.concat (by omega) hwindow hspan, ?_⟩
        rw [List.length_append]
        exact hwindow
      · rw [if_neg hcut]
        exact ⟨first, rest, packet, hframes, by simp, hregular,
          hsettled.keep hdue hfollows hpacket hcut⟩

/-- A window that the packets have passed has exactly one of the frames after the first. -/
theorem Regular.countP_window {first : α × α} {rest : List (α × α)}
    (h : Regular time interval window first rest) (hwindow : window ≤ interval)
    (hafter : time first.2 / interval < k) (hbefore : k ≤ time first.2 / interval + rest.length) :
    rest.countP (fun frame => InWindow interval window k (time frame.2)) = 1 := by
  have hindex : ∀ frame ∈ rest, (decide (InWindow interval window k (time frame.2)) = true ↔
      (time frame.2 / interval == k) = true) := by
    intro frame hframe
    simp [inWindow_iff hwindow, h.inside frame hframe]
  calc rest.countP (fun frame => InWindow interval window k (time frame.2))
      = rest.countP (fun frame => time frame.2 / interval == k) := List.countP_congr hindex
    _ = (rest.map fun frame => time frame.2 / interval).count k := by
        rw [List.count, List.countP_map]
        rfl
    _ = 1 := by
        rw [h.windows]
        have hmem : k ∈ List.range' (time first.2 / interval + 1) rest.length := by
          rw [List.mem_range'_1]
          omega
        exact List.count_eq_one_of_mem List.nodup_range' hmem

/-- Every frame after the first is in a window after that of the first. -/
theorem Regular.exists_window {first frame : α × α} {rest : List (α × α)}
    (h : Regular time interval window first rest) (hwindow : window ≤ interval)
    (hframe : frame ∈ rest) :
    ∃ k, time first.2 / interval < k ∧ InWindow interval window k (time frame.2) := by
  refine ⟨time frame.2 / interval, ?_, (inWindow_iff hwindow).2 ⟨rfl, h.inside frame hframe⟩⟩
  have hmem : time frame.2 / interval ∈ rest.map fun frame => time frame.2 / interval :=
    List.mem_map_of_mem hframe
  rw [h.windows, List.mem_range'_1] at hmem
  omega

/-- The windows that have been passed are those of frames. -/
theorem Settled.of_passed (h : Settled time interval window k last held) {passed : ℕ}
    (hpassed : 2 * (passed * interval) + window ≤ 2 * last) (hlong : 4 * window ≤ interval) :
    passed ≤ k := by
  by_contra hlt
  have hle : (k + 1) * interval ≤ passed * interval := Nat.mul_le_mul_right interval (by omega)
  have hsucc : (k + 1) * interval = k * interval + interval := Nat.succ_mul k interval
  cases held with
  | none =>
    obtain ⟨_, hhigh⟩ := h
    omega
  | some span =>
    obtain ⟨_, _, _, hlast⟩ := h
    omega

end Cadence

end cadence
