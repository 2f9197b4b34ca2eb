import Livox.Comm.Ldq

namespace livox_ros

theorem is_power_of_2_iff (size : UInt32) :
    is_power_of_2 size = true ↔ ∃ m, size.toNat = 2 ^ m := by
  have hmask : size ≠ 0 → (size - 1).toNat = size.toNat - 1 := by
    intro hne
    have hpos : size.toNat ≠ 0 := fun h => hne (UInt32.toNat_inj.mp h)
    exact UInt32.toNat_sub_of_le size 1 (by rw [UInt32.le_iff_toNat_le]; simp; omega)
  have hiff := @Nat.ne_zero_and_sub_one_eq_zero_iff_isPowerOfTwo size.toNat
  rw [show (∃ m, size.toNat = 2 ^ m) ↔ size.toNat.isPowerOfTwo from Iff.rfl, ← hiff]
  simp only [is_power_of_2, Bool.and_eq_true, bne_iff_ne, beq_iff_eq]
  constructor
  · rintro ⟨hne, hand⟩
    refine ⟨fun h => hne (UInt32.toNat_inj.mp h), ?_⟩
    have h := congrArg UInt32.toNat hand
    rwa [UInt32.toNat_and, hmask hne] at h
  · rintro ⟨hne, hand⟩
    have hsize : size ≠ 0 := by
      rintro rfl
      exact hne rfl
    refine ⟨hsize, UInt32.toNat_inj.mp ?_⟩
    rw [UInt32.toNat_and, hmask hsize]
    exact hand

theorem toNat_one_shiftLeft {i : Nat} (hi : i < 32) :
    ((1 : UInt32) <<< UInt32.ofNat i).toNat = 2 ^ i := by
  interval_cases i <;> rfl

/-- The loop stops at the first power of two that is large enough. Its
induction carries that every smaller power has been tried. -/
theorem roundup_loop_spec {size : UInt32} (hsize : size.toNat ≤ 2 ^ 31) :
    ∀ remaining i : Nat, i + remaining = 32 → 0 < remaining →
      (∀ j, j < i → 2 ^ j < size.toNat) →
      ∀ power2_val, ∃ m, m < 32 ∧
        (roundup_loop size remaining (UInt32.ofNat i) power2_val).toNat = 2 ^ m ∧
        size.toNat ≤ 2 ^ m ∧ ∀ j, j < m → 2 ^ j < size.toNat := by
  intro remaining
  induction remaining with
  | zero => exact fun i _ hpos => absurd hpos (lt_irrefl 0)
  | succ remaining ih =>
    intro i hsum _ hsmaller power2_val
    have hi : i < 32 := by omega
    have hpower := toNat_one_shiftLeft hi
    by_cases hle : size ≤ (1 : UInt32) <<< UInt32.ofNat i
    · refine ⟨i, hi, ?_, ?_, hsmaller⟩
      · simpa only [roundup_loop, hle, if_true] using hpower
      · rwa [UInt32.le_iff_toNat_le, hpower] at hle
    · have hlt : 2 ^ i < size.toNat := by
        rw [UInt32.le_iff_toNat_le, hpower] at hle
        omega
      have hnot : i ≠ 31 := by
        rintro rfl
        omega
      have hnext : UInt32.ofNat i + 1 = UInt32.ofNat (i + 1) := by simp
      simp only [roundup_loop, hle, if_false, hnext]
      refine ih (i + 1) (by omega) (by omega) ?_ _
      intro j hj
      rcases Nat.lt_succ_iff_lt_or_eq.mp hj with hold | rfl
      · exact hsmaller j hold
      · exact hlt

/-- Whatever the size, the loop stops at a power of two, at the greatest one when none is large
enough. -/
theorem roundup_loop_power (size : UInt32) :
    ∀ remaining i : Nat, i + remaining = 32 → 0 < remaining → ∀ power2_val, ∃ m, m < 32 ∧
      (roundup_loop size remaining (UInt32.ofNat i) power2_val).toNat = 2 ^ m := by
  intro remaining
  induction remaining with
  | zero => exact fun i _ hpos => absurd hpos (lt_irrefl 0)
  | succ remaining ih =>
    intro i hsum _ power2_val
    have hi : i < 32 := by omega
    have hnext : UInt32.ofNat i + 1 = UInt32.ofNat (i + 1) := by simp
    by_cases hle : size ≤ (1 : UInt32) <<< UInt32.ofNat i
    · refine ⟨i, hi, ?_⟩
      simpa only [roundup_loop, hle, if_true] using toNat_one_shiftLeft hi
    · simp only [roundup_loop, hle, if_false, hnext]
      cases remaining with
      | zero => exact ⟨i, hi, toNat_one_shiftLeft hi⟩
      | succ remaining => exact ih (i + 1) (by omega) (Nat.succ_pos remaining) _

theorem real_queue_size_power (queue_size : UInt32) :
    ∃ m, m < 32 ∧ (real_queue_size queue_size).toNat = 2 ^ m := by
  by_cases hpower : is_power_of_2 queue_size = true
  · obtain ⟨m, hm⟩ := (is_power_of_2_iff queue_size).mp hpower
    have hbound : 2 ^ m < 2 ^ 32 := by
      rw [← hm]
      exact queue_size.toNat_lt
    refine ⟨m, (Nat.pow_lt_pow_iff_right (by decide)).mp hbound, ?_⟩
    simpa only [real_queue_size, hpower, if_true] using hm
  · have hloop := roundup_loop_power queue_size 32 0 rfl (by decide) 0
    simpa [real_queue_size, hpower, roundup_power_of_2] using hloop

/-- The allocated size is the smallest power of two that is at least the
requested size, whichever of the two branches of `InitQueue` computes it. -/
theorem real_queue_size_spec {queue_size : UInt32} (hpos : 1 ≤ queue_size.toNat)
    (hmax : queue_size.toNat ≤ 2 ^ 31) :
    ∃ m, m < 32 ∧ (real_queue_size queue_size).toNat = 2 ^ m ∧ queue_size.toNat ≤ 2 ^ m ∧
      ∀ j, j < m → 2 ^ j < queue_size.toNat := by
  by_cases hpower : is_power_of_2 queue_size = true
  · obtain ⟨m, hm⟩ := (is_power_of_2_iff queue_size).mp hpower
    have hlt : m < 32 := by
      have hbound : 2 ^ m < 2 ^ 32 := by
        rw [← hm]
        omega
      exact (Nat.pow_lt_pow_iff_right (by decide)).mp hbound
    refine ⟨m, hlt, ?_, hm.le, ?_⟩
    · simpa only [real_queue_size, hpower, if_true] using hm
    · intro j hj
      rw [hm]
      exact Nat.pow_lt_pow_right (by decide) hj
  · have hspec := roundup_loop_spec hmax 32 0 rfl (by decide) (by simp) 0
    simpa [real_queue_size, hpower, roundup_power_of_2] using hspec

theorem real_queue_size_isLeast {queue_size : UInt32} (hpos : 1 ≤ queue_size.toNat)
    (hmax : queue_size.toNat ≤ 2 ^ 31) :
    IsLeast { capacity | ∃ m, capacity = 2 ^ m ∧ queue_size.toNat ≤ capacity }
      (real_queue_size queue_size).toNat := by
  obtain ⟨m, _, hsize, hle, hsmaller⟩ := real_queue_size_spec hpos hmax
  refine ⟨⟨m, hsize, by rwa [hsize]⟩, ?_⟩
  rintro capacity ⟨j, rfl, hj⟩
  rw [hsize]
  by_contra hnot
  have hjm : j < m := (Nat.pow_lt_pow_iff_right (by decide : 1 < 2)).mp (by omega)
  have hlt := hsmaller j hjm
  omega

end livox_ros
