import Livox.Library.Counter

open execution counter

namespace livox_lidar

namespace generate_seq

/-- What `GetSeq` puts in the place of the value that it has read. -/
def desired (value : UInt32) : UInt32 := if value = 0xFFFF then 1 else value + 1

/-- The static `seq`, with the numbers that the calls of `GetSeq` return. A thread is in the loop of
one call at a time. -/
def get_seq : Generator UInt32 → Access → checked.Checked (Generator UInt32) := Generator.step desired

def start : Generator UInt32 := .start 1

/-- The numbers are of 16 bits, zero left out, in turn. -/
theorem toNat_desired (value : UInt32) (hvalue : value.toNat ≤ 65535) :
    (desired value).toNat = if value.toNat = 65535 then 1 else value.toNat + 1 := by
  have hlast : value = 0xFFFF ↔ value.toNat = 65535 := UInt32.toNat_inj.symm
  rw [desired]
  by_cases h : value = 0xFFFF
  · rw [if_pos h, if_pos (hlast.mp h)]
    rfl
  · rw [if_neg h, if_neg (mt hlast.mpr h), UInt32.toNat_add]
    show (value.toNat + 1) % 2 ^ 32 = value.toNat + 1
    omega

theorem toNat_iterate_desired (i : Nat) : (desired^[i] 1).toNat = i % 65535 + 1 :=
  @number_iterate _ desired 1 UInt32.toNat 65535 (by omega) rfl toNat_desired i

theorem desired_cycles : Cycles desired 1 65535 :=
  cycles_of_wraps (fun _ _ => UInt32.toNat_inj.mp) (by omega) rfl toNat_desired

/-- In every interleaving of the calls of any number of threads, each number that is returned is one
of 1 to 65535, and any 65535 in a row are distinct. -/
theorem seqs_distinct (accesses : List Access) :
    StatesSatisfy get_seq
      (fun s => (∀ seq ∈ s.results, 1 ≤ seq.toNat ∧ seq.toNat ≤ 65535) ∧
        ∀ window, window <:+: s.results → window.length ≤ 65535 → window.Nodup)
      start accesses := by
  refine (Generator.statesSatisfy_counts desired 1 accesses).mono fun s h => ⟨?_, ?_⟩
  · intro seq hmem
    rw [h.results] at hmem
    obtain ⟨i, -, rfl⟩ := List.mem_map.mp hmem
    have hless := Nat.mod_lt (i + 1) (show 65535 > 0 by omega)
    rw [toNat_iterate_desired]
    omega
  · intro window hwindow hlength
    rw [h.results] at hwindow
    exact desired_cycles.nodup_of_infix hwindow hlength

-- the second of two threads loses its exchange, reads again and gets the next number
example : (exec get_seq start [.load 0, .load 1, .exchange 0 false, .exchange 1 false,
    .exchange 1 false]).toOption.map Generator.results = some [2, 3] := by decide

end generate_seq

end livox_lidar
