import Livox.Library.Object

open memory

namespace inet

/-- The value of a digit, of up to sixteen. -/
def digit (c : UInt8) : Option Nat :=
  if 48 ≤ c ∧ c ≤ 57 then some (c.toNat - 48)
  else if 97 ≤ c ∧ c ≤ 102 then some (c.toNat - 87)
  else if 65 ≤ c ∧ c ≤ 70 then some (c.toNat - 55)
  else none

/-- The number that digits stand for, of which there is at least one. -/
def number (base : Nat) (digits : List UInt8) : Option Nat :=
  if digits = [] then none
  else digits.foldlM (fun n c => (digit c).bind fun d => if d < base then some (base * n + d) else none) 0

/-- A part of an address: hexadecimal behind `0x` or `0X`, octal behind another `0`, and decimal. -/
def part : List UInt8 → Option Nat
  | c :: x :: rest =>
    if c ≠ 48 then number 10 (c :: x :: rest)
    else if x = 120 ∨ x = 88 then number 16 rest
    else number 8 (x :: rest)
  | digits => number 10 digits

/-- The address of one to four parts, the last of which has the bytes that the others leave. -/
def address : List Nat → Option UInt32
  | [a] => if a < 2 ^ 32 then some (UInt32.ofNat a) else none
  | [a, b] => if a < 2 ^ 8 ∧ b < 2 ^ 24 then some (UInt32.ofNat (a * 2 ^ 24 + b)) else none
  | [a, b, c] =>
    if a < 2 ^ 8 ∧ b < 2 ^ 8 ∧ c < 2 ^ 16 then some (UInt32.ofNat (a * 2 ^ 24 + b * 2 ^ 16 + c))
    else none
  | [a, b, c, d] =>
    if a < 2 ^ 8 ∧ b < 2 ^ 8 ∧ c < 2 ^ 8 ∧ d < 2 ^ 8 then
      some (UInt32.ofNat (((a * 2 ^ 8 + b) * 2 ^ 8 + c) * 2 ^ 8 + d))
    else none
  | _ => none

/-- The address that a C string spells, in the order of the host. -/
def spelled (text : List UInt8) : Option UInt32 :=
  (((string text).splitOn 46).mapM part).bind address

/-- `htonl` of a host that stores the lowest byte first. -/
def htonl (x : UInt32) : UInt32 :=
  UInt32.ofNat (((x.toNat % 2 ^ 8 * 2 ^ 8 + x.toNat / 2 ^ 8 % 2 ^ 8) * 2 ^ 8 +
    x.toNat / 2 ^ 16 % 2 ^ 8) * 2 ^ 8 + x.toNat / 2 ^ 24)

/-- `INADDR_NONE`, which is `255.255.255.255` as well. -/
def none_or_broadcast : UInt32 := 0xFFFFFFFF

/-- `inet_addr` of POSIX, in the order of the network. -/
def inet_addr (cp : List UInt8) : UInt32 :=
  match spelled cp with
  | some addr => htonl addr
  | none => none_or_broadcast

-- 192.168.1.010 and 0xC0A80108 are both spellings of 192.168.1.8
example : spelled [49, 57, 50, 46, 49, 54, 56, 46, 49, 46, 48, 49, 48] = some 0xC0A80108 ∧
    spelled [48, 120, 67, 48, 65, 56, 48, 49, 48, 56] = some 0xC0A80108 := by decide

section Spellings

variable {a b : List UInt8} {x y : UInt32}

/-- The four bytes of a number, as `htonl` finds and puts them. -/
theorem htonl_bytes (x : UInt32) :
    ∃ p q r s, p < 2 ^ 8 ∧ q < 2 ^ 8 ∧ r < 2 ^ 8 ∧ s < 2 ^ 8 ∧
      x.toNat = p + q * 2 ^ 8 + r * 2 ^ 16 + s * 2 ^ 24 ∧
      (htonl x).toNat = ((p * 2 ^ 8 + q) * 2 ^ 8 + r) * 2 ^ 8 + s := by
  have hx := x.toNat_lt
  refine ⟨x.toNat % 2 ^ 8, x.toNat / 2 ^ 8 % 2 ^ 8, x.toNat / 2 ^ 16 % 2 ^ 8, x.toNat / 2 ^ 24,
    by omega, by omega, by omega, by omega, by omega, ?_⟩
  rw [htonl, UInt32.toNat_ofNat_of_lt']
  rw [UInt32.size]
  omega

theorem last_byte {n m b c : Nat} (hb : b < 2 ^ 8) (hc : c < 2 ^ 8)
    (h : n * 2 ^ 8 + b = m * 2 ^ 8 + c) : n = m ∧ b = c := by
  omega

theorem htonl_inj : htonl x = htonl y ↔ x = y := by
  constructor
  · intro h
    obtain ⟨p, q, r, s, hp, hq, hr, hs, hx, hswap⟩ := htonl_bytes x
    obtain ⟨p', q', r', s', hp', hq', hr', hs', hy, hswap'⟩ := htonl_bytes y
    rw [h, hswap'] at hswap
    obtain ⟨hpqr, rfl⟩ := last_byte hs' hs hswap
    obtain ⟨hpq, rfl⟩ := last_byte hr' hr hpqr
    obtain ⟨rfl, rfl⟩ := last_byte hq' hq hpq
    exact UInt32.toNat_inj.mp (hx.trans hy.symm)
  · rintro rfl
    rfl

theorem htonl_htonl (x : UInt32) : htonl (htonl x) = x := by
  obtain ⟨p, q, r, s, hp, hq, hr, hs, hx, hswap⟩ := htonl_bytes x
  obtain ⟨p', q', r', s', hp', hq', hr', hs', hy, hback⟩ := htonl_bytes (htonl x)
  have hsame : ((s' * 2 ^ 8 + r') * 2 ^ 8 + q') * 2 ^ 8 + p' = ((p * 2 ^ 8 + q) * 2 ^ 8 + r) * 2 ^ 8 + s := by
    rw [← hswap, hy]
    omega
  obtain ⟨hpqr, rfl⟩ := last_byte hp' hs hsame
  obtain ⟨hpq, rfl⟩ := last_byte hq' hr hpqr
  obtain ⟨rfl, rfl⟩ := last_byte hr' hq hpq
  exact UInt32.toNat_inj.mp (by omega)

/-- The text is no address, or the one that looks like none. -/
def NoneOrBroadcast (text : List UInt8) : Prop :=
  spelled text = none ∨ spelled text = some none_or_broadcast

/-- Two texts spell the same address, or `inet_addr` answers both with -1. -/
def Same (a b : List UInt8) : Prop :=
  (∃ addr, spelled a = some addr ∧ spelled b = some addr) ∨ NoneOrBroadcast a ∧ NoneOrBroadcast b

/-- Four bytes are found again in their address. -/
theorem address_four_inj {a b c d a' b' c' d' : UInt8}
    (h : UInt32.ofNat (((a.toNat * 2 ^ 8 + b.toNat) * 2 ^ 8 + c.toNat) * 2 ^ 8 + d.toNat) =
      UInt32.ofNat (((a'.toNat * 2 ^ 8 + b'.toNat) * 2 ^ 8 + c'.toNat) * 2 ^ 8 + d'.toNat)) :
    a = a' ∧ b = b' ∧ c = c' ∧ d = d' := by
  have hfits : ∀ x y z w : UInt8,
      ((x.toNat * 2 ^ 8 + y.toNat) * 2 ^ 8 + z.toNat) * 2 ^ 8 + w.toNat < UInt32.size := by
    intro x y z w
    have hx := x.toNat_lt
    have hy := y.toNat_lt
    have hz := z.toNat_lt
    have hw := w.toNat_lt
    rw [UInt32.size]
    omega
  have hsum := congrArg UInt32.toNat h
  rw [UInt32.toNat_ofNat_of_lt' (hfits a b c d), UInt32.toNat_ofNat_of_lt' (hfits a' b' c' d')] at hsum
  obtain ⟨habc, hd⟩ := last_byte d.toNat_lt d'.toNat_lt hsum
  obtain ⟨hab, hc⟩ := last_byte c.toNat_lt c'.toNat_lt habc
  obtain ⟨ha, hb⟩ := last_byte b.toNat_lt b'.toNat_lt hab
  exact ⟨UInt8.toNat_inj.mp ha, UInt8.toNat_inj.mp hb, UInt8.toNat_inj.mp hc, UInt8.toNat_inj.mp hd⟩

theorem inet_addr_spelled {addr : UInt32} (h : spelled a = some addr) : inet_addr a = htonl addr := by
  rw [inet_addr, h]

theorem inet_addr_none_iff : inet_addr a = none_or_broadcast ↔ NoneOrBroadcast a := by
  have hones : htonl none_or_broadcast = none_or_broadcast := by decide
  rw [NoneOrBroadcast, inet_addr]
  cases spelled a with
  | none => simp
  | some addr =>
    simp only [reduceCtorEq, false_or, Option.some.injEq]
    conv_lhs => rw [← hones]
    exact htonl_inj

theorem inet_addr_eq_iff : inet_addr a = inet_addr b ↔ Same a b := by
  constructor
  · intro h
    by_cases hnone : inet_addr a = none_or_broadcast
    · exact Or.inr ⟨inet_addr_none_iff.mp hnone, inet_addr_none_iff.mp (h ▸ hnone)⟩
    · have hboth : ¬ NoneOrBroadcast a ∧ ¬ NoneOrBroadcast b :=
        ⟨fun ha => hnone (inet_addr_none_iff.mpr ha),
          fun hb => hnone (h.trans (inet_addr_none_iff.mpr hb))⟩
      obtain ⟨addr, haddr⟩ := Option.ne_none_iff_exists'.mp fun ha => hboth.1 (Or.inl ha)
      obtain ⟨other, hother⟩ := Option.ne_none_iff_exists'.mp fun hb => hboth.2 (Or.inl hb)
      rw [inet_addr_spelled haddr, inet_addr_spelled hother, htonl_inj] at h
      exact Or.inl ⟨addr, haddr, h ▸ hother⟩
  · rintro (⟨addr, haddr, hother⟩ | ⟨ha, hb⟩)
    · rw [inet_addr_spelled haddr, inet_addr_spelled hother]
    · rw [inet_addr_none_iff.mpr ha, inet_addr_none_iff.mpr hb]

end Spellings

end inet
