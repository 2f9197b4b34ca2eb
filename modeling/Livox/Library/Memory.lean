import Mathlib

namespace memory

section Cells

variable {α : Type}

/-- The cells `start`, `start + 1`, … of a memory. -/
def load (m : Nat → α) (start len : Nat) : List α :=
  (List.range' start len).map m

/-- The memory with `values` copied to the cells from `start` on. -/
def store (m : Nat → α) (start : Nat) (values : List α) : Nat → α := fun i =>
  if start ≤ i then (values[i - start]?).getD (m i) else m i

@[simp] theorem length_load (m : Nat → α) (start len : Nat) : (load m start len).length = len := by
  simp [load]

theorem load_succ (m : Nat → α) (start len : Nat) :
    load m start (len + 1) = m start :: load m (start + 1) len := by
  simp [load, List.range'_succ]

theorem load_append (m : Nat → α) (start a b : Nat) :
    load m start (a + b) = load m start a ++ load m (start + a) b := by
  rw [load, load, load, ← List.map_append, List.range'_append_1]

theorem load_getElem? (m : Nat → α) {start len i : Nat} (hi : i < len) :
    (load m start len)[i]? = some (m (start + i)) := by
  simp [load, hi]

theorem load_congr {m n : Nat → α} {start len : Nat}
    (h : ∀ i, start ≤ i → i < start + len → m i = n i) : load m start len = load n start len := by
  apply List.map_congr_left
  intro i hi
  rw [List.mem_range'_1] at hi
  exact h i hi.1 hi.2

/-- Loading a part of what has been loaded. -/
theorem load_take_drop (m : Nat → α) {start len skip count : Nat} (h : skip + count ≤ len) :
    ((load m start len).drop skip).take count = load m (start + skip) count := by
  obtain ⟨rest, rfl⟩ : ∃ rest, len = skip + (count + rest) := ⟨len - skip - count, by omega⟩
  rw [load_append, List.drop_left' (length_load ..), load_append, List.take_left' (length_load ..)]

/-- What stands between two other runs of bytes is loaded from its place. -/
theorem load_middle {m : Nat → α} {start len : Nat} (front middle back : List α)
    (h : load m start len = front ++ (middle ++ back)) :
    load m (start + front.length) middle.length = middle := by
  have hlen : len = front.length + (middle.length + back.length) := by
    rw [← length_load m start len, h, List.length_append, List.length_append]
  rw [← load_take_drop m (show front.length + middle.length ≤ len by omega), h,
    List.drop_left, List.take_left]

theorem store_of_lt (m : Nat → α) {start i : Nat} (values : List α) (h : i < start) :
    store m start values i = m i := by
  rw [store, if_neg (by omega)]

theorem store_of_ge (m : Nat → α) {start i : Nat} {values : List α}
    (h : start + values.length ≤ i) : store m start values i = m i := by
  have hnone : values[i - start]? = none := List.getElem?_eq_none (by omega)
  simp [store, hnone]

theorem store_getElem? (m : Nat → α) {start k : Nat} {values : List α} {value : α}
    (h : values[k]? = some value) : store m start values (start + k) = value := by
  simp [store, h]

/-- What has been stored is what is loaded from there. -/
theorem load_store_self (m : Nat → α) (start : Nat) (values : List α) :
    load (store m start values) start values.length = values := by
  apply List.ext_getElem?
  intro i
  by_cases hi : i < values.length
  · rw [load_getElem? _ hi, store_getElem? m (List.getElem?_eq_getElem hi),
      List.getElem?_eq_getElem hi]
  · rw [List.getElem?_eq_none (by simp; omega), List.getElem?_eq_none (by omega)]

theorem load_store_of_length (m : Nat → α) {start len : Nat} {values : List α}
    (hlen : values.length = len) : load (store m start values) start len = values := by
  subst hlen
  exact load_store_self m start values

/-- A store leaves alone what lies beside it. -/
theorem load_store_disjoint (m : Nat → α) {start len place : Nat} {values : List α}
    (h : start + len ≤ place ∨ place + values.length ≤ start) :
    load (store m place values) start len = load m start len := by
  apply load_congr
  intro i hlo hhi
  rcases h with h | h
  · exact store_of_lt m values (by omega)
  · exact store_of_ge m (by omega)

/-- A store changes nothing exactly when its values stood there already. -/
theorem store_eq_self_iff {m : Nat → α} {start : Nat} {values : List α} :
    store m start values = m ↔ load m start values.length = values := by
  constructor
  · intro h
    conv_lhs => rw [← h]
    exact load_store_self m start values
  · intro h
    funext i
    by_cases hlo : i < start
    · exact store_of_lt m values hlo
    · by_cases hhi : start + values.length ≤ i
      · exact store_of_ge m hhi
      · obtain ⟨k, rfl⟩ : ∃ k, i = start + k := ⟨i - start, by omega⟩
        have hk : values[k]? = some (m (start + k)) := by
          rw [← h]
          exact load_getElem? m (by omega)
        exact store_getElem? m hk

/-- Two stores one behind the other are one store. -/
theorem store_behind (m : Nat → α) {start next : Nat} {front back : List α}
    (hnext : next = start + front.length) :
    store (store m start front) next back = store m start (front ++ back) := by
  subst hnext
  funext i
  by_cases hlo : i < start
  · rw [store_of_lt _ _ (by omega), store_of_lt _ _ hlo, store_of_lt _ _ hlo]
  · obtain ⟨k, rfl⟩ : ∃ k, i = start + k := ⟨i - start, by omega⟩
    by_cases hfront : k < front.length
    · rw [store_of_lt _ _ (by omega), store_getElem? m (List.getElem?_eq_getElem hfront)]
      symm
      apply store_getElem?
      rw [List.getElem?_append_left hfront, List.getElem?_eq_getElem hfront]
    · obtain ⟨j, rfl⟩ : ∃ j, k = front.length + j := ⟨k - front.length, by omega⟩
      by_cases hback : j < back.length
      · rw [← Nat.add_assoc, store_getElem? _ (List.getElem?_eq_getElem hback), Nat.add_assoc]
        symm
        apply store_getElem?
        rw [List.getElem?_append_right (by omega), Nat.add_sub_cancel_left,
          List.getElem?_eq_getElem hback]
      · rw [store_of_ge _ (by omega), store_of_ge _ (by omega),
          store_of_ge _ (by simp; omega)]

/-- A store over one of the same length is all that is left of the two. -/
theorem store_over (m : Nat → α) (start : Nat) {values others : List α}
    (hlen : values.length = others.length) :
    store (store m start values) start others = store m start others := by
  funext i
  by_cases hlo : i < start
  · rw [store_of_lt _ _ hlo, store_of_lt _ _ hlo, store_of_lt _ _ hlo]
  · obtain ⟨k, rfl⟩ : ∃ k, i = start + k := ⟨i - start, by omega⟩
    by_cases hk : k < others.length
    · rw [store_getElem? _ (List.getElem?_eq_getElem hk),
        store_getElem? _ (List.getElem?_eq_getElem hk)]
    · rw [store_of_ge _ (by omega), store_of_ge _ (by omega), store_of_ge _ (by omega)]

end Cells

section LittleEndian

/-- The `width` lowest bytes of a number, lowest first. -/
def bytes : Nat → Nat → List UInt8
  | 0, _ => []
  | width + 1, n => UInt8.ofNat n :: bytes width (n / 256)

/-- The number that bytes stand for, lowest first. -/
def value (bs : List UInt8) : Nat := Nat.ofDigits 256 (bs.map UInt8.toNat)

@[simp] theorem length_bytes (width n : Nat) : (bytes width n).length = width := by
  induction width generalizing n with
  | zero => rfl
  | succ width ih => simp [bytes, ih]

@[simp] theorem value_nil : value [] = 0 := rfl

theorem value_cons (b : UInt8) (bs : List UInt8) : value (b :: bs) = b.toNat + 256 * value bs := by
  simp [value, Nat.ofDigits_cons]

theorem value_lt (bs : List UInt8) : value bs < 256 ^ bs.length := by
  induction bs with
  | nil => simp
  | cons b bs ih =>
    have hb := b.toNat_lt
    rw [value_cons, List.length_cons, Nat.pow_succ]
    omega

theorem value_bytes (width n : Nat) : value (bytes width n) = n % 256 ^ width := by
  induction width generalizing n with
  | zero => simp [bytes, Nat.mod_one]
  | succ width ih =>
    rw [bytes, value_cons, ih, Nat.pow_succ', Nat.mod_mul]
    simp

end LittleEndian

/-- A pointer into memory: the block and the place in it. -/
structure Pointer where
  block : Nat → UInt8
  offset : Nat

namespace Pointer

/-- The first `len` bytes the pointer points to. -/
def load (p : Pointer) (len : Nat) : List UInt8 := memory.load p.block p.offset len

def add (p : Pointer) (n : Nat) : Pointer := { p with offset := p.offset + n }

def u8 (p : Pointer) (n : Nat) : UInt8 := p.block (p.offset + n)

def u16 (p : Pointer) (n : Nat) : UInt16 := UInt16.ofNat (value ((p.add n).load 2))

def u32 (p : Pointer) (n : Nat) : UInt32 := UInt32.ofNat (value ((p.add n).load 4))

@[simp] theorem add_offset (p : Pointer) (n : Nat) : (p.add n).offset = p.offset + n := rfl

@[simp] theorem length_load (p : Pointer) (len : Nat) : (p.load len).length = len := by
  simp [load]

theorem u16_of_load {p : Pointer} {n : Nat} {x : UInt16} (h : (p.add n).load 2 = bytes 2 x.toNat) :
    p.u16 n = x := by
  have hx := x.toNat_lt
  apply UInt16.toNat_inj.mp
  rw [u16, h, value_bytes, UInt16.toNat_ofNat']
  omega

theorem u32_of_load {p : Pointer} {n : Nat} {x : UInt32} (h : (p.add n).load 4 = bytes 4 x.toNat) :
    p.u32 n = x := by
  have hx := x.toNat_lt
  apply UInt32.toNat_inj.mp
  rw [u32, h, value_bytes, UInt32.toNat_ofNat']
  omega

end Pointer

end memory
