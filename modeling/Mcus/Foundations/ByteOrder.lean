import Mathlib.Data.List.Induction
import Mathlib.Tactic.NormNum
import Mathlib.Tactic.Ring

/-! # Machine words and their bytes

Fixed-width words, the shifts and disjunctions that C programs assemble them with, and the
big-endian byte strings that carry them. A caller meets words through `toNat`, as sums and products
below `2 ^ 32`, or in equations between assembled words, and never as bit vectors.

* `beValue`: the number a byte string denotes, most significant byte first.
* `shiftIn`: the loop body `acc = (acc << 8) | b`; `foldl_shiftIn_toNat` is what the loop computes.
* `word16`, `word32`: a word assembled from its bytes; `beBytes16`, `beBytes32`: the way back.
* `swap16`, `swap32`: the byte reversal behind `htons` and `htonl` on a little-endian host.
-/

namespace Mcus.ByteOrder
set_option autoImplicit false

/-! ## Disjoint disjunctions are sums -/

theorem mul_pow_or {k y : ℕ} (x : ℕ) (hy : y < 2 ^ k) : x * 2 ^ k ||| y = x * 2 ^ k + y := by
  rw [← Nat.shiftLeft_eq, Nat.shiftLeft_add_eq_or_of_lt hy]

theorem byte_shiftLeft_toNat (b : UInt8) (s : UInt32) (hs : s.toNat ≤ 24) :
    (b.toUInt32 <<< s).toNat = b.toNat * 2 ^ s.toNat := by
  have hb : b.toNat < 2 ^ 8 := b.toNat_lt
  have hpow : 2 ^ s.toNat ≤ 2 ^ 24 := Nat.pow_le_pow_right (by norm_num) hs
  have hlt : b.toNat * 2 ^ s.toNat < 2 ^ 32 := by
    calc b.toNat * 2 ^ s.toNat < 2 ^ 8 * 2 ^ s.toNat :=
          Nat.mul_lt_mul_of_pos_right hb (Nat.two_pow_pos _)
      _ ≤ 2 ^ 8 * 2 ^ 24 := Nat.mul_le_mul_left _ hpow
  rw [UInt32.toNat_shiftLeft, UInt8.toNat_toUInt32, Nat.mod_eq_of_lt (by omega : s.toNat < 32),
    Nat.shiftLeft_eq, Nat.mod_eq_of_lt hlt]

/-! ## Byte strings as numbers -/

/-- The number a byte string denotes, most significant byte first. -/
def beValue (bytes : List UInt8) : ℕ := bytes.foldl (fun acc b => acc * 256 + b.toNat) 0

/-- One round of the loop `acc = (acc << 8) | b` on a 32-bit accumulator. -/
def shiftIn (acc : UInt32) (b : UInt8) : UInt32 := acc <<< 8 ||| b.toUInt32

theorem shiftIn_toNat (acc : UInt32) (b : UInt8) :
    (shiftIn acc b).toNat = (acc.toNat * 256 + b.toNat) % 2 ^ 32 := by
  have hb : b.toNat < 2 ^ 8 := b.toNat_lt
  have hshift : acc.toNat <<< 8 % 2 ^ 32 = acc.toNat % 2 ^ 24 * 2 ^ 8 := by
    rw [Nat.shiftLeft_eq]
    omega
  have h8 : (8 : UInt32).toNat % 32 = 8 := rfl
  rw [shiftIn, UInt32.toNat_or, UInt32.toNat_shiftLeft, UInt8.toNat_toUInt32, h8, hshift,
    mul_pow_or _ hb]
  omega

theorem foldl_shiftIn_toNat (bytes : List UInt8) :
    (bytes.foldl shiftIn 0).toNat = beValue bytes % 2 ^ 32 := by
  unfold beValue
  induction bytes using List.reverseRecOn with
  | nil => rfl
  | append_singleton bytes b ih =>
    simp only [List.foldl_append, List.foldl_cons, List.foldl_nil, shiftIn_toNat, ih]
    omega

/-! ## Words from bytes -/

/-- `(hi << 8) | lo` in 16 bits. -/
def word16 (hi lo : UInt8) : UInt16 := hi.toUInt16 <<< 8 ||| lo.toUInt16

/-- `(b3 << 24) | (b2 << 16) | (b1 << 8) | b0` in 32 bits. -/
def word32 (b3 b2 b1 b0 : UInt8) : UInt32 :=
  b3.toUInt32 <<< 24 ||| b2.toUInt32 <<< 16 ||| b1.toUInt32 <<< 8 ||| b0.toUInt32

theorem word16_toNat (hi lo : UInt8) : (word16 hi lo).toNat = hi.toNat * 2 ^ 8 + lo.toNat := by
  have hhi : hi.toNat < 2 ^ 8 := hi.toNat_lt
  have hlo : lo.toNat < 2 ^ 8 := lo.toNat_lt
  have h8 : (8 : UInt16).toNat % 16 = 8 := rfl
  rw [word16, UInt16.toNat_or, UInt16.toNat_shiftLeft, UInt8.toNat_toUInt16, UInt8.toNat_toUInt16,
    h8, Nat.shiftLeft_eq, Nat.mod_eq_of_lt (by omega), mul_pow_or _ hlo]

theorem word32_toNat (b3 b2 b1 b0 : UInt8) : (word32 b3 b2 b1 b0).toNat =
    ((b3.toNat * 2 ^ 8 + b2.toNat) * 2 ^ 8 + b1.toNat) * 2 ^ 8 + b0.toNat := by
  have h2 : b2.toNat < 2 ^ 8 := b2.toNat_lt
  have h1 : b1.toNat < 2 ^ 8 := b1.toNat_lt
  have h0 : b0.toNat < 2 ^ 8 := b0.toNat_lt
  have e24 : (24 : UInt32).toNat = 24 := rfl
  have e16 : (16 : UInt32).toNat = 16 := rfl
  have e8 : (8 : UInt32).toNat = 8 := rfl
  rw [word32, UInt32.toNat_or, UInt32.toNat_or, UInt32.toNat_or,
    byte_shiftLeft_toNat b3 24 (by decide), byte_shiftLeft_toNat b2 16 (by decide),
    byte_shiftLeft_toNat b1 8 (by decide), UInt8.toNat_toUInt32, e24, e16, e8,
    mul_pow_or b3.toNat (by omega : b2.toNat * 2 ^ 16 < 2 ^ 24),
    show b3.toNat * 2 ^ 24 + b2.toNat * 2 ^ 16 = (b3.toNat * 2 ^ 8 + b2.toNat) * 2 ^ 16 by ring,
    mul_pow_or _ (by omega : b1.toNat * 2 ^ 8 < 2 ^ 16),
    show (b3.toNat * 2 ^ 8 + b2.toNat) * 2 ^ 16 + b1.toNat * 2 ^ 8 =
      ((b3.toNat * 2 ^ 8 + b2.toNat) * 2 ^ 8 + b1.toNat) * 2 ^ 8 by ring,
    mul_pow_or _ h0]

/-! ## Bytes of words -/

def beBytes16 (x : UInt16) : List UInt8 := [(x >>> 8).toUInt8, x.toUInt8]

/-- The four bytes of a 32-bit word, most significant first. -/
def beBytes32 (x : UInt32) : List UInt8 :=
  [(x >>> 24).toUInt8, (x >>> 16).toUInt8, (x >>> 8).toUInt8, x.toUInt8]

@[simp] theorem beBytes32_length (x : UInt32) : (beBytes32 x).length = 4 := rfl

/-- The bytes of a word as a little-endian memory holds them. -/
def leBytes16 (x : UInt16) : List UInt8 := (beBytes16 x).reverse

def leBytes32 (x : UInt32) : List UInt8 := (beBytes32 x).reverse

theorem byte16_toNat (x : UInt16) :
    (x >>> 8).toUInt8.toNat = x.toNat / 2 ^ 8 ∧ x.toUInt8.toNat = x.toNat % 2 ^ 8 := by
  have hx := x.toNat_lt
  have h8 : (8 : UInt16).toNat % 16 = 8 := rfl
  refine ⟨?_, UInt16.toNat_toUInt8 x⟩
  rw [UInt16.toNat_toUInt8, UInt16.toNat_shiftRight, h8, Nat.shiftRight_eq_div_pow]
  omega

theorem byte32_toNat (x : UInt32) :
    (x >>> 24).toUInt8.toNat = x.toNat / 2 ^ 24 ∧ (x >>> 16).toUInt8.toNat = x.toNat / 2 ^ 16 % 2 ^ 8 ∧
      (x >>> 8).toUInt8.toNat = x.toNat / 2 ^ 8 % 2 ^ 8 ∧ x.toUInt8.toNat = x.toNat % 2 ^ 8 := by
  have hx := x.toNat_lt
  have e24 : (24 : UInt32).toNat % 32 = 24 := rfl
  have e16 : (16 : UInt32).toNat % 32 = 16 := rfl
  have e8 : (8 : UInt32).toNat % 32 = 8 := rfl
  refine ⟨?_, ?_, ?_, UInt32.toNat_toUInt8 x⟩
  · rw [UInt32.toNat_toUInt8, UInt32.toNat_shiftRight, e24, Nat.shiftRight_eq_div_pow]
    omega
  · rw [UInt32.toNat_toUInt8, UInt32.toNat_shiftRight, e16, Nat.shiftRight_eq_div_pow]
  · rw [UInt32.toNat_toUInt8, UInt32.toNat_shiftRight, e8, Nat.shiftRight_eq_div_pow]

theorem word16_bytes (x : UInt16) : word16 (x >>> 8).toUInt8 x.toUInt8 = x := by
  obtain ⟨h1, h0⟩ := byte16_toNat x
  apply UInt16.toNat_inj.mp
  rw [word16_toNat, h1, h0]
  omega

theorem word32_bytes (x : UInt32) :
    word32 (x >>> 24).toUInt8 (x >>> 16).toUInt8 (x >>> 8).toUInt8 x.toUInt8 = x := by
  obtain ⟨h3, h2, h1, h0⟩ := byte32_toNat x
  apply UInt32.toNat_inj.mp
  rw [word32_toNat, h3, h2, h1, h0]
  omega

theorem beBytes16_word16 (hi lo : UInt8) : beBytes16 (word16 hi lo) = [hi, lo] := by
  have hlo := lo.toNat_lt
  obtain ⟨h1, h0⟩ := byte16_toNat (word16 hi lo)
  rw [word16_toNat] at h1 h0
  have e1 : (word16 hi lo >>> 8).toUInt8 = hi := UInt8.toNat_inj.mp (by omega)
  have e0 : (word16 hi lo).toUInt8 = lo := UInt8.toNat_inj.mp (by omega)
  rw [beBytes16, e1, e0]

theorem beBytes32_word32 (b3 b2 b1 b0 : UInt8) : beBytes32 (word32 b3 b2 b1 b0) = [b3, b2, b1, b0] := by
  have hb2 := b2.toNat_lt
  have hb1 := b1.toNat_lt
  have hb0 := b0.toNat_lt
  obtain ⟨h3, h2, h1, h0⟩ := byte32_toNat (word32 b3 b2 b1 b0)
  rw [word32_toNat] at h3 h2 h1 h0
  have e3 : (word32 b3 b2 b1 b0 >>> 24).toUInt8 = b3 := UInt8.toNat_inj.mp (by omega)
  have e2 : (word32 b3 b2 b1 b0 >>> 16).toUInt8 = b2 := UInt8.toNat_inj.mp (by omega)
  have e1 : (word32 b3 b2 b1 b0 >>> 8).toUInt8 = b1 := UInt8.toNat_inj.mp (by omega)
  have e0 : (word32 b3 b2 b1 b0).toUInt8 = b0 := UInt8.toNat_inj.mp (by omega)
  rw [beBytes32, e3, e2, e1, e0]

theorem beValue_beBytes32 (x : UInt32) : beValue (beBytes32 x) = x.toNat := by
  have hx := x.toNat_lt
  obtain ⟨h3, h2, h1, h0⟩ := byte32_toNat x
  simp only [beValue, beBytes32, List.foldl_cons, List.foldl_nil, h3, h2, h1, h0]
  omega

theorem foldl_shiftIn_beBytes32 (x : UInt32) : (beBytes32 x).foldl shiftIn 0 = x := by
  apply UInt32.toNat_inj.mp
  rw [foldl_shiftIn_toNat, beValue_beBytes32, Nat.mod_eq_of_lt x.toNat_lt]

/-! ## Reversing the bytes of a word -/

/-- `(x >> 8) | (x << 8)`. -/
def swap16 (x : UInt16) : UInt16 := x >>> 8 ||| x <<< 8

/-- `(x >> 24) | ((x & 0x00FF0000) >> 8) | ((x & 0x0000FF00) << 8) | (x << 24)`. -/
def swap32 (x : UInt32) : UInt32 :=
  x >>> 24 ||| (x &&& 0x00FF0000) >>> 8 ||| (x &&& 0x0000FF00) <<< 8 ||| x <<< 24

theorem and_byteMask (x k : ℕ) : x &&& 255 * 2 ^ k = x / 2 ^ k % 2 ^ 8 * 2 ^ k := by
  apply Nat.eq_of_testBit_eq
  intro i
  rw [Nat.testBit_and, Nat.testBit_mul_two_pow, Nat.testBit_mul_two_pow, Nat.testBit_mod_two_pow,
    Nat.testBit_div_two_pow, show 255 = 2 ^ 8 - 1 by norm_num, Nat.testBit_two_pow_sub_one]
  by_cases hk : k ≤ i
  · rw [show i - k + k = i by omega]
    simp [hk, Bool.and_comm]
  · simp [hk]

theorem swap16_word16 (hi lo : UInt8) : swap16 (word16 hi lo) = word16 lo hi := by
  have hhi : hi.toNat < 2 ^ 8 := hi.toNat_lt
  have hlo : lo.toNat < 2 ^ 8 := lo.toNat_lt
  have h8 : (8 : UInt16).toNat % 16 = 8 := rfl
  apply UInt16.toNat_inj.mp
  rw [swap16, UInt16.toNat_or, UInt16.toNat_shiftRight, UInt16.toNat_shiftLeft, h8,
    Nat.shiftLeft_eq, Nat.shiftRight_eq_div_pow, word16_toNat, word16_toNat, Nat.or_comm,
    show (hi.toNat * 2 ^ 8 + lo.toNat) * 2 ^ 8 % 2 ^ 16 = lo.toNat * 2 ^ 8 by omega,
    show (hi.toNat * 2 ^ 8 + lo.toNat) / 2 ^ 8 = hi.toNat by omega, mul_pow_or _ hhi]

theorem swap32_word32 (b3 b2 b1 b0 : UInt8) :
    swap32 (word32 b3 b2 b1 b0) = word32 b0 b1 b2 b3 := by
  have h3 : b3.toNat < 2 ^ 8 := b3.toNat_lt
  have h2 : b2.toNat < 2 ^ 8 := b2.toNat_lt
  have h1 : b1.toNat < 2 ^ 8 := b1.toNat_lt
  have h0 : b0.toNat < 2 ^ 8 := b0.toNat_lt
  have e24 : (24 : UInt32).toNat % 32 = 24 := rfl
  have e8 : (8 : UInt32).toNat % 32 = 8 := rfl
  have mask2 : (0x00FF0000 : UInt32).toNat = 255 * 2 ^ 16 := rfl
  have mask1 : (0x0000FF00 : UInt32).toNat = 255 * 2 ^ 8 := rfl
  have hx := word32_toNat b3 b2 b1 b0
  generalize word32 b3 b2 b1 b0 = x at hx
  apply UInt32.toNat_inj.mp
  rw [swap32, UInt32.toNat_or, UInt32.toNat_or, UInt32.toNat_or, UInt32.toNat_shiftRight,
    UInt32.toNat_shiftRight, UInt32.toNat_shiftLeft, UInt32.toNat_shiftLeft, UInt32.toNat_and,
    UInt32.toNat_and, mask2, mask1, and_byteMask, and_byteMask, e24, e8, word32_toNat]
  simp only [Nat.shiftLeft_eq, Nat.shiftRight_eq_div_pow]
  have t3 : x.toNat / 2 ^ 24 = b3.toNat := by omega
  have t2 : x.toNat / 2 ^ 16 % 2 ^ 8 * 2 ^ 16 / 2 ^ 8 = b2.toNat * 2 ^ 8 := by omega
  have t1 : x.toNat / 2 ^ 8 % 2 ^ 8 * 2 ^ 8 * 2 ^ 8 % 2 ^ 32 = b1.toNat * 2 ^ 16 := by omega
  have t0 : x.toNat * 2 ^ 24 % 2 ^ 32 = b0.toNat * 2 ^ 24 := by
    rw [show 2 ^ 32 = 2 ^ 8 * 2 ^ 24 by norm_num, Nat.mul_mod_mul_right]
    omega
  rw [t3, t2, t1, t0]
  have s2 : b3.toNat ||| b2.toNat * 2 ^ 8 = b2.toNat * 2 ^ 8 + b3.toNat := by
    rw [Nat.or_comm, mul_pow_or _ h3]
  have s1 : b2.toNat * 2 ^ 8 + b3.toNat ||| b1.toNat * 2 ^ 16 =
      b1.toNat * 2 ^ 16 + (b2.toNat * 2 ^ 8 + b3.toNat) := by
    rw [Nat.or_comm, mul_pow_or _ (by omega)]
  rw [s2, s1, Nat.or_comm, mul_pow_or _ (by omega)]
  ring

/-! ## Reversed words in a little-endian memory -/

theorem leBytes16_swap16 (x : UInt16) : leBytes16 (swap16 x) = beBytes16 x := by
  rw [← word16_bytes x, swap16_word16, leBytes16, beBytes16_word16, beBytes16_word16]
  rfl

theorem leBytes32_swap32 (x : UInt32) : leBytes32 (swap32 x) = beBytes32 x := by
  rw [← word32_bytes x, swap32_word32, leBytes32, beBytes32_word32, beBytes32_word32]
  rfl

end Mcus.ByteOrder
