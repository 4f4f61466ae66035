import Mathlib.Data.Nat.Digits.Defs
import Mathlib.Tactic.NormNum

/-! # Numbers in base 128

Seven bits a byte, lowest first, and the high bit of every byte but the last is set. A reader takes at
most as many bytes as it is allowed to, and leaves what comes behind the number.
-/

namespace Mcus.Base128
set_option autoImplicit false

def encode (n : ℕ) : List UInt8 :=
  if n < 128 then [UInt8.ofNat n] else UInt8.ofNat (n % 128 + 128) :: encode (n / 128)
termination_by n
decreasing_by omega

/-- A number of at most `k` bytes, and the bytes behind it. -/
def decode : ℕ → List UInt8 → Option (ℕ × List UInt8)
  | 0, _ => none
  | _ + 1, [] => none
  | k + 1, b :: rest =>
    if b.toNat < 128 then some (b.toNat, rest)
    else (decode k rest).map fun r => (b.toNat - 128 + 128 * r.1, r.2)

theorem encode_of_lt {n : ℕ} (hn : n < 128) : encode n = [UInt8.ofNat n] := by
  rw [encode, if_pos hn]

theorem encode_of_le {n : ℕ} (hn : 128 ≤ n) : encode n = UInt8.ofNat (n % 128 + 128) :: encode (n / 128) := by
  rw [encode, if_neg (Nat.not_lt.mpr hn)]

theorem byte_toNat {n : ℕ} (hn : n < 256) : (UInt8.ofNat n).toNat = n := by
  rw [UInt8.toNat_ofNat']
  exact Nat.mod_eq_of_lt hn

theorem div_lt_pow {n k : ℕ} (hn : n < 128 ^ (k + 1)) : n / 128 < 128 ^ k :=
  (Nat.div_lt_iff_lt_mul (by omega)).mpr (by rwa [← Nat.pow_succ])

/-- A number that fits is read back, whatever follows. -/
theorem decode_encode {n k : ℕ} (hn : n < 128 ^ (k + 1)) (rest : List UInt8) :
    decode (k + 1) (encode n ++ rest) = some (n, rest) := by
  induction k generalizing n with
  | zero =>
    have hlt : n < 128 := by simpa using hn
    rw [encode_of_lt hlt, List.singleton_append, decode, byte_toNat (by omega), if_pos hlt]
  | succ k ih =>
    rcases Nat.lt_or_ge n 128 with hlt | hge
    · rw [encode_of_lt hlt, List.singleton_append, decode, byte_toNat (by omega), if_pos hlt]
    · have hbyte : (UInt8.ofNat (n % 128 + 128)).toNat = n % 128 + 128 := byte_toNat (by omega)
      rw [encode_of_le hge, List.cons_append, decode, hbyte, if_neg (by omega), ih (div_lt_pow hn),
        Option.map_some]
      have hvalue : n % 128 + 128 - 128 + 128 * (n / 128) = n := by omega
      rw [hvalue]

/-- A number takes at least one byte. -/
theorem decode_rest_lt {k n : ℕ} {bytes rest : List UInt8} (h : decode k bytes = some (n, rest)) :
    rest.length < bytes.length := by
  induction k generalizing bytes n with
  | zero => cases h
  | succ k ih =>
    cases bytes with
    | nil => cases h
    | cons b bytes =>
      rw [decode] at h
      split at h
      case isTrue =>
        obtain ⟨-, rfl⟩ := Prod.mk.inj (Option.some.inj h)
        exact Nat.lt_succ_self _
      case isFalse =>
        obtain ⟨r, hr, hrest⟩ := Option.map_eq_some_iff.mp h
        obtain ⟨-, rfl⟩ := Prod.mk.inj hrest
        exact Nat.lt_succ_of_lt (ih hr)

theorem encode_ne_nil (n : ℕ) : encode n ≠ [] := by
  rw [encode]
  split <;> exact List.cons_ne_nil _ _

theorem encode_length_le {n k : ℕ} (hn : n < 128 ^ (k + 1)) : (encode n).length ≤ k + 1 := by
  induction k generalizing n with
  | zero =>
    rw [encode_of_lt (by simpa using hn)]
    exact Nat.le_refl 1
  | succ k ih =>
    rcases Nat.lt_or_ge n 128 with hlt | hge
    · rw [encode_of_lt hlt]
      exact Nat.le_add_left _ _
    · rw [encode_of_le hge, List.length_cons]
      exact Nat.succ_le_succ (ih (div_lt_pow hn))

theorem two_le_encode_length {n : ℕ} (hn : 128 ≤ n) : 2 ≤ (encode n).length := by
  rw [encode_of_le hn, List.length_cons]
  exact Nat.succ_le_succ (List.length_pos_iff.mpr (encode_ne_nil _))

/-! ## What the bytes stand for -/

/-- The low seven bits of the bytes are the digits of `n`, the continuation bit is set on all bytes but the
last, and the last byte is no zero that could be left out. -/
structure Represents (bytes : List UInt8) (n : ℕ) : Prop where
  value : Nat.ofDigits 128 (bytes.map fun b => b.toNat % 128) = n
  continued : ∃ init last, bytes = init ++ [last] ∧ (∀ b ∈ init, 128 ≤ b.toNat) ∧ last.toNat < 128 ∧
    (last.toNat = 0 → n = 0)

theorem represents_encode (n : ℕ) : Represents (encode n) n := by
  induction n using Nat.strongRecOn with
  | ind n ih =>
    rcases Nat.lt_or_ge n 128 with hlt | hge
    · have hbyte : (UInt8.ofNat n).toNat = n := byte_toNat (by omega)
      rw [encode_of_lt hlt]
      refine ⟨?_, [], UInt8.ofNat n, rfl, fun b hb => absurd hb List.not_mem_nil, by omega, by omega⟩
      rw [List.map_singleton, Nat.ofDigits_singleton, hbyte, Nat.mod_eq_of_lt hlt]
    · have hbyte : (UInt8.ofNat (n % 128 + 128)).toNat = n % 128 + 128 := byte_toNat (by omega)
      obtain ⟨hvalue, init, last, hsplit, hinit, hlast, hzero⟩ := ih (n / 128) (by omega)
      rw [encode_of_le hge]
      refine ⟨?_, UInt8.ofNat (n % 128 + 128) :: init, last, by rw [hsplit, List.cons_append], ?_, hlast, ?_⟩
      · rw [List.map_cons, Nat.ofDigits_cons, hvalue, hbyte]
        omega
      · intro b hb
        rcases List.mem_cons.mp hb with rfl | hb
        · omega
        · exact hinit b hb
      · intro h
        have hrest := hzero h
        omega

/-- The bytes are as many as there are digits, and one for 0. -/
theorem encode_length_le_iff {n k : ℕ} : (encode n).length ≤ k + 1 ↔ n < 128 ^ (k + 1) := by
  refine ⟨fun hlen => ?_, encode_length_le⟩
  have hlt := Nat.ofDigits_lt_base_pow_length (b := 128) (l := (encode n).map fun b => b.toNat % 128) (by omega)
    (fun d hd => by
      obtain ⟨b, -, rfl⟩ := List.mem_map.mp hd
      exact Nat.mod_lt _ (by omega))
  rw [(represents_encode n).value, List.length_map] at hlt
  exact lt_of_lt_of_le hlt (Nat.pow_le_pow_right (by omega) hlen)

end Mcus.Base128
