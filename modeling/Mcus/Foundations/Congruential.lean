import Mathlib.Data.Int.GCD
import Mathlib.Data.Nat.ModEq

/-! # A linear congruential value of a counter

`value t = (t * a + c) mod 2 ^ k`. The values at distinct counts less than `2 ^ k` apart are distinct if
the multiplier is odd, and each follows from any earlier one and the number of counts in between.
-/

namespace Mcus.Congruential
set_option autoImplicit false

def value (a c k t : ℕ) : ℕ := (t * a + c) % 2 ^ k

variable {a c k : ℕ}

theorem value_lt (t : ℕ) : value a c k t < 2 ^ k := Nat.mod_lt _ (Nat.two_pow_pos k)

theorem value_add (t n : ℕ) : value a c k (t + n) = (value a c k t + n * a) % 2 ^ k := by
  have hsum : (t + n) * a + c = t * a + c + n * a := by
    rw [Nat.add_mul, Nat.add_right_comm]
  rw [value, value, hsum, Nat.mod_add_mod]

theorem modEq_of_value_eq (ha : a % 2 = 1) {t t' : ℕ} (h : value a c k t = value a c k t') :
    t ≡ t' [MOD 2 ^ k] := by
  have hodd : Nat.Coprime (2 ^ k) a := by
    refine Nat.Coprime.pow_left k ?_
    rw [Nat.Coprime, Nat.gcd_rec, ha, Nat.gcd_one_left]
  have hproduct : t * a ≡ t' * a [MOD 2 ^ k] := Nat.ModEq.add_right_cancel' c h
  exact Nat.ModEq.cancel_right_of_coprime hodd hproduct

theorem value_inj (ha : a % 2 = 1) {t t' : ℕ} (h : value a c k t = value a c k t') (hle : t ≤ t')
    (hnear : t' < t + 2 ^ k) : t = t' := by
  have hmod := (modEq_of_value_eq ha h).symm
  have hdvd := (Nat.modEq_iff_dvd' hle).mp hmod.symm
  have hzero := Nat.eq_zero_of_dvd_of_lt hdvd (by omega)
  omega

end Mcus.Congruential
