import Mathlib.Data.Nat.Notation
import Mathlib.Logic.Function.Iterate

/-! # Cyclic redundancy checks, lowest bit first

A register of `w` bits is shifted down once for every bit, and the polynomial is added where a bit falls out.
The step is linear in exclusive or, and with the top bit of the polynomial set it can be undone. A bit that
is shifted in above comes out again unchanged, so that as many bytes as the register is wide act on it like
the one word they make up.
-/

namespace Mcus.Crc
set_option autoImplicit false

variable {w : ℕ}

/-- One bit. -/
def bitStep (poly c : BitVec w) : BitVec w := (c >>> 1) ^^^ if c.getLsbD 0 then poly else 0#w

/-- One byte, lowest bit first. -/
def byteStep (poly c : BitVec w) (b : BitVec 8) : BitVec w := (bitStep poly)^[8] (c ^^^ b.setWidth w)

/-- Bytes as one word, lowest byte first. -/
def word (w : ℕ) : List (BitVec 8) → BitVec w
  | [] => 0#w
  | b :: bs => b.setWidth w ^^^ word w bs <<< 8

/-! ## The step -/

theorem bitStep_getLsbD (poly c : BitVec w) (i : ℕ) :
    (bitStep poly c).getLsbD i = (c.getLsbD (1 + i) ^^ (c.getLsbD 0 && poly.getLsbD i)) := by
  rw [bitStep, BitVec.getLsbD_xor, BitVec.getLsbD_ushiftRight]
  cases c.getLsbD 0 with
  | false => rw [if_neg Bool.false_ne_true, BitVec.getLsbD_zero, Bool.false_and]
  | true => rw [if_pos rfl, Bool.true_and]

theorem bitStep_xor (poly c d : BitVec w) : bitStep poly (c ^^^ d) = bitStep poly c ^^^ bitStep poly d := by
  apply BitVec.eq_of_getLsbD_eq
  intro i _
  simp only [BitVec.getLsbD_xor, bitStep_getLsbD]
  cases c.getLsbD 0 <;> cases d.getLsbD 0 <;> cases c.getLsbD (1 + i) <;> cases d.getLsbD (1 + i) <;>
    cases poly.getLsbD i <;> rfl

/-- Nothing but zero is shifted to zero. -/
theorem eq_zero_of_bitStep {poly c : BitVec w} (hpoly : poly.getLsbD (w - 1) = true)
    (h : bitStep poly c = 0#w) : c = 0#w := by
  have hbit (i : ℕ) : (c.getLsbD (1 + i) ^^ (c.getLsbD 0 && poly.getLsbD i)) = false := by
    rw [← bitStep_getLsbD, h, BitVec.getLsbD_zero]
  -- the top bit comes from the polynomial alone
  have hlow : c.getLsbD 0 = false := by
    have htop := hbit (w - 1)
    rwa [BitVec.getLsbD_of_ge c (1 + (w - 1)) (by omega), hpoly, Bool.and_true, Bool.false_xor] at htop
  apply BitVec.eq_of_getLsbD_eq
  intro i _
  rw [BitVec.getLsbD_zero]
  cases i with
  | zero => exact hlow
  | succ i =>
    have hnext := hbit i
    rwa [hlow, Bool.false_and, Bool.xor_false, Nat.add_comm] at hnext

theorem bitStep_injective {poly : BitVec w} (hpoly : poly.getLsbD (w - 1) = true) :
    Function.Injective (bitStep poly) := by
  intro c d h
  have hzero : bitStep poly (c ^^^ d) = 0#w := by rw [bitStep_xor, h, BitVec.xor_self]
  exact BitVec.xor_eq_zero_iff.mp (eq_zero_of_bitStep hpoly hzero)

theorem bitStep_iterate_xor (poly : BitVec w) (n : ℕ) (c d : BitVec w) :
    (bitStep poly)^[n] (c ^^^ d) = (bitStep poly)^[n] c ^^^ (bitStep poly)^[n] d := by
  induction n generalizing c d with
  | zero => rfl
  | succ n ih =>
    rw [Function.iterate_succ_apply, bitStep_xor, ih]
    rfl

/-- A bit that is shifted up is shifted down again before any other falls out. -/
theorem bitStep_shiftLeft (poly : BitVec w) {x : BitVec w} (hx : x.getLsbD (w - 1) = false) :
    bitStep poly (x <<< 1) = x := by
  apply BitVec.eq_of_getLsbD_eq
  intro i hi
  have hlow : (x <<< 1).getLsbD 0 = false := by simp
  rw [bitStep_getLsbD, hlow, Bool.false_and, Bool.xor_false, BitVec.getLsbD_shiftLeft]
  rcases Nat.lt_or_ge (1 + i) w with hlt | hge
  · simp [hlt]
  · obtain rfl : i = w - 1 := by omega
    simp [hx]

/-- The bits from `n` on are clear. -/
def Below (n : ℕ) (x : BitVec w) : Prop := ∀ i, n ≤ i → x.getLsbD i = false

theorem bitStep_iterate_shiftLeft (poly : BitVec w) {n : ℕ} {x : BitVec w} (hn : n ≤ w) (hx : Below (w - n) x) :
    (bitStep poly)^[n] (x <<< n) = x := by
  induction n with
  | zero => simp
  | succ n ih =>
    have htop : (x <<< n).getLsbD (w - 1) = false := by
      rw [BitVec.getLsbD_shiftLeft, hx (w - 1 - n) (by omega), Bool.and_false]
    rw [Function.iterate_succ_apply, BitVec.shiftLeft_add, bitStep_shiftLeft poly htop]
    exact ih (by omega) fun i hi => hx i (by omega)

/-! ## Bytes -/

theorem byteStep_injective_left {poly : BitVec w} (hpoly : poly.getLsbD (w - 1) = true) (b : BitVec 8) :
    Function.Injective fun c => byteStep poly c b := by
  intro c d h
  exact BitVec.xor_left_inj _ |>.mp ((bitStep_injective hpoly).iterate 8 h)

theorem word_cons_getLsbD (b : BitVec 8) (bs : List (BitVec 8)) (i : ℕ) :
    (word w (b :: bs)).getLsbD i = if i < 8 then decide (i < w) && b.getLsbD i
      else decide (i < w) && (word w bs).getLsbD (i - 8) := by
  rw [word, BitVec.getLsbD_xor, BitVec.getLsbD_setWidth, BitVec.getLsbD_shiftLeft]
  split
  case isTrue h => simp [h]
  case isFalse h => simp [h, BitVec.getLsbD_of_ge b i (by omega)]

theorem word_below (bs : List (BitVec 8)) : Below (8 * bs.length) (word w bs) := by
  induction bs with
  | nil => exact fun i _ => BitVec.getLsbD_zero
  | cons b bs ih =>
    intro i hi
    rw [List.length_cons] at hi
    rw [word_cons_getLsbD, if_neg (by omega), ih (i - 8) (by omega), Bool.and_false]

/-- Bytes that fit into the register act on it like their word. -/
theorem foldl_byteStep (poly c : BitVec w) {bs : List (BitVec 8)} (hfit : 8 * bs.length ≤ w) :
    bs.foldl (byteStep poly) c = (bitStep poly)^[8 * bs.length] (c ^^^ word w bs) := by
  induction bs generalizing c with
  | nil => simp [word]
  | cons b bs ih =>
    rw [List.length_cons] at hfit
    have hup : (bitStep poly)^[8] (word w bs <<< 8) = word w bs :=
      bitStep_iterate_shiftLeft poly (by omega) fun i hi => word_below bs i (by omega)
    calc (b :: bs).foldl (byteStep poly) c
        = (bitStep poly)^[8 * bs.length] (byteStep poly c b ^^^ word w bs) := ih _ (by omega)
      _ = (bitStep poly)^[8 * bs.length] ((bitStep poly)^[8] (c ^^^ word w (b :: bs))) := by
        rw [word, ← BitVec.xor_assoc, bitStep_iterate_xor poly 8, hup, byteStep]
      _ = (bitStep poly)^[8 * (b :: bs).length] (c ^^^ word w (b :: bs)) := by
        rw [← Function.iterate_add_apply, List.length_cons, Nat.mul_succ]

theorem word_injective {bs cs : List (BitVec 8)} (hlen : bs.length = cs.length) (hfit : 8 * bs.length ≤ w)
    (h : word w bs = word w cs) : bs = cs := by
  induction bs generalizing cs with
  | nil => exact (List.length_eq_zero_iff.mp hlen.symm).symm
  | cons b bs ih =>
    cases cs with
    | nil => exact absurd hlen (by simp)
    | cons c cs =>
      rw [List.length_cons] at hfit
      have hlen' : bs.length = cs.length := Nat.succ.inj hlen
      have hbit (i : ℕ) : (word w (b :: bs)).getLsbD i = (word w (c :: cs)).getLsbD i := by rw [h]
      simp only [word_cons_getLsbD] at hbit
      have hhead : b = c := by
        apply BitVec.eq_of_getLsbD_eq
        intro i hi
        have hlow := hbit i
        rwa [if_pos hi, if_pos hi, decide_eq_true (by omega), Bool.true_and, Bool.true_and] at hlow
      have htail : word w bs = word w cs := by
        apply BitVec.eq_of_getLsbD_eq
        intro i hi
        rcases Nat.lt_or_ge (i + 8) w with hlt | hge
        · have hhigh := hbit (i + 8)
          rwa [if_neg (by omega), if_neg (by omega), decide_eq_true hlt, Bool.true_and, Bool.true_and,
            Nat.add_sub_cancel] at hhigh
        · rw [word_below bs i (by omega), word_below cs i (by omega)]
      rw [hhead, ih hlen' (by omega) htail]

/-- A register is taken to different values by different strings of as many bytes as it is wide. -/
theorem foldl_byteStep_injective {poly : BitVec w} (hpoly : poly.getLsbD (w - 1) = true) (c : BitVec w)
    {bs cs : List (BitVec 8)} (hlen : bs.length = cs.length) (hfit : 8 * bs.length ≤ w)
    (h : bs.foldl (byteStep poly) c = cs.foldl (byteStep poly) c) : bs = cs := by
  rw [foldl_byteStep poly c hfit, foldl_byteStep poly c (hlen ▸ hfit), hlen] at h
  exact word_injective hlen hfit (BitVec.xor_right_inj _ |>.mp ((bitStep_injective hpoly).iterate _ h))

end Mcus.Crc
