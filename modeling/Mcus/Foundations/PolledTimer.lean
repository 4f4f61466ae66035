import Mathlib.Data.List.Chain
import Mcus.Foundations.RateLimit

/-! # Timers that are polled

A loop looks at the clock from time to time; a timer fires when the clock shows that its period is over,
and its next period begins there. `Measures due d reach` says what a clock must show: no period that is not
over, and every one that is, up to `reach`. Then a firing follows the one before it after a period, and no
later than a period and one gap between two looks.
-/

namespace Mcus.PolledTimer
open RateLimit
set_option autoImplicit false

variable {due : ℕ → ℕ → Bool} {d reach g last prev now : ℕ} {polls : List ℕ}

/-- The beginning of the period behind a look at the clock. -/
def poll (due : ℕ → ℕ → Bool) (last now : ℕ) : ℕ := if due last now then now else last

/-- The firings of a row of looks. -/
def fires (due : ℕ → ℕ → Bool) (last : ℕ) : List ℕ → List ℕ
  | [] => []
  | now :: polls => if due last now then now :: fires due now polls else fires due last polls

theorem fires_cons : fires due last (now :: polls) =
    (if due last now then [now] else []) ++ fires due (poll due last now) polls := by
  rw [fires, poll]
  split <;> rfl

structure Measures (due : ℕ → ℕ → Bool) (d reach : ℕ) : Prop where
  ended : ∀ {since now}, since ≤ now → due since now = true → since + d ≤ now
  shows : ∀ {since now}, since + d ≤ now → now < since + reach → due since now = true

/-! ## A row of looks -/

/-- The loop looks again after at most `g`. -/
def Steady (g : ℕ) (polls : List ℕ) : Prop := polls.IsChain fun a b => a ≤ b ∧ b ≤ a + g

/-- A firing follows the one before it after at least a period and at most a period and a gap. -/
def Periodic (d g : ℕ) (times : List ℕ) : Prop := times.IsChain fun a b => a + d ≤ b ∧ b ≤ a + (d + g)

theorem le_poll (h : last ≤ now) : last ≤ poll due last now ∧ poll due last now ≤ now := by
  unfold poll
  split <;> omega

/-- A period that was not over at a look does not last beyond it. -/
theorem poll_current (hmeasures : Measures due d reach) (hreach : now < last + reach) :
    now ≤ poll due last now + d := by
  unfold poll
  split
  case isTrue => omega
  case isFalse hdue =>
    by_contra hlate
    exact hdue (hmeasures.shows (by omega) hreach)

theorem periodic_fires (hmeasures : Measures due d reach) (hreach : d + g < reach) (hlast : last ≤ prev)
    (hcurrent : prev ≤ last + d) (hsteady : Steady g (prev :: polls)) :
    Periodic d g (last :: fires due last polls) := by
  induction polls generalizing last prev with
  | nil => exact .singleton _
  | cons now polls ih =>
    obtain ⟨⟨hmono, hgap⟩, hrest⟩ := List.isChain_cons_cons.mp hsteady
    have hcurrent' := poll_current hmeasures (show now < last + reach by omega)
    have hle := @le_poll due last now (by omega)
    have hlater := ih hle.2 hcurrent' hrest
    rw [fires_cons]
    unfold poll at hlater ⊢
    split at hlater
    case isTrue hdue =>
      rw [if_pos hdue, if_pos hdue]
      refine List.isChain_cons_cons.mpr ⟨⟨hmeasures.ended (by omega) hdue, by omega⟩, hlater⟩
    case isFalse hdue =>
      rwa [if_neg hdue, if_neg hdue]

/-- At its end the loop is within a period of the last firing. -/
theorem last_poll_current (hmeasures : Measures due d reach) (hreach : d + g < reach) (hlast : last ≤ prev)
    (hcurrent : prev ≤ last + d) (hsteady : Steady g (prev :: polls)) :
    (prev :: polls).getLast (List.cons_ne_nil _ _) ≤
      (last :: fires due last polls).getLast (List.cons_ne_nil _ _) + d := by
  induction polls generalizing last prev with
  | nil => exact hcurrent
  | cons now polls ih =>
    obtain ⟨⟨hmono, hgap⟩, hrest⟩ := List.isChain_cons_cons.mp hsteady
    have hcurrent' := poll_current hmeasures (show now < last + reach by omega)
    have hlater := ih (@le_poll due last now (by omega)).2 hcurrent' hrest
    rw [List.getLast_cons (List.cons_ne_nil _ _)]
    refine hlater.trans (Nat.le_of_eq ?_)
    congr 1
    simp only [fires, poll]
    split
    · exact (List.getLast_cons (List.cons_ne_nil _ _)).symm
    · rfl

/-! ## Clocks -/

/-- The elapsed time in whole units of `unit`, rounded down. -/
def truncating (unit count since now : ℕ) : Bool := decide (count ≤ (now - since) / unit)

theorem measures_truncating {unit : ℕ} (hunit : 0 < unit) (count reach : ℕ) :
    Measures (truncating unit count) (count * unit) reach where
  ended hle hdue := by
    have hcount := (Nat.le_div_iff_mul_le hunit).mp (of_decide_eq_true hdue)
    omega
  shows hover _ := by
    refine decide_eq_true ((Nat.le_div_iff_mul_le hunit).mpr ?_)
    omega

end Mcus.PolledTimer
