import Mathlib.Data.Nat.Notation
import Mathlib.Logic.Function.Basic

/-! # Checksums that notice a changed element

A checksum that folds its input into a register notices a change of one element if a step can be
undone: two elements never take one register to the same value, and no later step makes two
different registers equal again. It notices a burst, a change within a few elements in a row, if that many
elements together never take one register to the same value.
-/

namespace Mcus.Checksum
set_option autoImplicit false

universe u v w

/-- Two inputs that differ in one place have different checksums. -/
def Detects {α : Type u} {β : Type v} (f : List α → β) : Prop :=
  ∀ before x y after, f (before ++ x :: after) = f (before ++ y :: after) → x = y

/-- Two inputs of one length that differ, and only within `n` elements in a row, have different checksums. -/
def DetectsBursts {α : Type u} {β : Type v} (n : ℕ) (f : List α → β) : Prop :=
  ∀ xs ys p, xs.length = ys.length → (∀ i, i < p ∨ p + n ≤ i → xs[i]? = ys[i]?) → f xs = f ys → xs = ys

/-- What comes before and behind the burst is the same. -/
theorem burst_split {α : Type u} {n p : ℕ} {xs ys : List α} (h : ∀ i, i < p ∨ p + n ≤ i → xs[i]? = ys[i]?) :
    ∃ before after, xs = before ++ ((xs.drop p).take n ++ after) ∧
      ys = before ++ ((ys.drop p).take n ++ after) := by
  have hbefore : xs.take p = ys.take p := by
    apply List.ext_getElem?
    intro i
    rw [List.getElem?_take, List.getElem?_take]
    split
    case isTrue hi => exact h i (Or.inl hi)
    case isFalse => rfl
  have hafter : xs.drop (p + n) = ys.drop (p + n) := by
    apply List.ext_getElem?
    intro i
    rw [List.getElem?_drop, List.getElem?_drop]
    exact h _ (Or.inr (Nat.le_add_right _ _))
  refine ⟨xs.take p, xs.drop (p + n), ?_, ?_⟩
  · rw [← List.drop_drop, List.take_append_drop, List.take_append_drop]
  · rw [hbefore, hafter, ← List.drop_drop, List.take_append_drop, List.take_append_drop]

section Fold
variable {α : Type u} {σ : Type w} {step : σ → α → σ}

theorem foldl_injective (hstate : ∀ x, Function.Injective fun c => step c x) (xs : List α) :
    Function.Injective fun c => xs.foldl step c := by
  induction xs with
  | nil => exact fun _ _ h => h
  | cons x xs ih =>
    intro c d h
    exact hstate x (ih h)

theorem detects_foldl (hstate : ∀ x, Function.Injective fun c => step c x)
    (helement : ∀ c, Function.Injective (step c)) (c : σ) : Detects fun xs => xs.foldl step c := by
  intro before x y after h
  simp only [List.foldl_append, List.foldl_cons] at h
  exact helement _ (foldl_injective hstate after h)

theorem detectsBursts_foldl {n : ℕ} (hstate : ∀ x, Function.Injective fun c => step c x)
    (hburst : ∀ c (xs ys : List α), xs.length = ys.length → xs.length ≤ n →
      xs.foldl step c = ys.foldl step c → xs = ys) (c : σ) : DetectsBursts n fun xs => xs.foldl step c := by
  intro xs ys p hlen hsame h
  obtain ⟨before, after, hxs, hys⟩ := burst_split hsame
  have hbetween : (xs.drop p).take n = (ys.drop p).take n := by
    rw [hxs, hys] at h
    simp only [List.foldl_append] at h
    refine hburst _ _ _ ?_ (List.length_take_le _ _) (foldl_injective hstate after h)
    rw [List.length_take, List.length_take, List.length_drop, List.length_drop, hlen]
  rw [hxs, hys, hbetween]

end Fold

theorem DetectsBursts.comp {α : Type u} {β : Type v} {γ : Type w} {n : ℕ} {f : List α → β} {g : β → γ}
    (hf : DetectsBursts n f) (hg : Function.Injective g) : DetectsBursts n fun xs => g (f xs) :=
  fun xs ys p hlen hsame h => hf xs ys p hlen hsame (hg h)

theorem Detects.comp {α : Type u} {β : Type v} {γ : Type w} {f : List α → β} {g : β → γ}
    (hf : Detects f) (hg : Function.Injective g) : Detects fun xs => g (f xs) :=
  fun before x y after h => hf before x y after (hg h)

end Mcus.Checksum
