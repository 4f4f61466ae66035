import Mathlib.Data.List.Forall2
import Mathlib.Data.Option.Basic

/-! # Bounded tables

`upsert` replaces the first entry that matches, or appends one while there is room. Two tables whose
entries correspond one by one, and whose tests agree on corresponding entries, stay so and have room
at the same times.
-/

namespace Mcus.BoundedTable
open List
set_option autoImplicit false

universe u v

section Upsert
variable {α : Type u} {β : Type v}

def upsert (p : α → Bool) (capacity : ℕ) (x : α) (table : List α) : Option (List α) :=
  match table.findIdx? p with
  | some i => some (table.set i x)
  | none => if table.length < capacity then some (table ++ [x]) else none

/-- The search of a table by position. -/
theorem find?_range_eq_findIdx? (p : α → Bool) (q : ℕ → Bool) (table : List α)
    (hq : ∀ i (hi : i < table.length), q i = p table[i]) :
    (List.range table.length).find? q = table.findIdx? p := by
  apply Option.ext
  intro i
  rw [List.find?_range_eq_some, List.findIdx?_eq_some_iff_getElem, List.mem_range]
  constructor
  · rintro ⟨hi, hlt, hbefore⟩
    refine ⟨hlt, by rw [← hq i hlt]; exact hi, fun j hj => ?_⟩
    rw [← hq j (Nat.lt_trans hj hlt)]
    simpa using hbefore j hj
  · rintro ⟨hlt, hi, hbefore⟩
    refine ⟨by rw [hq i hlt]; exact hi, hlt, fun j hj => ?_⟩
    rw [hq j (Nat.lt_trans hj hlt)]
    simpa using hbefore j hj

variable {R : α → β → Prop} {p : α → Bool} {q : β → Bool} {xs : List α} {ys : List β} {x : α} {y : β}

theorem findIdx?_forall₂ (hR : Forall₂ R xs ys) (hpq : ∀ a b, R a b → p a = q b) :
    xs.findIdx? p = ys.findIdx? q := by
  induction hR with
  | nil => rfl
  | cons hab _ ih => rw [List.findIdx?_cons, List.findIdx?_cons, hpq _ _ hab, ih]

theorem forall₂_set (hR : Forall₂ R xs ys) (hxy : R x y) (i : ℕ) : Forall₂ R (xs.set i x) (ys.set i y) := by
  induction hR generalizing i with
  | nil => exact .nil
  | cons hab hrest ih =>
    cases i with
    | zero => exact .cons hxy hrest
    | succ i => exact .cons hab (ih i)

/-- Only the verdicts on the entries count. -/
theorem upsert_congr {p' : α → Bool} {table : List α} (hp : ∀ y ∈ table, p y = p' y) (capacity : ℕ) (x : α) :
    upsert p capacity x table = upsert p' capacity x table := by
  have hfind : table.findIdx? p = table.findIdx? p' := by
    induction table with
    | nil => rfl
    | cons y table ih =>
      rw [List.findIdx?_cons, List.findIdx?_cons, hp y List.mem_cons_self,
        ih fun z hz => hp z (List.mem_cons_of_mem _ hz)]
  rw [upsert, hfind]
  rfl

/-- Nothing but the new entry comes into the table. -/
theorem mem_upsert {table table' : List α} {capacity : ℕ} (hupsert : upsert p capacity x table = some table')
    {y : α} (hy : y ∈ table') : y = x ∨ y ∈ table := by
  unfold upsert at hupsert
  split at hupsert
  case h_1 =>
    rw [← Option.some.inj hupsert] at hy
    exact (List.mem_or_eq_of_mem_set hy).symm
  case h_2 =>
    split at hupsert
    case isTrue =>
      rw [← Option.some.inj hupsert, List.mem_append, List.mem_singleton] at hy
      exact hy.symm
    case isFalse => cases hupsert

/-- Both tables take the entry, and still correspond, or neither does. -/
theorem upsert_related (hR : Forall₂ R xs ys) (hpq : ∀ a b, R a b → p a = q b) (hxy : R x y)
    (capacity : ℕ) :
    (upsert p capacity x xs = none ∧ upsert q capacity y ys = none) ∨
      ∃ xs' ys', upsert p capacity x xs = some xs' ∧ upsert q capacity y ys = some ys' ∧ Forall₂ R xs' ys' := by
  unfold upsert
  rw [findIdx?_forall₂ hR hpq, hR.length_eq]
  cases ys.findIdx? q with
  | some i => exact Or.inr ⟨_, _, rfl, rfl, forall₂_set hR hxy i⟩
  | none =>
    by_cases hroom : ys.length < capacity
    · refine Or.inr ⟨_, _, if_pos hroom, if_pos hroom, ?_⟩
      exact List.rel_append hR (.cons hxy .nil)
    · exact Or.inl ⟨if_neg hroom, if_neg hroom⟩

end Upsert
end Mcus.BoundedTable
