import Mathlib.Data.List.Nodup

/-! # Loops over ordered maps

A loop over an ordered map meets every key once. `eraseAll` takes away the keys that such a loop
collected, and `filter_flatMap_toList` finds what the loop wrote about one key in all that it wrote.
-/

namespace Mcus.OrderedMap
open Std
set_option autoImplicit false

universe u v w

section Lists
variable {α : Type u} {β : Type v} {γ : Type w} [DecidableEq α] {about : γ → α} {body : α × β → List γ}
  {l : List (α × β)} {a : α} {b : β}

theorem filter_of_ne {e : α × β} (habout : ∀ x ∈ body e, about x = e.1) (hne : e.1 ≠ a) :
    (body e).filter (fun x => decide (about x = a)) = [] := by
  refine List.filter_eq_nil_iff.mpr fun x hx => ?_
  rw [habout x hx, decide_eq_true_iff]
  exact hne

theorem filter_flatMap_of_not_mem (habout : ∀ e ∈ l, ∀ x ∈ body e, about x = e.1)
    (ha : a ∉ l.map Prod.fst) : (l.flatMap body).filter (fun x => decide (about x = a)) = [] := by
  rw [List.filter_flatMap]
  refine List.flatMap_eq_nil_iff.mpr fun e he => ?_
  exact filter_of_ne (habout e he) fun hea => ha (hea ▸ List.mem_map_of_mem he)

theorem filter_flatMap_of_mem (habout : ∀ e ∈ l, ∀ x ∈ body e, about x = e.1)
    (hnodup : (l.map Prod.fst).Nodup) (hab : (a, b) ∈ l) :
    (l.flatMap body).filter (fun x => decide (about x = a)) = body (a, b) := by
  induction l with
  | nil => exact absurd hab List.not_mem_nil
  | cons e l ih =>
    obtain ⟨he, hnodup⟩ := List.nodup_cons.mp hnodup
    have hhead := habout e List.mem_cons_self
    have htail : ∀ e ∈ l, ∀ x ∈ body e, about x = e.1 := fun e' he' => habout e' (List.mem_cons_of_mem _ he')
    rw [List.flatMap_cons, List.filter_append]
    rcases List.mem_cons.mp hab with rfl | hab
    · rw [filter_flatMap_of_not_mem htail he, List.append_nil]
      exact List.filter_eq_self.mpr fun x hx => decide_eq_true (hhead x hx)
    · have hne : e.1 ≠ a := fun h => he (h ▸ List.mem_map_of_mem hab)
      rw [filter_of_ne hhead hne, List.nil_append, ih htail hnodup hab]

end Lists

section Maps
variable {α : Type u} {β : Type v} {γ : Type w} {cmp : α → α → Ordering}

/-- The keys are erased one after the other. -/
def eraseAll (m : TreeMap α β cmp) (ks : List α) : TreeMap α β cmp := ks.foldl (fun m k => m.erase k) m

theorem eraseAll_cons {m : TreeMap α β cmp} {ks : List α} (k : α) :
    eraseAll m (k :: ks) = eraseAll (m.erase k) ks := rfl

variable [TransCmp cmp]

theorem nodup_keys_toList (m : TreeMap α β cmp) : (m.toList.map Prod.fst).Nodup := by
  rw [TreeMap.map_fst_toList_eq_keys]
  exact TreeMap.nodup_keys

variable [LawfulEqCmp cmp] {m : TreeMap α β cmp} {ks : List α} {a k : α}

omit [TransCmp cmp] in
theorem cmp_ne_eq (hne : k ≠ a) : ¬ cmp k a = .eq := fun h => hne (LawfulEqCmp.eq_of_compare h)

theorem getElem?_eraseAll_of_not_mem (ha : a ∉ ks) : (eraseAll m ks)[a]? = m[a]? := by
  induction ks generalizing m with
  | nil => rfl
  | cons k ks ih =>
    have hne : k ≠ a := fun h => ha (h ▸ List.mem_cons_self)
    rw [eraseAll_cons, ih fun h => ha (List.mem_cons_of_mem _ h), TreeMap.getElem?_erase,
      if_neg (cmp_ne_eq hne)]

theorem getElem?_eraseAll_of_mem (ha : a ∈ ks) : (eraseAll m ks)[a]? = none := by
  induction ks generalizing m with
  | nil => exact absurd ha List.not_mem_nil
  | cons k ks ih =>
    rw [eraseAll_cons]
    by_cases hks : a ∈ ks
    · exact ih hks
    · obtain rfl : a = k := (List.mem_cons.mp ha).resolve_right hks
      rw [getElem?_eraseAll_of_not_mem hks, TreeMap.getElem?_erase, if_pos ReflCmp.compare_self]

theorem size_erase_of_mem (hk : k ∈ m) : (m.erase k).size + 1 = m.size := by
  have hpos : 0 < m.keys.length := List.length_pos_of_mem (TreeMap.mem_keys.mpr hk)
  rw [TreeMap.length_keys] at hpos
  rw [TreeMap.size_erase, if_pos (TreeMap.contains_iff_mem.mpr hk)]
  omega

theorem size_eraseAll (hnodup : ks.Nodup) (hmem : ∀ k ∈ ks, k ∈ m) :
    (eraseAll m ks).size + ks.length = m.size := by
  induction ks generalizing m with
  | nil => rfl
  | cons k ks ih =>
    obtain ⟨hk, hnodup⟩ := List.nodup_cons.mp hnodup
    have hrest : ∀ j ∈ ks, j ∈ m.erase k := by
      intro j hj
      have hne : k ≠ j := fun h => hk (h ▸ hj)
      exact TreeMap.mem_erase.mpr ⟨cmp_ne_eq hne, hmem j (List.mem_cons_of_mem _ hj)⟩
    rw [eraseAll_cons, List.length_cons, ← size_erase_of_mem (hmem k List.mem_cons_self),
      ← ih hnodup hrest, Nat.add_assoc]

/-- About one key a loop writes what its body writes for the entry, if there is one. -/
theorem filter_flatMap_toList [DecidableEq α] {about : γ → α} {body : α × β → List γ}
    (habout : ∀ e ∈ m.toList, ∀ x ∈ body e, about x = e.1) :
    (m.toList.flatMap body).filter (fun x => decide (about x = a)) =
      (m[a]?).elim [] fun v => body (a, v) := by
  cases hm : m[a]? with
  | some v =>
    exact filter_flatMap_of_mem habout (nodup_keys_toList m) (TreeMap.mem_toList_iff_getElem?_eq_some.mpr hm)
  | none =>
    refine filter_flatMap_of_not_mem habout fun hkey => ?_
    rw [TreeMap.map_fst_toList_eq_keys, TreeMap.mem_keys, TreeMap.mem_iff_isSome_getElem?, hm] at hkey
    exact Bool.false_ne_true hkey

end Maps
end Mcus.OrderedMap
