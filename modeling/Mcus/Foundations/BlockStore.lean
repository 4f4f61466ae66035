import Mathlib.Data.List.GetD

/-! # Memories and the blocks stored into them

A memory is a function from addresses to contents. `store` puts a block of consecutive cells at an
address and leaves every other cell alone. `endToEnd` lays blocks out one behind the other; storing
them in that order is storing their concatenation once (`storeAll_endToEnd`).
-/

namespace Mcus.BlockStore
set_option autoImplicit false

universe u
variable {α : Type u}

abbrev Memory (α : Type u) := ℕ → α

/-- `block` written at `a`, `a + 1`, and so on. -/
def store (m : Memory α) (a : ℕ) (block : List α) : Memory α :=
  fun i => if i < a then m i else block.getD (i - a) (m i)

/-- The `n` cells from address `a` on. -/
def load (m : Memory α) (a n : ℕ) : List α := (List.range n).map fun k => m (a + k)

theorem store_nil (m : Memory α) (a : ℕ) : store m a [] = m := by
  funext i
  simp [store]

theorem store_frame (m : Memory α) (a : ℕ) (block : List α) {i : ℕ}
    (hi : i < a ∨ a + block.length ≤ i) : store m a block i = m i := by
  rcases hi with hi | hi
  · simp [store, hi]
  · have hna : ¬ i < a := by omega
    simp only [store, hna, if_false]
    exact List.getD_eq_default _ _ (by omega)

theorem store_inside (m : Memory α) (a : ℕ) (block : List α) {k : ℕ} (hk : k < block.length) :
    store m a block (a + k) = block[k] := by
  have hna : ¬ a + k < a := by omega
  simp only [store, hna, if_false, Nat.add_sub_cancel_left]
  exact List.getD_eq_getElem _ _ hk

theorem store_append (m : Memory α) (a : ℕ) (xs ys : List α) :
    store (store m a xs) (a + xs.length) ys = store m a (xs ++ ys) := by
  funext i
  by_cases hx : i < a + xs.length
  · rw [store_frame _ _ _ (Or.inl hx)]
    by_cases ha : i < a
    · rw [store_frame _ _ _ (Or.inl ha), store_frame _ _ _ (Or.inl ha)]
    · obtain ⟨k, rfl⟩ := Nat.exists_eq_add_of_le (Nat.le_of_not_lt ha)
      have hk : k < xs.length := by omega
      rw [store_inside m a xs hk, store_inside m a (xs ++ ys) (by simp; omega)]
      exact (List.getElem_append_left hk).symm
  · by_cases hy : i < a + xs.length + ys.length
    · obtain ⟨k, rfl⟩ := Nat.exists_eq_add_of_le (Nat.le_of_not_lt hx)
      have hk : k < ys.length := by omega
      rw [store_inside _ _ ys hk, Nat.add_assoc, store_inside m a (xs ++ ys) (by simp; omega)]
      simp
    · rw [store_frame _ _ _ (Or.inr (by omega)), store_frame _ _ _ (Or.inr (by omega)),
        store_frame _ _ _ (Or.inr (by simp; omega))]

theorem load_congr {m m' : Memory α} {a n : ℕ} (h : ∀ k < n, m' (a + k) = m (a + k)) :
    load m' a n = load m a n :=
  List.map_congr_left fun k hk => h k (List.mem_range.mp hk)

theorem load_store (m : Memory α) (a : ℕ) (block : List α) :
    load (store m a block) a block.length = block := by
  apply List.ext_getElem
  · simp [load]
  · intro k _ hk
    simp only [load, List.getElem_map, List.getElem_range]
    exact store_inside m a block hk

/-! ## Blocks laid end to end -/

/-- Each block with its address when the blocks follow one another from `a` on. -/
def endToEnd : ℕ → List (List α) → List (ℕ × List α)
  | _, [] => []
  | a, block :: blocks => (a, block) :: endToEnd (a + block.length) blocks

def storeAll (m : Memory α) (writes : List (ℕ × List α)) : Memory α :=
  writes.foldl (fun m w => store m w.1 w.2) m

theorem endToEnd_concat (a : ℕ) (blocks : List (List α)) (block : List α) :
    endToEnd a (blocks ++ [block]) = endToEnd a blocks ++ [(a + blocks.flatten.length, block)] := by
  induction blocks generalizing a with
  | nil => simp [endToEnd]
  | cons b blocks ih =>
    rw [List.cons_append, endToEnd, ih, endToEnd, List.cons_append, List.flatten_cons,
      List.length_append, Nat.add_assoc]

theorem storeAll_endToEnd (m : Memory α) (a : ℕ) (blocks : List (List α)) :
    storeAll m (endToEnd a blocks) = store m a blocks.flatten := by
  induction blocks generalizing m a with
  | nil => rw [List.flatten_nil, store_nil]; rfl
  | cons block blocks ih =>
    rw [List.flatten_cons, ← store_append]
    exact ih (store m a block) (a + block.length)

end Mcus.BlockStore
