import Mcus.Foundations.Runs

/-! # Tables searched from the front

Entries are appended and never removed, and a search ends at the first entry with the key, so that later
entries with the same key are never found. `updateFirst` changes the entry that a search finds.
`FlagsFirsts` holds of a table whose flagged entries are the first ones of certain keys.
-/

namespace Mcus.FirstMatch
open Runs
set_option autoImplicit false

universe u v

/-! ## Searching -/

section Search
variable {α : Type u} {κ : Type v} [DecidableEq κ] (key : α → κ)

def find (k : κ) (table : List α) : Option α := table.find? fun x => key x = k

def updateFirst (k : κ) (f : α → α) : List α → List α
  | [] => []
  | x :: table => if key x = k then f x :: table else x :: updateFirst k f table

variable {key} {k k' : κ} {f : α → α} {x : α} {table : List α}

theorem find_cons : find key k (x :: table) = if key x = k then some x else find key k table := by
  rw [find, List.find?_cons]
  by_cases hx : key x = k
  · rw [if_pos hx, decide_eq_true hx]
  · rw [if_neg hx, decide_eq_false hx]
    rfl

/-- An appended entry is found only if no other has its key. -/
theorem find_concat : find key k (table ++ [x]) =
    (find key k table).or (if key x = k then some x else none) := by
  rw [find, List.find?_append, List.find?_singleton]
  simp only [decide_eq_true_eq]
  rfl

theorem find_updateFirst (hf : ∀ x, key (f x) = key x) : find key k' (updateFirst key k f table) =
    if k' = k then (find key k' table).map f else find key k' table := by
  induction table with
  | nil => exact (ite_self _).symm
  | cons x table ih =>
    rw [updateFirst]
    by_cases hx : key x = k
    · rw [if_pos hx, find_cons, find_cons, hf, hx]
      by_cases hk : k = k'
      · rw [if_pos hk, if_pos hk, if_pos hk.symm, Option.map_some]
      · rw [if_neg hk, if_neg hk, if_neg (Ne.symm hk)]
    · rw [if_neg hx, find_cons, find_cons, ih]
      by_cases hx' : key x = k'
      · rw [if_pos hx', if_pos hx', if_neg fun hk => hx (hx'.trans hk)]
      · rw [if_neg hx', if_neg hx']

theorem updateFirst_keys (hf : ∀ x, key (f x) = key x) :
    (updateFirst key k f table).map key = table.map key := by
  induction table with
  | nil => rfl
  | cons x table ih =>
    rw [updateFirst]
    split
    case isTrue => rw [List.map_cons, List.map_cons, hf]
    case isFalse => rw [List.map_cons, List.map_cons, ih]

/-- The last entry is changed only if no other has its key. -/
theorem updateFirst_concat : updateFirst key k f (table ++ [x]) =
    if k ∈ table.map key then updateFirst key k f table ++ [x]
    else table ++ [if key x = k then f x else x] := by
  induction table with
  | nil =>
    change (if key x = k then [f x] else [x]) = [if key x = k then f x else x]
    split <;> rfl
  | cons y table ih =>
    rw [List.cons_append, updateFirst, updateFirst, ih]
    by_cases hy : key y = k
    · rw [if_pos hy, if_pos hy, if_pos (by rw [List.map_cons, hy]; exact List.mem_cons_self), List.cons_append]
    · have hmem : k ∈ (y :: table).map key ↔ k ∈ table.map key := by
        rw [List.map_cons, List.mem_cons, or_iff_right (Ne.symm hy)]
      rw [if_neg hy, if_neg hy]
      by_cases hk : k ∈ table.map key
      · rw [if_pos hk, if_pos (hmem.mpr hk), List.cons_append]
      · rw [if_neg hk, if_neg (mt hmem.mp hk), List.cons_append]

end Search

/-! ## Flags -/

section Flags
variable {α : Type u} {κ : Type v} (key : α → κ)

/-- The flagged entries are the first ones of the keys that satisfy `P`. -/
def FlagsFirsts (flag : α → Bool) (P : κ → Prop) (table : List α) : Prop :=
  ∀ before x after, table = before ++ x :: after →
    (flag x = true ↔ key x ∉ before.map key ∧ P (key x))

variable {key} {flag : α → Bool} {P Q : κ → Prop} {x : α} {table : List α}

theorem flagsFirsts_nil : FlagsFirsts key flag P [] := fun _ _ _ h => absurd h (by simp)

theorem flagsFirsts_concat : FlagsFirsts key flag P (table ++ [x]) ↔
    FlagsFirsts key flag P table ∧ (flag x = true ↔ key x ∉ table.map key ∧ P (key x)) :=
  forall_split_concat (P := fun before x => (flag x = true ↔ key x ∉ before.map key ∧ P (key x)))

/-- Only the keys of the table matter. -/
theorem FlagsFirsts.congr (h : FlagsFirsts key flag P table) (hPQ : ∀ k ∈ table.map key, (P k ↔ Q k)) :
    FlagsFirsts key flag Q table := by
  rintro before x after rfl
  rw [h before x after rfl, hPQ (key x) (List.mem_map.mpr ⟨x, by simp, rfl⟩)]

/-- Flagging the entry that a search finds adds its key. -/
theorem FlagsFirsts.updateFirst [DecidableEq κ] {k : κ} {f : α → α} (h : FlagsFirsts key flag P table)
    (hf : ∀ x, key (f x) = key x) (hflag : ∀ x, flag (f x) = true) :
    FlagsFirsts key flag (fun k' => P k' ∨ k' = k) (updateFirst key k f table) := by
  induction table using List.reverseRecOn with
  | nil => exact flagsFirsts_nil
  | append_singleton table x ih =>
    obtain ⟨htable, hx⟩ := flagsFirsts_concat.mp h
    rw [updateFirst_concat]
    by_cases hk : k ∈ table.map key
    · rw [if_pos hk, flagsFirsts_concat, updateFirst_keys hf, hx]
      refine ⟨ih htable, and_congr_right fun hnew => ⟨Or.inl, fun hor => hor.resolve_right ?_⟩⟩
      exact fun heq => hnew (heq ▸ hk)
    · have hsame : FlagsFirsts key flag (fun k' => P k' ∨ k' = k) table :=
        htable.congr fun k' hk' => ⟨Or.inl, fun hor => hor.resolve_right fun heq => hk (heq ▸ hk')⟩
      rw [if_neg hk, flagsFirsts_concat]
      refine ⟨hsame, ?_⟩
      by_cases hxk : key x = k
      · rw [if_pos hxk, hf, hxk, hflag]
        exact iff_of_true rfl ⟨hk, Or.inr rfl⟩
      · rw [if_neg hxk, hx, or_iff_left hxk]

/-- Flagged entries have distinct keys, which are the keys of the table that satisfy `P`. -/
theorem FlagsFirsts.flagged (h : FlagsFirsts key flag P table) : ((table.filter flag).map key).Nodup ∧
    ∀ k, k ∈ (table.filter flag).map key ↔ k ∈ table.map key ∧ P k := by
  induction table using List.reverseRecOn with
  | nil => exact ⟨List.nodup_nil, fun k => by simp⟩
  | append_singleton table x ih =>
    obtain ⟨htable, hx⟩ := flagsFirsts_concat.mp h
    obtain ⟨hnodup, hmem⟩ := ih htable
    cases hflag : flag x with
    | true =>
      obtain ⟨hnew, hP⟩ := hx.mp hflag
      have hkeys : ((table ++ [x]).filter flag).map key = (table.filter flag).map key ++ [key x] := by
        simp [List.filter_append, hflag]
      rw [hkeys]
      constructor
      · refine List.nodup_append.mpr ⟨hnodup, by simp, ?_⟩
        rintro k hk _ hlast rfl
        rw [List.mem_singleton] at hlast
        exact hnew (hlast ▸ ((hmem k).mp hk).1)
      · intro k
        rw [List.map_append, List.map_singleton, List.mem_append, List.mem_append, List.mem_singleton, hmem]
        constructor
        · rintro (⟨hk, hPk⟩ | rfl)
          · exact ⟨Or.inl hk, hPk⟩
          · exact ⟨Or.inr rfl, hP⟩
        · rintro ⟨hk | hk, hPk⟩
          · exact Or.inl ⟨hk, hPk⟩
          · exact Or.inr hk
    | false =>
      have hkeys : ((table ++ [x]).filter flag).map key = (table.filter flag).map key := by
        simp [List.filter_append, hflag]
      rw [hkeys]
      refine ⟨hnodup, fun k => ?_⟩
      rw [List.map_append, List.map_singleton, List.mem_append, List.mem_singleton, hmem]
      constructor
      · exact fun h => ⟨Or.inl h.1, h.2⟩
      · rintro ⟨hk | rfl, hPk⟩
        · exact ⟨hk, hPk⟩
        · refine ⟨by_contra fun hnew => ?_, hPk⟩
          exact Bool.false_ne_true (hflag.symm.trans (hx.mpr ⟨hnew, hPk⟩))

end Flags
end Mcus.FirstMatch
