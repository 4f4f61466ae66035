import Mcus.Foundations.BoundedTable
import Mcus.Foundations.Runs
import Mathlib.Data.List.Nodup

/-! # One entry for each key

`upsert` searches for a key and stores an entry, whose own key may be another one. Where it is the same,
the keys stay distinct and the entry is the only one under its key; where it is not, no entry is left
under the key. A machine whose steps are such updates has this at every point of a run exactly if it is
given no entry under a foreign key, calls that are refused apart.
-/

namespace Mcus.BoundedTable
open Runs
set_option autoImplicit false

universe u v

section Keys
variable {α : Type u} {κ : Type v} [DecidableEq κ] (key : α → κ)

def under (k : κ) (table : List α) : List α := table.filter fun x => key x = k

/-- An update under the key is not refused. -/
def Takes (capacity : ℕ) (k : κ) (table : List α) : Prop := k ∈ table.map key ∨ table.length < capacity

variable {key} {k : κ} {capacity : ℕ} {x : α} {table table' : List α}

theorem under_eq_nil (hk : k ∉ table.map key) : under key k table = [] := by
  rw [under, List.filter_eq_nil_iff]
  intro y hy heq
  exact hk (List.mem_map.mpr ⟨y, hy, of_decide_eq_true heq⟩)

theorem under_middle (before after : List α) (hk : k ∉ (before ++ after).map key) :
    under key k (before ++ x :: after) = if key x = k then [x] else [] := by
  rw [List.map_append, List.mem_append, not_or] at hk
  have hbefore := under_eq_nil hk.1
  have hafter := under_eq_nil hk.2
  rw [under] at hbefore hafter
  rw [under, List.filter_append, hbefore, List.filter_cons, hafter, List.nil_append]
  simp only [decide_eq_true_eq]

omit [DecidableEq κ] in
theorem keys_middle (before after : List α) :
    ((before ++ x :: after).map key).Nodup ↔
      key x ∉ (before ++ after).map key ∧ ((before ++ after).map key).Nodup := by
  rw [List.map_append, List.map_cons, List.nodup_middle, List.nodup_cons, ← List.map_append]

theorem findIdx?_key_eq_none_iff : table.findIdx? (fun y => key y = k) = none ↔ k ∉ table.map key := by
  simp only [List.findIdx?_eq_none_iff, decide_eq_false_iff_not, List.mem_map, not_exists, not_and]

/-- An update puts its entry among entries with other keys. -/
theorem upsert_middle (hdistinct : (table.map key).Nodup)
    (hupsert : upsert (fun y => key y = k) capacity x table = some table') :
    ∃ before after, table' = before ++ x :: after ∧ k ∉ (before ++ after).map key ∧
      ((before ++ after).map key).Nodup := by
  unfold upsert at hupsert
  cases hfound : table.findIdx? (fun y => key y = k) with
  | some i =>
    obtain ⟨hi, hkey, -⟩ := List.findIdx?_eq_some_iff_getElem.mp hfound
    rw [hfound] at hupsert
    have hset : table' = table.take i ++ x :: table.drop (i + 1) := by
      rw [← Option.some.inj hupsert, List.set_eq_take_append_cons_drop, if_pos hi]
    have htable : table = table.take i ++ table[i] :: table.drop (i + 1) := by
      rw [List.getElem_cons_drop, List.take_append_drop]
    rw [htable, keys_middle, of_decide_eq_true hkey] at hdistinct
    exact ⟨_, _, hset, hdistinct⟩
  | none =>
    rw [hfound] at hupsert
    dsimp only at hupsert
    split at hupsert
    case isTrue =>
      refine ⟨table, [], (Option.some.inj hupsert).symm, ?_, by rwa [List.append_nil]⟩
      rw [List.append_nil]
      exact findIdx?_key_eq_none_iff.mp hfound
    case isFalse => cases hupsert

theorem upsert_eq_none_iff :
    upsert (fun y => key y = k) capacity x table = none ↔ ¬ Takes key capacity k table := by
  rw [Takes, not_or, ← findIdx?_key_eq_none_iff]
  unfold upsert
  cases table.findIdx? (fun y => key y = k) with
  | some i => exact iff_of_false nofun fun h => nomatch h.1
  | none =>
    dsimp only
    split
    case isTrue hroom => exact iff_of_false nofun fun h => h.2 hroom
    case isFalse hfull => exact iff_of_true rfl ⟨rfl, hfull⟩

theorem takes_of_upsert (hupsert : upsert (fun y => key y = k) capacity x table = some table') :
    Takes key capacity k table := by
  by_contra hrefused
  rw [upsert_eq_none_iff.mpr hrefused] at hupsert
  cases hupsert

/-- Behind an update that is taken, the table has the entry under the key exactly if it has that key. -/
theorem upsert_exact_iff {sameRest : α → α → Prop} (hrefl : sameRest x x) (hdistinct : (table.map key).Nodup)
    (hupsert : upsert (fun y => key y = k) capacity x table = some table') :
    ((table'.map key).Nodup ∧ ∃ y, under key k table' = [y] ∧ sameRest y x) ↔ key x = k := by
  obtain ⟨before, after, rfl, hk, hothers⟩ := upsert_middle hdistinct hupsert
  rw [under_middle before after hk, keys_middle]
  constructor
  · rintro ⟨-, y, hy, -⟩
    by_contra hx
    rw [if_neg hx] at hy
    cases hy
  · rintro rfl
    exact ⟨⟨hk, hothers⟩, x, if_pos rfl, hrefl⟩

end Keys

/-! ## Runs -/

/-- A machine seen as a table: what an input asks to be stored under which key, and whether it was. -/
structure TableView (State : Type u) (Input : Type u) (Output : Type u) (α : Type v) (κ : Type v) where
  entries : State → List α
  key : α → κ
  asked : Input → κ
  given : Input → α
  accepted : Output → Bool
  sameRest : α → α → Prop

namespace TableView
section Runs
variable {State Input Output : Type u} {α κ : Type v} [DecidableEq κ] (V : TableView State Input Output α κ)

/-- The keys are distinct, and the entry of the last call, if that was accepted, is the one under its key. -/
structure Exact (past : List (Step State Input Output)) (s : State) : Prop where
  distinct : ((V.entries s).map V.key).Nodup
  stored : ∀ e, past.getLast? = some e → V.accepted e.output = true →
    ∃ x, under V.key (V.asked e.input) (V.entries s) = [x] ∧ V.sameRest x (V.given e.input)

/-- A call that is not refused has one key. -/
def OwnKey (capacity : ℕ) (s : State) (i : Input) : Prop :=
  Takes V.key capacity (V.asked i) (V.entries s) → V.key (V.given i) = V.asked i

/-- In proper states a step is an update, and calls with one key lead from one to the next. -/
structure Upserts (M : Machine State Input Output) (Proper : State → Prop) (capacity : ℕ) : Prop where
  refl : ∀ x, V.sameRest x x
  proper : ∀ s i, Proper s → V.OwnKey capacity s i → Proper (M.step s i).1
  takes : ∀ s i table, Proper s →
    upsert (fun x => V.key x = V.asked i) capacity (V.given i) (V.entries s) = some table →
      V.entries (M.step s i).1 = table ∧ V.accepted (M.step s i).2 = true
  refuses : ∀ s i, Proper s → upsert (fun x => V.key x = V.asked i) capacity (V.given i) (V.entries s) = none →
    V.entries (M.step s i).1 = V.entries s ∧ V.accepted (M.step s i).2 = false

variable {V} {M : Machine State Input Output} {Proper : State → Prop} {capacity : ℕ}

theorem exact_step (hM : V.Upserts M Proper capacity) {past : List (Step State Input Output)} {s : State}
    (hs : Proper s) (h : V.Exact past s) (i : Input) :
    V.Exact (past ++ [M.stepAt s i]) (M.step s i).1 ↔ V.OwnKey capacity s i := by
  have hlast : (past ++ [M.stepAt s i]).getLast? = some (M.stepAt s i) := List.getLast?_concat
  unfold OwnKey
  cases hupsert : upsert (fun x => V.key x = V.asked i) capacity (V.given i) (V.entries s) with
  | none =>
    have hstep := hM.refuses s i hs hupsert
    refine iff_of_true ⟨hstep.1 ▸ h.distinct, ?_⟩ fun htakes => absurd htakes (upsert_eq_none_iff.mp hupsert)
    intro e he haccepted
    rw [← Option.some.inj (hlast.symm.trans he), Machine.stepAt_output, hstep.2] at haccepted
    cases haccepted
  | some table =>
    have hstep := hM.takes s i table hs hupsert
    have htakes : Takes V.key capacity (V.asked i) (V.entries s) := takes_of_upsert hupsert
    rw [← upsert_exact_iff (hM.refl _) h.distinct hupsert, ← hstep.1, forall_prop_of_true htakes]
    constructor
    · exact fun hexact => ⟨hexact.distinct, hexact.stored _ hlast hstep.2⟩
    · rintro ⟨hdistinct, hstored⟩
      refine ⟨hdistinct, fun e he _ => ?_⟩
      rw [← Option.some.inj (hlast.symm.trans he)]
      exact hstored

/-- At every point of a run from an empty table the table is exact if and only if calls have one key. -/
theorem exact_iff (hM : V.Upserts M Proper capacity) {s : State} (hs : Proper s) (hempty : V.entries s = [])
    (calls : List Input) :
    (∀ past, past <+: calls → V.Exact (M.trace s past) (M.run s past)) ↔
      M.Admits (fun _ t i => V.OwnKey capacity t i) s calls := by
  have hproper : ∀ past, M.Admits (fun _ t i => V.OwnKey capacity t i) s past → Proper (M.run s past) :=
    Machine.induction_of_admits (P := fun _ t => Proper t) hs fun _ t i => hM.proper t i
  have hinit : V.Exact [] s := ⟨by rw [hempty]; exact List.nodup_nil, fun _ he => by cases he⟩
  refine Machine.admits_iff_forall_prefix hinit fun past i _ _ hadmits hpast => ?_
  rw [Machine.trace_concat, Machine.run_concat]
  exact exact_step hM (hproper past hadmits) hpast i

end Runs
end TableView
end Mcus.BoundedTable
