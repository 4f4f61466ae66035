import Mathlib.Data.List.DropRight

/-! # Runs of a deterministic machine

A machine answers inputs one at a time. `run` is the state a list of inputs leads to and `trace`
lists the steps taken on the way, each with the states around it, its input and its output, so
that a property may speak about the past of a step. A property of whole runs is proved once per
step: `induction` carries a predicate on history and state along every run, and
`induction_of_admits` along every run whose steps meet a condition. `lastWhere` and `sinceLast`
find the last marked step of a history and what came behind it. `runAlone` is the run that one of
several participants would have made without the others.
-/

namespace Mcus.Runs
set_option autoImplicit false

universe u v w x

/-- What holds of every element and of those before it, for one more element. -/
theorem forall_split_concat {α : Type u} {P : List α → α → Prop} {l : List α} {x : α} :
    (∀ before e after, l ++ [x] = before ++ e :: after → P before e) ↔
      (∀ before e after, l = before ++ e :: after → P before e) ∧ P l x := by
  constructor
  · intro hall
    refine ⟨fun before e after hl => hall before e (after ++ [x]) ?_, hall l x [] rfl⟩
    rw [hl, List.append_assoc, List.cons_append]
  · rintro ⟨hall, hx⟩ before e after hl
    rcases List.eq_nil_or_concat after with rfl | ⟨after, y, rfl⟩
    · obtain ⟨rfl, hxe⟩ := List.append_inj' hl rfl
      obtain rfl : x = e := by simpa using hxe
      exact hx
    · rw [List.concat_eq_append, ← List.cons_append, ← List.append_assoc] at hl
      exact hall before e after (List.append_inj' hl rfl).1

structure Machine (State : Type u) (Input : Type v) (Output : Type w) where
  step : State → Input → State × Output

structure Step (State : Type u) (Input : Type v) (Output : Type w) where
  pre : State
  input : Input
  output : Output
  post : State

namespace Machine
variable {State : Type u} {Input : Type v} {Output : Type w} (M : Machine State Input Output)

def stepAt (s : State) (i : Input) : Step State Input Output :=
  ⟨s, i, (M.step s i).2, (M.step s i).1⟩

@[simp] theorem stepAt_pre (s : State) (i : Input) : (M.stepAt s i).pre = s := rfl
@[simp] theorem stepAt_input (s : State) (i : Input) : (M.stepAt s i).input = i := rfl
@[simp] theorem stepAt_output (s : State) (i : Input) : (M.stepAt s i).output = (M.step s i).2 := rfl
@[simp] theorem stepAt_post (s : State) (i : Input) : (M.stepAt s i).post = (M.step s i).1 := rfl

def run (s : State) : List Input → State
  | [] => s
  | i :: is => run (M.step s i).1 is

def trace (s : State) : List Input → List (Step State Input Output)
  | [] => []
  | i :: is => M.stepAt s i :: trace (M.step s i).1 is

@[simp] theorem run_nil (s : State) : M.run s [] = s := rfl
@[simp] theorem trace_nil (s : State) : M.trace s [] = [] := rfl

theorem run_cons (s : State) (i : Input) (is : List Input) :
    M.run s (i :: is) = M.run (M.step s i).1 is := rfl

theorem trace_cons (s : State) (i : Input) (is : List Input) :
    M.trace s (i :: is) = M.stepAt s i :: M.trace (M.step s i).1 is := rfl

theorem run_append (s : State) (is js : List Input) :
    M.run s (is ++ js) = M.run (M.run s is) js := by
  induction is generalizing s with
  | nil => rfl
  | cons i is ih => exact ih (M.step s i).1

theorem trace_append (s : State) (is js : List Input) :
    M.trace s (is ++ js) = M.trace s is ++ M.trace (M.run s is) js := by
  induction is generalizing s with
  | nil => rfl
  | cons i is ih => rw [List.cons_append, trace_cons, ih, trace_cons, run_cons, List.cons_append]

theorem run_concat (s : State) (is : List Input) (i : Input) :
    M.run s (is ++ [i]) = (M.step (M.run s is) i).1 := M.run_append s is [i]

theorem trace_concat (s : State) (is : List Input) (i : Input) :
    M.trace s (is ++ [i]) = M.trace s is ++ [M.stepAt (M.run s is) i] := M.trace_append s is [i]

theorem trace_map_input (s : State) (is : List Input) : (M.trace s is).map (·.input) = is := by
  induction is generalizing s with
  | nil => rfl
  | cons i is ih => rw [trace_cons, List.map_cons, ih, stepAt_input]

theorem trace_take (s : State) (is : List Input) (k : ℕ) :
    M.trace s (is.take k) = (M.trace s is).take k := by
  induction is generalizing s k with
  | nil => simp
  | cons i is ih =>
    cases k with
    | zero => simp
    | succ k => rw [List.take_succ_cons, trace_cons, trace_cons, List.take_succ_cons, ih]

theorem input_mem_of_mem_trace {s : State} {is : List Input} {e : Step State Input Output}
    (he : e ∈ M.trace s is) : e.input ∈ is := by
  rw [← M.trace_map_input s is]
  exact List.mem_map_of_mem he

theorem eq_stepAt_of_mem_trace {s : State} {is : List Input} {e : Step State Input Output}
    (he : e ∈ M.trace s is) : ∃ t i, e = M.stepAt t i := by
  induction is generalizing s with
  | nil => exact absurd he List.not_mem_nil
  | cons i is ih =>
    rcases List.mem_cons.mp he with rfl | he
    · exact ⟨s, i, rfl⟩
    · exact ih he

/-! ## Carrying a predicate along a run -/

/-- Every step of the run meets `C`, which sees the history, the state before and the input. -/
def Admits (C : List (Step State Input Output) → State → Input → Prop) (s : State)
    (is : List Input) : Prop :=
  ∀ past i rest, is = past ++ i :: rest → C (M.trace s past) (M.run s past) i

variable {M}

theorem Admits.of_append {C : List (Step State Input Output) → State → Input → Prop} {s : State}
    {is js : List Input} (h : M.Admits C s (is ++ js)) : M.Admits C s is := by
  intro past j rest hp
  refine h past j (rest ++ js) ?_
  rw [hp, List.append_assoc, List.cons_append]

theorem admits_nil {C : List (Step State Input Output) → State → Input → Prop} {s : State} :
    M.Admits C s [] := fun _ _ _ hp => absurd hp (by simp)

theorem admits_concat {C : List (Step State Input Output) → State → Input → Prop} {s : State}
    {is : List Input} {i : Input} :
    M.Admits C s (is ++ [i]) ↔ M.Admits C s is ∧ C (M.trace s is) (M.run s is) i :=
  forall_split_concat

/-- A predicate that holds at the start and survives every step meeting `C` holds along every run
whose steps all meet `C`. -/
theorem induction_of_admits {C : List (Step State Input Output) → State → Input → Prop}
    {P : List (Step State Input Output) → State → Prop} {s : State} (h0 : P [] s)
    (hstep : ∀ past t i, P past t → C past t i → P (past ++ [M.stepAt t i]) (M.stepAt t i).post) :
    ∀ is, M.Admits C s is → P (M.trace s is) (M.run s is) := by
  intro is
  induction is using List.reverseRecOn with
  | nil => exact fun _ => h0
  | append_singleton is i ih =>
    intro h
    obtain ⟨hpast, hlast⟩ := admits_concat.mp h
    rw [trace_concat, run_concat]
    exact hstep _ _ i (ih hpast) hlast

theorem induction {P : List (Step State Input Output) → State → Prop} {s : State} (h0 : P [] s)
    (hstep : ∀ past t i, P past t → P (past ++ [M.stepAt t i]) (M.stepAt t i).post) (is : List Input) :
    P (M.trace s is) (M.run s is) :=
  induction_of_admits (C := fun _ _ _ => True) h0 (fun past t i h _ => hstep past t i h) is
    (fun _ _ _ _ => trivial)

/-- Two conditions that agree wherever an invariant holds admit the same runs. -/
theorem admits_iff_of_invariant {C D : List (Step State Input Output) → State → Input → Prop}
    {P : List (Step State Input Output) → State → Prop} {s : State} (h0 : P [] s)
    (hagree : ∀ past t i, P past t → (C past t i ↔ D past t i))
    (hstep : ∀ past t i, P past t → D past t i → P (past ++ [M.stepAt t i]) (M.stepAt t i).post)
    (is : List Input) : M.Admits C s is ↔ M.Admits D s is := by
  induction is using List.reverseRecOn with
  | nil => exact iff_of_true admits_nil admits_nil
  | append_singleton is i ih =>
    rw [admits_concat, admits_concat, ih]
    refine and_congr_right fun hD => ?_
    exact hagree _ _ i (induction_of_admits h0 hstep is hD)

/-- A property of histories that every further step keeps exactly if it meets `C` holds of all
histories of a run exactly if its steps all meet `C`. -/
theorem admits_iff_forall_prefix {C : List (Step State Input Output) → State → Input → Prop}
    {P : List Input → Prop} {s : State} {is : List Input} (h0 : P [])
    (hstep : ∀ past i rest, is = past ++ i :: rest → M.Admits C s past → P past →
      (P (past ++ [i]) ↔ C (M.trace s past) (M.run s past) i)) :
    (∀ past, past <+: is → P past) ↔ M.Admits C s is := by
  induction is using List.reverseRecOn with
  | nil => exact iff_of_true (fun past hpast => List.prefix_nil.mp hpast ▸ h0) admits_nil
  | append_singleton is i ih =>
    have ih' := ih fun past j rest hp => hstep past j (rest ++ [i]) (by simp [hp])
    have hlast := hstep is i [] rfl
    rw [admits_concat, ← ih']
    constructor
    · intro h
      have his : ∀ past, past <+: is → P past :=
        fun past hpast => h past (hpast.trans (List.prefix_append _ _))
      exact ⟨his, (hlast (ih'.mp his) (his is (List.prefix_refl _))).mp (h _ (List.prefix_refl _))⟩
    · rintro ⟨his, hi⟩ past hpast
      rcases List.prefix_concat_iff.mp hpast with rfl | hpast
      · exact (hlast (ih'.mp his) (his is (List.prefix_refl _))).mpr hi
      · exact his past hpast

/-! ## One participant alone -/

section Alone
variable {ι : Type x} [DecidableEq ι] (M) (owner : Input → ι) (c : ι) (s : State)

/-- Where the inputs of one participant lead to, without those of the others. -/
def runAlone (past : List (Step State Input Output)) : State :=
  M.run s ((past.map (·.input)).filter fun i => owner i = c)

theorem runAlone_concat (past : List (Step State Input Output)) (e : Step State Input Output) :
    M.runAlone owner c s (past ++ [e]) =
      if owner e.input = c then (M.step (M.runAlone owner c s past) e.input).1
      else M.runAlone owner c s past := by
  by_cases howner : owner e.input = c
  · simp [runAlone, howner, run_concat]
  · simp [runAlone, howner]

end Alone

section Decide
variable {C : State → Input → Prop}

theorem admits_cons {s : State} {i : Input} {is : List Input} :
    M.Admits (fun _ => C) s (i :: is) ↔ C s i ∧ M.Admits (fun _ => C) (M.step s i).1 is := by
  constructor
  · intro h
    refine ⟨h [] i is rfl, fun past j rest hp => ?_⟩
    exact h (i :: past) j rest (by rw [hp, List.cons_append])
  · rintro ⟨hi, his⟩ past j rest hp
    cases past with
    | nil =>
      obtain ⟨rfl, -⟩ := List.cons.inj hp
      exact hi
    | cons k past =>
      obtain ⟨rfl, htail⟩ := List.cons.inj hp
      exact his past j rest htail

instance decideAdmits [∀ s i, Decidable (C s i)] : ∀ is s, Decidable (M.Admits (fun _ => C) s is)
  | [], _ => .isTrue admits_nil
  | i :: is, s =>
    haveI := decideAdmits is (M.step s i).1
    decidable_of_iff _ (admits_cons (i := i)).symm

end Decide

theorem admits_iff_forall {C : Input → Prop} {s : State} {is : List Input} :
    M.Admits (fun _ _ i => C i) s is ↔ ∀ i ∈ is, C i := by
  constructor
  · intro h i hi
    obtain ⟨past, rest, he⟩ := List.append_of_mem hi
    exact h past i rest he
  · intro h past i rest he
    exact h i (by simp [he])

end Machine

/-! ## The last marked element of a history -/

section History
variable {α : Type u} (p : α → Bool)

/-- The last element that satisfies `p`. -/
def lastWhere (l : List α) : Option α := (l.filter p).getLast?

/-- The elements behind the last one that satisfies `p`. -/
def sinceLast (l : List α) : List α := l.rtakeWhile fun x => !p x

@[simp] theorem lastWhere_nil : lastWhere p [] = none := rfl
@[simp] theorem sinceLast_nil : sinceLast p [] = [] := rfl

variable {p}

theorem lastWhere_concat_pos {x : α} (hx : p x = true) (l : List α) :
    lastWhere p (l ++ [x]) = some x := by
  simp [lastWhere, List.filter_append, hx]

theorem lastWhere_concat_neg {x : α} (hx : p x = false) (l : List α) :
    lastWhere p (l ++ [x]) = lastWhere p l := by
  simp [lastWhere, List.filter_append, hx]

theorem sinceLast_concat_pos {x : α} (hx : p x = true) (l : List α) : sinceLast p (l ++ [x]) = [] :=
  List.rtakeWhile_concat_neg _ _ _ (by simp [hx])

theorem sinceLast_concat_neg {x : α} (hx : p x = false) (l : List α) :
    sinceLast p (l ++ [x]) = sinceLast p l ++ [x] :=
  List.rtakeWhile_concat_pos _ _ _ (by simp [hx])

theorem sinceLast_append {l m : List α} (hm : ∀ x ∈ m, p x = false) :
    sinceLast p (l ++ m) = sinceLast p l ++ m := by
  induction m using List.reverseRecOn with
  | nil => simp
  | append_singleton m x ih =>
    have hx : p x = false := hm x (by simp)
    rw [← List.append_assoc, sinceLast_concat_neg hx, ih fun y hy => hm y (by simp [hy]),
      List.append_assoc]

theorem mem_of_mem_sinceLast {x : α} {l : List α} (h : x ∈ sinceLast p l) : x ∈ l :=
  (List.rtakeWhile_suffix _ _).subset h

theorem mem_of_lastWhere {x : α} {l : List α} (h : lastWhere p l = some x) : x ∈ l ∧ p x = true :=
  List.mem_filter.mp (List.mem_of_getLast? h)

theorem exists_lastWhere {x : α} {l : List α} (hx : x ∈ l) (hp : p x = true) :
    ∃ y, lastWhere p l = some y := by
  have hne : l.filter p ≠ [] := List.ne_nil_of_mem (List.mem_filter.mpr ⟨hx, hp⟩)
  exact ⟨_, List.getLast?_eq_some_getLast hne⟩

/-- The last element that satisfies `q` is behind the last one that satisfies `p` if any is. -/
theorem exists_lastWhere_sinceLast {q : α → Bool} {x : α} {l : List α} (hx : x ∈ sinceLast p l)
    (hq : q x = true) : ∃ y ∈ sinceLast p l, lastWhere q l = some y := by
  obtain ⟨pre, hl⟩ := List.rtakeWhile_suffix (fun x => !p x) l
  have hne : (sinceLast p l).filter q ≠ [] := List.ne_nil_of_mem (List.mem_filter.mpr ⟨hx, hq⟩)
  have hlast := List.getLast?_eq_some_getLast hne
  refine ⟨_, (List.mem_filter.mp (List.mem_of_getLast? hlast)).1, ?_⟩
  have hsplit : l.filter q = pre.filter q ++ (sinceLast p l).filter q := by
    rw [← List.filter_append]
    exact congrArg (List.filter q) hl.symm
  rw [← hlast, lastWhere, hsplit]
  exact List.getLast?_append_of_ne_nil _ hne

/-- An element that satisfies `q` came behind the last one that satisfies `p`. -/
def MarkedSince (p q : α → Bool) (l : List α) : Prop := ∃ x ∈ sinceLast p l, q x = true

variable {q : α → Bool}

theorem not_markedSince_nil : ¬ MarkedSince p q [] := by simp [MarkedSince]

theorem not_markedSince_concat {x : α} (hx : p x = true) (l : List α) :
    ¬ MarkedSince p q (l ++ [x]) := by
  rw [MarkedSince, sinceLast_concat_pos hx]
  simp

theorem markedSince_concat {x : α} (hx : p x = false) (l : List α) :
    MarkedSince p q (l ++ [x]) ↔ MarkedSince p q l ∨ q x = true := by
  rw [MarkedSince, MarkedSince, sinceLast_concat_neg hx]
  simp only [List.mem_append, List.mem_singleton]
  constructor
  · rintro ⟨y, hy | rfl, hq⟩
    · exact Or.inl ⟨y, hy, hq⟩
    · exact Or.inr hq
  · rintro (⟨y, hy, hq⟩ | hq)
    · exact ⟨y, Or.inl hy, hq⟩
    · exact ⟨x, Or.inr rfl, hq⟩

theorem markedSince_concat_of_unmarked {x : α} (hx : q x = false) {l : List α}
    (h : MarkedSince p q (l ++ [x])) : MarkedSince p q l := by
  cases hp : p x with
  | true => exact absurd h (not_markedSince_concat hp l)
  | false => exact ((markedSince_concat hp l).mp h).resolve_right (by simp [hx])

end History
end Mcus.Runs
