import Mathlib.Data.Nat.Notation

/-! # Attempts that restart

An attempt either finishes with a result or starts over from a new state. `Finishes step n s Q` says
that at most `n` attempts from `s` on finish with a result in `Q`. The rules are those of a total
correctness logic for such loops: unfold one attempt, weaken the bound or the result, and put a
second stage behind a first one, where every restart of the second stage costs a whole first stage.
-/

namespace Mcus.Restart
set_option autoImplicit false

universe u v w

inductive Outcome (State : Type u) (Result : Type v)
  | restart (s : State)
  | finish (r : Result)
  deriving DecidableEq, Repr

/-- One attempt of the first stage and, if that finishes, one of the second. -/
def Outcome.bind {State : Type u} {Mid : Type v} {Result : Type w} :
    Outcome State Mid → (Mid → Outcome State Result) → Outcome State Result
  | .restart s, _ => .restart s
  | .finish m, second => second m

theorem Outcome.restart_not_finish {State : Type u} {Result : Type v} {o : Outcome State Result}
    {s : State} {r : Result} (hs : o = .restart s) (hr : o = .finish r) : False := by
  rw [hs] at hr
  cases hr

section Finishes
variable {State : Type u} {Result : Type v} (step : State → Outcome State Result)

/-- At most `n` attempts from `s` on finish, with a result in `Q`. -/
def Finishes : ℕ → State → (Result → Prop) → Prop
  | 0, _, _ => False
  | n + 1, s, Q =>
    match step s with
    | .restart s' => Finishes n s' Q
    | .finish r => Q r

variable {step} {n m : ℕ} {s s' : State} {Q Q' : Result → Prop}

theorem finishes_of_finish {r : Result} (hs : step s = .finish r) (hr : Q r) :
    Finishes step (n + 1) s Q := by
  rw [Finishes, hs]
  exact hr

theorem finishes_of_restart (hs : step s = .restart s') (h : Finishes step n s' Q) :
    Finishes step (n + 1) s Q := by
  rw [Finishes, hs]
  exact h

theorem finishes_of_cases (hfinish : ∀ r, step s = .finish r → Q r)
    (hrestart : ∀ s', step s = .restart s' → Finishes step n s' Q) : Finishes step (n + 1) s Q := by
  cases hs : step s with
  | restart s' => exact finishes_of_restart hs (hrestart s' hs)
  | finish r => exact finishes_of_finish hs (hfinish r hs)

theorem Finishes.mono (h : Finishes step n s Q) (hle : n ≤ m) : Finishes step m s Q := by
  induction n generalizing s m with
  | zero => exact absurd h id
  | succ n ih =>
    cases m with
    | zero => exact absurd hle (Nat.not_succ_le_zero n)
    | succ m =>
      rw [Finishes] at h ⊢
      cases hs : step s with
      | restart s' =>
        rw [hs] at h
        exact ih h (Nat.le_of_succ_le_succ hle)
      | finish r =>
        rw [hs] at h
        exact h

/-- An invariant of the restarts replaces the result by whatever it gives at the end. -/
theorem Finishes.of_invariant {I : State → Prop} (h : Finishes step n s Q) (hs : I s)
    (hrestart : ∀ t t', I t → step t = .restart t' → I t')
    (hfinish : ∀ t r, I t → step t = .finish r → Q' r) : Finishes step n s Q' := by
  induction n generalizing s with
  | zero => exact h
  | succ n ih =>
    rw [Finishes] at h ⊢
    cases hstep : step s with
    | restart s' =>
      rw [hstep] at h
      exact ih h (hrestart s s' hs hstep)
    | finish r => exact hfinish s r hs hstep

end Finishes

section Stages
variable {State : Type u} {Mid : Type v} {Result : Type w} {first : State → Outcome State Mid}
  {second : Mid → Outcome State Result} {n m : ℕ} {s : State} {P : Mid → Prop} {Q : Result → Prop}

/-- If the first stage finishes within `n` attempts, and whatever it hands on either finishes the
second stage or restarts with `m` attempts to go, then `n + m` attempts finish both. -/
theorem finishes_bind (hfirst : Finishes first n s P)
    (hfinish : ∀ p r, P p → second p = .finish r → Q r)
    (hrestart : ∀ p s', P p → second p = .restart s' →
      Finishes (fun s => (first s).bind second) m s' Q) :
    Finishes (fun s => (first s).bind second) (n + m) s Q := by
  induction n generalizing s with
  | zero => exact absurd hfirst id
  | succ n ih =>
    rw [Finishes] at hfirst
    rw [Nat.succ_add]
    cases hs : first s with
    | restart s' =>
      rw [hs] at hfirst
      have hbind : (first s).bind second = .restart s' := by rw [hs]; rfl
      exact finishes_of_restart hbind (ih hfirst)
    | finish p =>
      rw [hs] at hfirst
      have hbind : (first s).bind second = second p := by rw [hs]; rfl
      cases hp : second p with
      | restart s' =>
        exact finishes_of_restart (hbind.trans hp) ((hrestart p s' hfirst hp).mono (Nat.le_add_left m n))
      | finish r => exact finishes_of_finish (hbind.trans hp) (hfinish p r hfirst hp)

end Stages
end Mcus.Restart
