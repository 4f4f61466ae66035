import Mcus.Foundations.Runs
import Mathlib.Data.List.Forall2

/-! # Two machines in lock-step

A relation between the states of two machines that every pair of related inputs keeps, with related
answers, is kept by whole runs.
-/

namespace Mcus.Runs
open List
set_option autoImplicit false

universe u v w u' v' w'

section Related
variable {State : Type u} {Input : Type v} {Output : Type w} {State' : Type u'} {Input' : Type v'}
  {Output' : Type w'}

/-- What the steps answered, in order. -/
def Machine.outputs (M : Machine State Input Output) (s : State) (is : List Input) : List Output :=
  (M.trace s is).map (·.output)

/-- Two machines in lock-step: related inputs lead from related states to related states and give
related answers. -/
theorem Machine.run_related {M : Machine State Input Output} {N : Machine State' Input' Output'}
    {R : State → State' → Prop} {I : Input → Input' → Prop} {O : Output → Output' → Prop}
    (hstep : ∀ s t i j, R s t → I i j → R (M.step s i).1 (N.step t j).1 ∧ O (M.step s i).2 (N.step t j).2)
    {s : State} {t : State'} {is : List Input} {js : List Input'} (hR : R s t) (hI : Forall₂ I is js) :
    R (M.run s is) (N.run t js) ∧ Forall₂ O (M.outputs s is) (N.outputs t js) := by
  induction hI generalizing s t with
  | nil => exact ⟨hR, .nil⟩
  | cons hij _ ih =>
    obtain ⟨hnext, hout⟩ := hstep s t _ _ hR hij
    obtain ⟨hrun, houts⟩ := ih hnext
    exact ⟨hrun, .cons hout houts⟩

end Related
end Mcus.Runs
