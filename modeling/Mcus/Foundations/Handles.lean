import Mcus.Foundations.Runs

/-! # Handles that are opened and closed

A log of the handles that a resource layer issued and took back. A handle may be issued again once it
was closed, so a resource is an opening in the log and not a handle, and its closings are those in front
of the next opening of the same handle. If no handle is issued while it is open and only open handles are
closed, then every resource was closed exactly once or is still open.
-/

namespace Mcus.Handles
open Runs
set_option autoImplicit false

universe u

inductive HandleEvent (H : Type u)
  | opened (h : H)
  | closed (h : H)
  deriving DecidableEq, Repr

namespace HandleEvent
variable {H : Type u}

def handle : HandleEvent H → H
  | opened h => h
  | closed h => h

def concerns [DecidableEq H] (h : H) (e : HandleEvent H) : Bool := decide (e.handle = h)

theorem concerns_eq_false [DecidableEq H] {h : H} {e : HandleEvent H} (hne : e.handle ≠ h) :
    concerns h e = false := decide_eq_false hne

theorem concerns_opened [DecidableEq H] (h : H) : concerns h (opened h) = true := decide_eq_true rfl

theorem concerns_closed [DecidableEq H] (h : H) : concerns h (closed h) = true := decide_eq_true rfl

theorem handle_ne {h : H} {e : HandleEvent H} (hopened : e ≠ opened h) (hclosed : e ≠ closed h) :
    e.handle ≠ h := by
  cases e with
  | opened k => exact fun hk => hopened (congrArg opened hk)
  | closed k => exact fun hk => hclosed (congrArg closed hk)

end HandleEvent

open HandleEvent

section Log
variable {H : Type u} [DecidableEq H]

/-- The last event of the handle is an opening. -/
def IsOpen (log : List (HandleEvent H)) (h : H) : Prop :=
  lastWhere (concerns h) log = some (opened h)

/-- No handle is issued while it is open. -/
def NeverReissued (log : List (HandleEvent H)) : Prop :=
  ∀ before h after, log = before ++ opened h :: after → ¬ IsOpen before h

/-- Only open handles are closed. -/
def ClosesOpen (log : List (HandleEvent H)) : Prop :=
  ∀ before h after, log = before ++ closed h :: after → IsOpen before h

/-- How often a resource is closed, from what came behind its opening. -/
def timesClosed (h : H) (after : List (HandleEvent H)) : ℕ :=
  (after.takeWhile fun e => decide (e ≠ opened h)).count (closed h)

variable {log before after : List (HandleEvent H)} {h k : H}

theorem not_isOpen_nil : ¬ IsOpen ([] : List (HandleEvent H)) h := by simp [IsOpen]

theorem isOpen_concat_of_ne {e : HandleEvent H} (hne : e.handle ≠ h) :
    IsOpen (log ++ [e]) h ↔ IsOpen log h := by
  unfold IsOpen
  rw [lastWhere_concat_neg (concerns_eq_false hne)]

theorem isOpen_opened : IsOpen (log ++ [opened k]) h ↔ h = k ∨ IsOpen log h := by
  by_cases hk : h = k
  · subst hk
    exact iff_of_true (lastWhere_concat_pos (concerns_opened h) log) (Or.inl rfl)
  · rw [isOpen_concat_of_ne (fun hkh => hk hkh.symm), or_iff_right hk]

theorem isOpen_closed : IsOpen (log ++ [closed k]) h ↔ h ≠ k ∧ IsOpen log h := by
  by_cases hk : h = k
  · subst hk
    refine iff_of_false ?_ fun hne => hne.1 rfl
    unfold IsOpen
    rw [lastWhere_concat_pos (concerns_closed h)]
    simp
  · rw [isOpen_concat_of_ne (fun hkh => hk hkh.symm), and_iff_right hk]

/-! ## One more event -/

omit [DecidableEq H] in
/-- What holds in front of every event of a kind, for one more event. -/
theorem forall_event_concat {kind : H → HandleEvent H} {P : List (HandleEvent H) → H → Prop}
    {e : HandleEvent H} : (∀ before h after, log ++ [e] = before ++ kind h :: after → P before h) ↔
      (∀ before h after, log = before ++ kind h :: after → P before h) ∧ ∀ h, e = kind h → P log h := by
  have hevent (l : List (HandleEvent H)) :
      (∀ before h after, l = before ++ kind h :: after → P before h) ↔
        ∀ before e after, l = before ++ e :: after → ∀ h, e = kind h → P before h := by
    constructor
    · rintro hall before _ after hl h rfl
      exact hall before h after hl
    · exact fun hall before h after hl => hall before _ after hl h rfl
  rw [hevent, hevent, forall_split_concat (P := fun before e => ∀ h, e = kind h → P before h)]

theorem neverReissued_concat {e : HandleEvent H} : NeverReissued (log ++ [e]) ↔
    NeverReissued log ∧ ∀ h, e = opened h → ¬ IsOpen log h :=
  forall_event_concat (P := fun before h => ¬ IsOpen before h)

theorem closesOpen_concat {e : HandleEvent H} : ClosesOpen (log ++ [e]) ↔
    ClosesOpen log ∧ ∀ h, e = closed h → IsOpen log h := forall_event_concat

theorem ClosesOpen.opened (hcloses : ClosesOpen log) (h : H) : ClosesOpen (log ++ [.opened h]) :=
  closesOpen_concat.mpr ⟨hcloses, fun _ hclosed => nomatch hclosed⟩

theorem ClosesOpen.closed (hcloses : ClosesOpen log) (hopen : IsOpen log h) :
    ClosesOpen (log ++ [.closed h]) := by
  refine closesOpen_concat.mpr ⟨hcloses, fun _ hclosed => ?_⟩
  cases hclosed
  exact hopen

theorem closesOpen_nil : ClosesOpen ([] : List (HandleEvent H)) := fun _ _ _ hl => by simp at hl

theorem neverReissued_nil : NeverReissued ([] : List (HandleEvent H)) := fun _ _ _ hl => by simp at hl

theorem NeverReissued.of_append (hlog : NeverReissued (log ++ after)) : NeverReissued log := by
  intro before h rest hl
  refine hlog before h (rest ++ after) ?_
  rw [hl, List.append_assoc, List.cons_append]

/-! ## The closings of one resource -/

theorem timesClosed_concat_reopened (hmem : opened h ∈ after) (e : HandleEvent H) :
    timesClosed h (after ++ [e]) = timesClosed h after := by
  unfold timesClosed
  rw [List.takeWhile_append, if_neg]
  intro hlen
  have hall := List.takeWhile_eq_self_iff.mp ((List.takeWhile_prefix _).eq_of_length hlen)
  exact absurd rfl (of_decide_eq_true (hall _ hmem))

theorem timesClosed_concat (hmem : opened h ∉ after) (e : HandleEvent H) :
    timesClosed h (after ++ [e]) = timesClosed h after + if e = closed h then 1 else 0 := by
  have hall : (after.takeWhile fun e => decide (e ≠ opened h)) = after :=
    List.takeWhile_eq_self_iff.mpr fun x hx => decide_eq_true fun hxh => hmem (hxh ▸ hx)
  unfold timesClosed
  rw [List.takeWhile_append, hall, if_pos rfl, List.count_append]
  congr 1
  by_cases hopened : e = opened h
  · subst hopened
    simp
  · simp [List.takeWhile, hopened, List.count_cons]

/-- What became of a resource: it was closed once, or it is open and was never closed. -/
theorem timesClosed_of_split (hissue : NeverReissued (before ++ opened h :: after))
    (hclose : ClosesOpen (before ++ opened h :: after)) :
    (timesClosed h after = 1 ∧ (opened h ∈ after ∨ ¬ IsOpen (before ++ opened h :: after) h)) ∨
      (timesClosed h after = 0 ∧ opened h ∉ after ∧ IsOpen (before ++ opened h :: after) h) := by
  induction after using List.reverseRecOn with
  | nil => exact Or.inr ⟨rfl, List.not_mem_nil, isOpen_opened.mpr (Or.inl rfl)⟩
  | append_singleton after e ih =>
    rw [← List.cons_append, ← List.append_assoc] at hissue hclose ⊢
    obtain ⟨hissue, hopened⟩ := neverReissued_concat.mp hissue
    obtain ⟨hclose, hclosed⟩ := closesOpen_concat.mp hclose
    rcases ih hissue hclose with ⟨hone, hre | hshut⟩ | ⟨hzero, hmem, hopen⟩
    · exact Or.inl ⟨(timesClosed_concat_reopened hre e).trans hone, Or.inl (List.mem_append_left _ hre)⟩
    · by_cases hmem : opened h ∈ after
      · exact Or.inl ⟨(timesClosed_concat_reopened hmem e).trans hone, Or.inl (List.mem_append_left _ hmem)⟩
      have hne : e ≠ closed h := fun he => hshut (hclosed h he)
      rw [timesClosed_concat hmem, if_neg hne, hone]
      refine Or.inl ⟨rfl, ?_⟩
      by_cases he : e = opened h
      · exact Or.inl (by simp [he])
      · exact Or.inr (mt (isOpen_concat_of_ne (handle_ne he hne)).mp hshut)
    · rw [timesClosed_concat hmem, hzero]
      have hre : e ≠ opened h := fun he => hopened h he hopen
      by_cases he : e = closed h
      · subst he
        exact Or.inl ⟨by simp, Or.inr fun hopen => (isOpen_closed.mp hopen).1 rfl⟩
      · refine Or.inr ⟨by simp [he], ?_, (isOpen_concat_of_ne (handle_ne hre he)).mpr hopen⟩
        simpa [hmem] using fun hh => hre hh.symm

/-- **Every resource is closed exactly once, or open and never closed.** -/
theorem closed_once_or_open (hissue : NeverReissued log) (hclose : ClosesOpen log)
    (hlog : log = before ++ opened h :: after) :
    timesClosed h after = 1 ∨ (timesClosed h after = 0 ∧ opened h ∉ after ∧ IsOpen log h) := by
  subst hlog
  exact (timesClosed_of_split hissue hclose).imp And.left id

end Log
end Mcus.Handles
