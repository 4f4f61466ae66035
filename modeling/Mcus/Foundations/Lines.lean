import Mathlib.Data.List.Basic

/-! # Texts of lines

A text is a row of lines, each with a separator behind it, and perhaps a line that is not complete. The
complete lines of a part of a text are the first ones of the whole.
-/

namespace Mcus.Lines
set_option autoImplicit false

universe u

variable {α : Type u} {sep : α}

/-- The text of a row of lines. -/
def ofLines (sep : α) (lines : List (List α)) : List α := lines.flatMap fun line => line ++ [sep]

theorem ofLines_eq_intercalate (sep : α) (lines : List (List α)) :
    ofLines sep lines = [sep].intercalate (lines ++ [[]]) := by
  induction lines with
  | nil => rfl
  | cons line lines ih =>
    have hne : lines ++ [[]] ≠ [] := by simp
    rw [ofLines, List.flatMap_cons, ← ofLines, ih, List.cons_append, List.intercalate_cons_of_ne_nil hne,
      List.append_assoc]

theorem dropLast_modifyHead {f : List α → List α} (lines : List (List α)) :
    (lines.modifyHead f).dropLast = lines.dropLast.modifyHead f := by
  match lines with
  | [] => rfl
  | [_] => rfl
  | _ :: _ :: _ => rfl

theorem modifyHead_prefix {f : List α → List α} {lines lines' : List (List α)} (h : lines <+: lines') :
    lines.modifyHead f <+: lines'.modifyHead f := by
  obtain ⟨rest, rfl⟩ := h
  cases lines with
  | nil => exact List.nil_prefix
  | cons line lines => exact ⟨rest, rfl⟩

section Split
variable [BEq α]

def completeLines (sep : α) (text : List α) : List (List α) := (text.splitOn sep).dropLast

/-- More text leaves the lines that were complete. -/
theorem completeLines_mono (text behind : List α) :
    completeLines sep text <+: completeLines sep (text ++ behind) := by
  induction text with
  | nil => exact List.nil_prefix
  | cons x text ih =>
    rw [List.cons_append, completeLines, completeLines, List.splitOn_cons_eq_if_modifyHead,
      List.splitOn_cons_eq_if_modifyHead]
    split
    · rw [List.dropLast_cons_of_ne_nil (List.splitOn_ne_nil _ _),
        List.dropLast_cons_of_ne_nil (List.splitOn_ne_nil _ _)]
      exact List.prefix_cons_inj _ |>.mpr ih
    · rw [dropLast_modifyHead, dropLast_modifyHead]
      exact modifyHead_prefix ih

variable [LawfulBEq α]

theorem completeLines_ofLines {lines : List (List α)} (h : ∀ line ∈ lines, sep ∉ line) :
    completeLines sep (ofLines sep lines) = lines := by
  rw [completeLines, ofLines_eq_intercalate, List.splitOn_intercalate sep ?_ (by simp), List.dropLast_concat]
  intro line hline
  rcases List.mem_append.mp hline with hline | hline
  · exact h line hline
  · rw [List.mem_singleton.mp hline]
    exact List.not_mem_nil

end Split
end Mcus.Lines
