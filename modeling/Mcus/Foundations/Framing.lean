import Mathlib.Data.List.TakeDrop
import Mathlib.Order.Basic

/-! # Length-prefixed frames

A stream of elements in which every frame begins with a header of fixed length that declares how many
elements follow. `frames` cuts a stream greedily from the start. A list of complete frames is cut back
into itself, and what is left behind the last complete frame is cut into nothing.

A stream may also be read in pieces that have nothing to do with its frames. `Unread` says where such a
piece ended, and `Unread.take` which frames begin in the next one.
-/

namespace Mcus
set_option autoImplicit false

universe u

structure Framing (α : Type u) where
  header : ℕ
  /-- How many elements a header declares, which only depends on the header. -/
  declared : List α → ℕ
  header_pos : 0 < header
  declared_append : ∀ s rest, header ≤ s.length → declared (s ++ rest) = declared s

namespace Framing
variable {α : Type u} (F : Framing α)

/-- The length of the frame that a stream begins with. -/
def size (s : List α) : ℕ := F.header + F.declared s

def Complete (frame : List α) : Prop := F.size frame = frame.length

instance (frame : List α) : Decidable (F.Complete frame) := inferInstanceAs (Decidable (_ = _))

theorem header_le_size (s : List α) : F.header ≤ F.size s := Nat.le_add_right _ _

theorem size_pos (s : List α) : 0 < F.size s := Nat.lt_of_lt_of_le F.header_pos (F.header_le_size s)

def frames (s : List α) : List (List α) :=
  if _h : F.size s ≤ s.length then s.take (F.size s) :: frames (s.drop (F.size s)) else []
termination_by s.length
decreasing_by
  have hpos := F.size_pos s
  rw [List.length_drop]
  omega

variable {F} {s frame rest : List α}

theorem size_append (hlen : F.header ≤ s.length) : F.size (s ++ rest) = F.size s := by
  rw [size, size, F.declared_append s rest hlen]

theorem frames_of_incomplete (h : ¬ F.size s ≤ s.length) : F.frames s = [] := by
  rw [frames, dif_neg h]

theorem Complete.header_le (h : F.Complete frame) : F.header ≤ frame.length :=
  Nat.le_trans (F.header_le_size frame) (Nat.le_of_eq h)

theorem Complete.size_append (h : F.Complete frame) : F.size (frame ++ rest) = frame.length :=
  (Framing.size_append h.header_le).trans h

theorem complete_take (h : F.size s ≤ s.length) : F.Complete (s.take (F.size s)) := by
  have hlen : (s.take (F.size s)).length = F.size s := List.length_take_of_le h
  have hheader : F.header ≤ (s.take (F.size s)).length := by
    rw [hlen]
    exact F.header_le_size s
  have hsize : F.size (s.take (F.size s) ++ s.drop (F.size s)) = F.size (s.take (F.size s)) :=
    Framing.size_append hheader
  rw [List.take_append_drop] at hsize
  rw [Complete, ← hsize, hlen]

theorem frames_append_of_complete (h : F.Complete frame) (rest : List α) :
    F.frames (frame ++ rest) = frame :: F.frames rest := by
  have hsize : F.size (frame ++ rest) = frame.length := h.size_append
  rw [frames, dif_pos (by rw [hsize, List.length_append]; omega), hsize, List.take_left, List.drop_left]

theorem frames_flatten_append {fs : List (List α)} (h : ∀ f ∈ fs, F.Complete f) (rest : List α) :
    F.frames (fs.flatten ++ rest) = fs ++ F.frames rest := by
  induction fs with
  | nil => rfl
  | cons f fs ih =>
    have hf : F.Complete f := h f (by simp)
    rw [List.flatten_cons, List.append_assoc, frames_append_of_complete hf, ih fun g hg => h g (by simp [hg]),
      List.cons_append]

/-- Every stream is made of its complete frames and a rest that holds none. -/
theorem exists_rest (s : List α) :
    (∀ f ∈ F.frames s, F.Complete f) ∧
      ∃ rest, s = (F.frames s).flatten ++ rest ∧ ¬ F.size rest ≤ rest.length := by
  fun_induction F.frames s with
  | case1 s h ih =>
    obtain ⟨hcomplete, rest, hrest, hshort⟩ := ih
    constructor
    · intro f hf
      rcases List.mem_cons.mp hf with rfl | hf
      · exact complete_take h
      · exact hcomplete f hf
    · refine ⟨rest, ?_, hshort⟩
      rw [List.flatten_cons, List.append_assoc, ← hrest, List.take_append_drop]
  | case2 s h => exact ⟨fun f hf => absurd hf List.not_mem_nil, s, rfl, h⟩

end Framing

/-! ## Reading in pieces -/

/-- Where a list of frames was cut: elements up to the beginning of the next frame, and the frames that
have not begun. -/
structure Unread (α : Type u) where
  skip : ℕ
  frames : List (List α)

namespace Unread
variable {α : Type u}

/-- The frames that begin in the next `n` elements, and where those end. -/
def takeFrom (skip n : ℕ) : List (List α) → List (List α) × Unread α
  | [] => ([], ⟨skip - n, []⟩)
  | f :: fs =>
    if n ≤ skip then ([], ⟨skip - n, f :: fs⟩)
    else
      let r := takeFrom f.length (n - skip) fs
      (f :: r.1, r.2)

def take (u : Unread α) (n : ℕ) : List (List α) × Unread α := takeFrom u.skip n u.frames

theorem take_zero (u : Unread α) : u.take 0 = ([], u) := by
  obtain ⟨skip, fs⟩ := u
  cases fs <;> simp [take, takeFrom]

theorem takeFrom_append (skip n : ℕ) (fs : List (List α)) :
    (takeFrom skip n fs).1 ++ (takeFrom skip n fs).2.frames = fs := by
  induction fs generalizing skip n with
  | nil => rfl
  | cons f fs ih =>
    by_cases hn : n ≤ skip
    · simp only [takeFrom, hn, if_true, List.nil_append]
    · simp only [takeFrom, hn, if_false, List.cons_append, ih]

theorem takeFrom_add (skip m n : ℕ) (fs : List (List α)) :
    takeFrom skip (m + n) fs = ((takeFrom skip m fs).1 ++ ((takeFrom skip m fs).2.take n).1,
      ((takeFrom skip m fs).2.take n).2) := by
  induction fs generalizing skip m with
  | nil => simp only [takeFrom, take, Nat.sub_sub, List.append_nil]
  | cons f fs ih =>
    by_cases hm : m ≤ skip
    · by_cases hmn : m + n ≤ skip
      · have hn : n ≤ skip - m := by omega
        simp only [takeFrom, take, hm, hmn, hn, if_true, Nat.sub_sub, List.append_nil]
      · have hn : ¬ n ≤ skip - m := by omega
        have hleft : m + n - skip = n - (skip - m) := by omega
        simp only [takeFrom, take, hm, hmn, hn, if_true, if_false, hleft, List.nil_append]
    · have hmn : ¬ m + n ≤ skip := by omega
      have hleft : m + n - skip = m - skip + n := by omega
      simp only [takeFrom, hm, hmn, if_false, hleft, ih, List.cons_append]

/-- All frames begin in the stream that they make up. -/
theorem takeFrom_flatten {fs : List (List α)} (hfs : ∀ f ∈ fs, f ≠ []) (skip : ℕ) :
    (takeFrom skip (skip + fs.flatten.length) fs).1 = fs := by
  induction fs generalizing skip with
  | nil => rfl
  | cons f fs ih =>
    have hf : 0 < f.length := List.length_pos_iff.mpr (hfs f (by simp))
    have hmore : ¬ skip + (f :: fs).flatten.length ≤ skip := by
      rw [List.flatten_cons, List.length_append]
      omega
    have hleft : skip + (f :: fs).flatten.length - skip = f.length + fs.flatten.length := by
      rw [List.flatten_cons, List.length_append]
      omega
    rw [takeFrom, if_neg hmore, hleft]
    exact congrArg (f :: ·) (ih (fun g hg => hfs g (by simp [hg])) f.length)

end Unread
end Mcus
