import Mathlib.Data.List.Basic

/-! # Files that are written piece by piece

`patch` writes at an offset of a file, as a stream that was positioned there does: nothing for no
data, else the file grows as far as it has to and a gap is filled. A file is assembled from an image
when it is no longer than the image and agrees with it wherever pieces were written. Writing pieces
of the image keeps this, and once every byte has been written the file is the image.
-/

namespace Mcus.Patches
set_option autoImplicit false

universe u
variable {α : Type u} {fill : α} {file data image : List α} {offset i : ℕ} {written : ℕ → Prop}

def patch (fill : α) (file : List α) (offset : ℕ) (data : List α) : List α :=
  if data = [] then file
  else (file.rightpad offset fill).take offset ++ data ++ file.drop (offset + data.length)

@[simp] theorem patch_nil : patch fill file offset [] = file := by
  simp [patch]

theorem length_take_rightpad : ((file.rightpad offset fill).take offset).length = offset := by
  simp only [List.length_take, List.length_rightpad]
  omega

theorem length_patch (hdata : data ≠ []) :
    (patch fill file offset data).length = max file.length (offset + data.length) := by
  rw [patch, if_neg hdata]
  simp only [List.length_append, length_take_rightpad, List.length_drop]
  omega

theorem getElem?_patch_inside (hle : offset ≤ i) (hlt : i < offset + data.length) :
    (patch fill file offset data)[i]? = data[i - offset]? := by
  have hdata : data ≠ [] := List.ne_nil_of_length_pos (by omega)
  have hprefix : ((file.rightpad offset fill).take offset ++ data).length = offset + data.length := by
    rw [List.length_append, length_take_rightpad]
  rw [patch, if_neg hdata, List.getElem?_append_left (by omega),
    List.getElem?_append_right (by rw [length_take_rightpad]; omega), length_take_rightpad]

theorem getElem?_patch_outside (hi : i < file.length) (hout : i < offset ∨ offset + data.length ≤ i) :
    (patch fill file offset data)[i]? = file[i]? := by
  by_cases hdata : data = []
  · rw [hdata, patch_nil]
  · have hprefix : ((file.rightpad offset fill).take offset ++ data).length = offset + data.length := by
      rw [List.length_append, length_take_rightpad]
    rw [patch, if_neg hdata]
    rcases hout with hlt | hle
    · rw [List.getElem?_append_left (by omega),
        List.getElem?_append_left (by rw [length_take_rightpad]; omega), List.getElem?_take_of_lt hlt,
        List.rightpad, List.getElem?_append_left hi]
    · rw [List.getElem?_append_right (by omega), hprefix, List.getElem?_drop]
      congr 1
      omega

/-! ## Assembling an image -/

/-- The piece of the image that a block at `offset` is expected to be. -/
def IsPiece (image : List α) (offset : ℕ) (data : List α) : Prop :=
  data = (image.drop offset).take data.length

theorem IsPiece.getElem? (h : IsPiece image offset data) (hle : offset ≤ i)
    (hlt : i < offset + data.length) : data[i - offset]? = image[i]? := by
  rw [h, List.getElem?_take_of_lt (by omega), List.getElem?_drop]
  congr 1
  omega

theorem IsPiece.le_length (h : IsPiece image offset data) (hdata : data ≠ []) :
    offset + data.length ≤ image.length := by
  have hlength := congrArg List.length h
  have hpos := List.length_pos_iff.mpr hdata
  rw [List.length_take, List.length_drop] at hlength
  omega

structure Assembled (image file : List α) (written : ℕ → Prop) : Prop where
  length_le : file.length ≤ image.length
  bounded : ∀ i, written i → i < image.length
  agrees : ∀ i, written i → file[i]? = image[i]?

theorem assembled_nil : Assembled image [] fun _ => False where
  length_le := Nat.zero_le _
  bounded _ hfalse := hfalse.elim
  agrees _ hfalse := hfalse.elim

theorem Assembled.mono {written' : ℕ → Prop} (h : Assembled image file written)
    (hsub : ∀ i, written' i → written i) : Assembled image file written' where
  length_le := h.length_le
  bounded i hi := h.bounded i (hsub i hi)
  agrees i hi := h.agrees i (hsub i hi)

theorem Assembled.patch (h : Assembled image file written) (hpiece : IsPiece image offset data) :
    Assembled image (patch fill file offset data)
      fun i => written i ∨ (offset ≤ i ∧ i < offset + data.length) where
  length_le := by
    by_cases hdata : data = []
    · rw [hdata, patch_nil]
      exact h.length_le
    · rw [length_patch hdata]
      exact Nat.max_le.mpr ⟨h.length_le, hpiece.le_length hdata⟩
  bounded i hi := by
    rcases hi with hi | ⟨hle, hlt⟩
    · exact h.bounded i hi
    · have hdata : data ≠ [] := List.ne_nil_of_length_pos (by omega)
      exact Nat.lt_of_lt_of_le hlt (hpiece.le_length hdata)
  agrees i hi := by
    by_cases hin : offset ≤ i ∧ i < offset + data.length
    · rw [getElem?_patch_inside hin.1 hin.2]
      exact hpiece.getElem? hin.1 hin.2
    · have hbefore := hi.resolve_right hin
      have hagrees := h.agrees i hbefore
      have hlt : i < file.length := by
        rw [List.getElem?_eq_getElem (h.bounded i hbefore)] at hagrees
        exact (List.getElem?_eq_some_iff.mp hagrees).1
      rw [getElem?_patch_outside hlt (by omega), hagrees]

theorem Assembled.eq_image (h : Assembled image file written) (hall : ∀ i < image.length, written i) :
    file = image := by
  apply List.ext_getElem?
  intro i
  by_cases hi : i < image.length
  · exact h.agrees i (hall i hi)
  · have hlength := h.length_le
    rw [List.getElem?_eq_none (by omega), List.getElem?_eq_none (by omega)]

end Mcus.Patches
