import Mathlib.Data.Nat.Notation

/-! # Strings that end in a NUL

A character array holds the string in front of its first zero byte. `strcmp` walks two of them until
they differ or end; the end of a list stands for a zero byte. `strncpy` fills an array with zeros behind a
string, and leaves no zero where the string fills it.
-/

namespace Mcus.CString
set_option autoImplicit false

/-- The string that a character array holds. -/
def cString (bytes : List UInt8) : List UInt8 := bytes.takeWhile (· != 0)

def strcmp : List UInt8 → List UInt8 → Int
  | [], [] => 0
  | [], y :: _ => -(y.toNat : Int)
  | x :: _, [] => x.toNat
  | x :: a, y :: b => if x ≠ y then (x.toNat : Int) - y.toNat else if x = 0 then 0 else strcmp a b

theorem toNat_eq_zero_iff {x : UInt8} : x.toNat = 0 ↔ x = 0 :=
  ⟨fun h => UInt8.toNat_inj.mp h, fun h => congrArg UInt8.toNat h⟩

theorem cString_cons_zero (bytes : List UInt8) : cString (0 :: bytes) = [] := rfl

theorem cString_cons {x : UInt8} (hx : x ≠ 0) (bytes : List UInt8) : cString (x :: bytes) = x :: cString bytes :=
  List.takeWhile_cons_of_pos (by simpa using hx)

/-- `strcmp` tells apart exactly the strings, not what lies behind them. -/
theorem strcmp_eq_zero_iff (a b : List UInt8) : strcmp a b = 0 ↔ cString a = cString b := by
  induction a generalizing b with
  | nil =>
    cases b with
    | nil => exact iff_of_true rfl rfl
    | cons y b =>
      rw [strcmp, Int.neg_eq_zero, Int.natCast_eq_zero, toNat_eq_zero_iff]
      by_cases hy : y = 0
      · rw [hy]
        exact iff_of_true rfl rfl
      · rw [cString_cons hy]
        exact iff_of_false hy (List.cons_ne_nil _ _).symm
  | cons x a ih =>
    cases b with
    | nil =>
      rw [strcmp, Int.natCast_eq_zero, toNat_eq_zero_iff]
      by_cases hx : x = 0
      · rw [hx]
        exact iff_of_true rfl rfl
      · rw [cString_cons hx]
        exact iff_of_false hx (List.cons_ne_nil _ _)
    | cons y b =>
      rw [strcmp]
      by_cases hxy : x = y
      · subst hxy
        rw [if_neg fun hne => hne rfl]
        by_cases hx : x = 0
        · rw [if_pos hx, hx]
          exact iff_of_true rfl rfl
        · rw [if_neg hx, cString_cons hx, cString_cons hx, ih b, List.cons_inj_right]
      · rw [if_pos hxy]
        have hne : x.toNat ≠ y.toNat := fun h => hxy (UInt8.toNat_inj.mp h)
        refine iff_of_false (by omega) ?_
        by_cases hx : x = 0
        · have hy : y ≠ 0 := fun hy => hxy (hx.trans hy.symm)
          rw [hx, cString_cons_zero, cString_cons hy]
          exact (List.cons_ne_nil _ _).symm
        · rw [cString_cons hx]
          by_cases hy : y = 0
          · rw [hy, cString_cons_zero]
            exact List.cons_ne_nil _ _
          · rw [cString_cons hy]
            exact fun h => hxy (List.cons.inj h).1

theorem cString_length_le (bytes : List UInt8) : (cString bytes).length ≤ bytes.length :=
  (List.takeWhile_prefix _).length_le

/-- A zero ends the string, whatever follows it. -/
theorem cString_cut (bytes rest : List UInt8) : cString (bytes ++ 0 :: rest) = cString bytes := by
  induction bytes with
  | nil => rfl
  | cons x bytes ih =>
    by_cases hx : x = 0
    · rw [hx]
      rfl
    · rw [List.cons_append, cString_cons hx, cString_cons hx, ih]

theorem cString_append_of_mem {bytes : List UInt8} (h : 0 ∈ bytes) (rest : List UInt8) :
    cString (bytes ++ rest) = cString bytes := by
  obtain ⟨before, after, rfl⟩ := List.append_of_mem h
  rw [List.append_assoc, List.cons_append, cString_cut, cString_cut]

theorem zero_notMem_cString (src : List UInt8) : 0 ∉ cString src := by
  induction src with
  | nil => exact List.not_mem_nil
  | cons x src ih =>
    by_cases hx : x = 0
    · rw [hx, cString_cons_zero]
      exact List.not_mem_nil
    · rw [cString_cons hx, List.mem_cons, not_or]
      exact ⟨Ne.symm hx, ih⟩

theorem cString_append {bytes : List UInt8} (hbytes : 0 ∉ bytes) (rest : List UInt8) :
    cString (bytes ++ rest) = bytes ++ cString rest := by
  have hall : ∀ x ∈ bytes, (x != 0) = true := fun x hx => bne_iff_ne.mpr fun hzero => hbytes (hzero ▸ hx)
  rw [cString, List.takeWhile_append_of_pos hall]
  rfl

theorem cString_eq_self_iff {bytes : List UInt8} : cString bytes = bytes ↔ 0 ∉ bytes := by
  refine ⟨fun h => h ▸ zero_notMem_cString bytes, fun h => ?_⟩
  have hall := cString_append h []
  rwa [List.append_nil, show cString [] = [] from rfl, List.append_nil] at hall

theorem mem_zero_of_cString_length {bytes : List UInt8} (h : (cString bytes).length < bytes.length) :
    0 ∈ bytes := by
  apply Decidable.of_not_not
  intro hzero
  rw [cString_eq_self_iff.mpr hzero] at h
  exact Nat.lt_irrefl _ h

theorem cString_append_zero {bytes : List UInt8} (hbytes : 0 ∉ bytes) (rest : List UInt8) :
    cString (bytes ++ 0 :: rest) = bytes := by
  rw [cString_cut]
  exact cString_eq_self_iff.mpr hbytes

/-- A string literal without zero bytes, and its terminator. -/
theorem cString_terminated {bytes : List UInt8} (hbytes : 0 ∉ bytes) : cString (bytes ++ [0]) = bytes :=
  cString_append_zero hbytes []

/-- The characters of a literal. -/
def literal (s : String) : List UInt8 := s.toList.map fun c => UInt8.ofNat c.toNat

/-! ## Arrays of characters -/

structure CharArray (n : ℕ) where
  bytes : List UInt8
  length_eq : bytes.length = n
  deriving DecidableEq

def CharArray.zero (n : ℕ) : CharArray n := ⟨List.replicate n 0, List.length_replicate⟩

def strncpy (n : ℕ) (src : List UInt8) : CharArray n :=
  ⟨(cString src ++ List.replicate n 0).take n, by simp⟩

/-- A string that is shorter than its array is read back. -/
theorem cString_strncpy_of_lt {n : ℕ} {src : List UInt8} (h : (cString src).length < n) (rest : List UInt8) :
    cString ((strncpy n src).bytes ++ rest) = cString src := by
  obtain ⟨k, hk⟩ : ∃ k, n = (cString src).length + (k + 1) := ⟨n - (cString src).length - 1, by omega⟩
  have hbytes : (strncpy n src).bytes = cString src ++ 0 :: List.replicate k 0 := by
    change (cString src ++ List.replicate n 0).take n = _
    rw [List.take_append, List.take_of_length_le (by omega), List.take_replicate, ← List.replicate_succ]
    congr 2
    omega
  rw [hbytes, List.append_assoc, List.cons_append]
  exact cString_append_zero (zero_notMem_cString src) _

/-- A string that fills its array runs on into what follows. -/
theorem cString_strncpy_of_le {n : ℕ} {src : List UInt8} (h : n ≤ (cString src).length) (rest : List UInt8) :
    cString ((strncpy n src).bytes ++ rest) = (cString src).take n ++ cString rest := by
  have hbytes : (strncpy n src).bytes = (cString src).take n := List.take_append_of_le_length h
  rw [hbytes]
  exact cString_append (fun hzero => zero_notMem_cString src (List.mem_of_mem_take hzero)) rest

/-- What is read of an array is no more than it holds exactly if a zero ends the string or follows it. -/
theorem cString_strncpy_eq_take_iff {n : ℕ} {src rest : List UInt8} :
    cString ((strncpy n src).bytes ++ rest) = (cString src).take n ↔
      (cString src).length < n ∨ cString rest = [] := by
  rcases Nat.lt_or_ge (cString src).length n with hlt | hge
  · rw [cString_strncpy_of_lt hlt, List.take_of_length_le (Nat.le_of_lt hlt)]
    exact iff_of_true rfl (Or.inl hlt)
  · rw [cString_strncpy_of_le hge, List.append_right_eq_self]
    exact ⟨Or.inr, fun h => h.resolve_left (Nat.not_lt.mpr hge)⟩

/-- What is read of an array that `strncpy` filled, whatever follows it, fills the array in the same way. -/
theorem strncpy_read_back (n : ℕ) (src rest : List UInt8) :
    strncpy n (cString ((strncpy n src).bytes ++ rest)) = strncpy n src := by
  have hbytes : ∀ s : List UInt8, (strncpy n s).bytes = (cString s ++ List.replicate n 0).take n := fun _ => rfl
  have hsame : (strncpy n (cString ((strncpy n src).bytes ++ rest))).bytes = (strncpy n src).bytes := by
    rcases Nat.lt_or_ge (cString src).length n with hlt | hge
    · rw [cString_strncpy_of_lt hlt, hbytes, hbytes, cString_eq_self_iff.mpr (zero_notMem_cString src)]
    · have hlen : ((cString src).take n).length = n := by rw [List.length_take]; omega
      have hread := cString_eq_self_iff.mpr (zero_notMem_cString ((strncpy n src).bytes ++ rest))
      rw [hbytes, hread, cString_strncpy_of_le hge, List.append_assoc, List.take_append_of_le_length (by omega),
        List.take_of_length_le (by omega), hbytes, List.take_append_of_le_length hge]
  cases h : strncpy n (cString ((strncpy n src).bytes ++ rest))
  cases h' : strncpy n src
  rw [h, h'] at hsame
  congr

theorem cString_zero {n : ℕ} (hn : 0 < n) (rest : List UInt8) :
    cString ((CharArray.zero n).bytes ++ rest) = [] := by
  obtain ⟨k, rfl⟩ : ∃ k, n = k + 1 := ⟨n - 1, by omega⟩
  rfl

end Mcus.CString
