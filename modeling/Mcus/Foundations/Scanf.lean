import Mathlib.Data.List.TakeWhile
import Mathlib.Data.Nat.Digits.Lemmas

/-! # Scanning and printing numbers

The conversions of the C standard that read a number off a text and print one. A number may have blanks and
a sign in front of it, and is read as far as its digits go; what follows is left alone. A number that no
32-bit word holds is read as whatever `overflow` makes of its digits, since the standard does not say.
`scanSeparated` is a format that repeats a conversion with a character in between.
-/

namespace Mcus.Scanf
set_option autoImplicit false

def isSpace (b : UInt8) : Bool := b == 0x20 || (0x09 ≤ b && b ≤ 0x0D)

def isDigit (b : UInt8) : Bool := 0x30 ≤ b && b ≤ 0x39

/-- The number that digits denote, most significant first. -/
def digitsValue (digits : List UInt8) : ℕ := Nat.ofDigits 10 (digits.reverse.map fun d => d.toNat - 0x30)

/-- A sign, if there is one, and whether it is a minus. -/
def scanSign : List UInt8 → Bool × List UInt8
  | [] => (false, [])
  | b :: rest => if b = 0x2D then (true, rest) else if b = 0x2B then (false, rest) else (false, b :: rest)

def withSign (negative : Bool) (value : UInt32) : UInt32 := if negative then -value else value

section Unsigned
variable (overflow : List UInt8 → UInt32)

/-- `%u`: the value and the text behind it. -/
def scanUnsigned (text : List UInt8) : Option (UInt32 × List UInt8) :=
  let signed := scanSign (text.dropWhile isSpace)
  let digits := signed.2.takeWhile isDigit
  if digits = [] then none
  else
    let value := if digitsValue digits < 2 ^ 32 then UInt32.ofNat (digitsValue digits) else overflow digits
    some (withSign signed.1 value, signed.2.dropWhile isDigit)

end Unsigned

/-- What a conversion, repeated with a separator, assigns. -/
def scanSeparated {α : Type} (scan : List UInt8 → Option (α × List UInt8)) (separator : UInt8) :
    ℕ → List UInt8 → List α
  | 0, _ => []
  | n + 1, text =>
    match scan text with
    | none => []
    | some (value, []) => [value]
    | some (value, b :: rest) => value :: if b = separator then scanSeparated scan separator n rest else []

def hexDigit (b : UInt8) : Option UInt8 :=
  if 0x30 ≤ b ∧ b ≤ 0x39 then some (b - 0x30)
  else if 0x41 ≤ b ∧ b ≤ 0x46 then some (b - 0x41 + 10)
  else if 0x61 ≤ b ∧ b ≤ 0x66 then some (b - 0x61 + 10)
  else none

/-- `%02hhx`: at most two characters behind the blanks. -/
def scanHexByte (text : List UInt8) : Option (UInt8 × List UInt8) :=
  match text.dropWhile isSpace with
  | [] => none
  | [a] => (hexDigit a).map fun x => (x, [])
  | a :: b :: rest =>
    if a = 0x2D then (hexDigit b).map fun y => (-y, rest)
    else if a = 0x2B then (hexDigit b).map fun y => (y, rest)
    else
      match hexDigit a with
      | none => none
      | some x =>
        match hexDigit b with
        | some y => some (16 * x + y, rest)
        -- `0x` alone is no number in the C standard; glibc takes the `0` and goes on
        | none => if a = 0x30 ∧ (b = 0x78 ∨ b = 0x58) then none else some (x, b :: rest)

/-- `%d` of a number that is not negative. -/
def decimal (n : ℕ) : List UInt8 :=
  if n = 0 then [0x30] else (Nat.digits 10 n).reverse.map fun d => UInt8.ofNat (0x30 + d)

/-! ## Decimal numbers -/

structure IsDecimal (ds : List UInt8) : Prop where
  nonempty : ds ≠ []
  digits : ∀ d ∈ ds, isDigit d = true

theorem isDigit_iff (b : UInt8) : isDigit b = true ↔ 48 ≤ b.toNat ∧ b.toNat ≤ 57 := by
  rw [isDigit, Bool.and_eq_true, decide_eq_true_iff, decide_eq_true_iff, UInt8.le_iff_toNat_le,
    UInt8.le_iff_toNat_le]
  exact Iff.rfl

theorem isDigit_of_lt {d : ℕ} (hd : d < 10) : (UInt8.ofNat (0x30 + d)).toNat = 0x30 + d := by
  rw [UInt8.toNat_ofNat']
  exact Nat.mod_eq_of_lt (by omega)

/-- A number is printed with as many digits as it has. -/
theorem decimal_length_le {n k : ℕ} (hn : n < 10 ^ (k + 1)) : (decimal n).length ≤ k + 1 := by
  rw [decimal]
  split
  case isTrue => exact Nat.le_add_left 1 k
  case isFalse =>
    rw [List.length_map, List.length_reverse]
    exact (Nat.digits_length_le_iff (by omega) n).mpr hn

/-- Digits without a leading zero are how their value is printed. -/
theorem decimal_digitsValue {ds : List UInt8} (h : IsDecimal ds) (hlead : ds.head? = some 0x30 → ds = [0x30]) :
    decimal (digitsValue ds) = ds := by
  by_cases hzero : ds = [0x30]
  · rw [hzero]
    rfl
  · obtain ⟨d, rest, rfl⟩ := List.exists_cons_of_ne_nil h.nonempty
    have hd : d ≠ 0x30 := fun he => hzero (hlead (by rw [he]; rfl))
    have hrange {b : UInt8} (hb : b ∈ d :: rest) : 48 ≤ b.toNat ∧ b.toNat ≤ 57 :=
      (isDigit_iff b).mp (h.digits b hb)
    have hpos : d.toNat - 0x30 ≠ 0 := by
      have hle := (hrange List.mem_cons_self).1
      have hne : d.toNat ≠ 48 := fun he => hd (UInt8.toNat_inj.mp he)
      omega
    have hdigits : Nat.digits 10 (digitsValue (d :: rest)) =
        (d :: rest).reverse.map fun b => b.toNat - 0x30 := by
      refine Nat.digits_ofDigits 10 (by omega) _ ?_ ?_
      · intro x hx
        obtain ⟨b, hb, rfl⟩ := List.mem_map.mp hx
        have hle := (hrange (List.mem_reverse.mp hb)).2
        omega
      · intro hne
        rw [List.getLast_map, List.getLast_reverse]
        exact hpos
    have hvalue : digitsValue (d :: rest) ≠ 0 := by
      intro he
      rw [he, Nat.digits_zero] at hdigits
      exact absurd hdigits (by simp)
    rw [decimal, if_neg hvalue, hdigits, ← List.map_reverse, List.reverse_reverse, List.map_map]
    conv => rhs; rw [← List.map_id (d :: rest)]
    apply List.map_congr_left
    intro b hb
    have hle := (hrange hb).1
    apply UInt8.toNat_inj.mp
    rw [Function.comp_apply, isDigit_of_lt (by have := (hrange hb).2; omega)]
    exact Nat.add_sub_cancel' hle

theorem digit_of_mem_digits {n d : ℕ} (hd : d ∈ Nat.digits 10 n) :
    (UInt8.ofNat (0x30 + d)).toNat = 0x30 + d ∧ d < 10 := by
  have hlt : d < 10 := Nat.digits_lt_base (by omega) hd
  exact ⟨isDigit_of_lt hlt, hlt⟩

theorem isDecimal_decimal (n : ℕ) : IsDecimal (decimal n) := by
  by_cases hn : n = 0
  · rw [decimal, if_pos hn]
    exact ⟨List.cons_ne_nil _ _, fun b hb => by rw [List.mem_singleton.mp hb]; rfl⟩
  · rw [decimal, if_neg hn]
    constructor
    · simpa [Nat.digits_eq_nil_iff_eq_zero] using hn
    · intro b hb
      obtain ⟨d, hd, rfl⟩ := List.mem_map.mp hb
      obtain ⟨hvalue, hlt⟩ := digit_of_mem_digits (List.mem_reverse.mp hd)
      rw [isDigit_iff, hvalue]
      omega

/-- What is printed denotes the number. -/
theorem digitsValue_decimal (n : ℕ) : digitsValue (decimal n) = n := by
  by_cases hn : n = 0
  · rw [hn]
    rfl
  · have hdigits : (Nat.digits 10 n).map (fun d => (UInt8.ofNat (0x30 + d)).toNat - 0x30) = Nat.digits 10 n := by
      conv => rhs; rw [← List.map_id (Nat.digits 10 n)]
      apply List.map_congr_left
      intro d hd
      rw [(digit_of_mem_digits hd).1]
      exact Nat.add_sub_cancel_left _ _
    rw [decimal, if_neg hn, digitsValue, ← List.map_reverse, List.reverse_reverse, List.map_map]
    change Nat.ofDigits 10 ((Nat.digits 10 n).map fun d => (UInt8.ofNat (0x30 + d)).toNat - 0x30) = n
    rw [hdigits, Nat.ofDigits_digits]

/-! ## Unsigned numbers -/

def NoDigitHead (text : List UInt8) : Prop := ∀ b ∈ text.head?, isDigit b = false

/-- Blanks, perhaps a sign, and digits. -/
inductive IsNumber : List UInt8 → Prop
  | mk (blanks sign ds : List UInt8) (hblanks : ∀ b ∈ blanks, isSpace b = true)
      (hsign : sign = [] ∨ sign = [0x2B] ∨ sign = [0x2D]) (hds : IsDecimal ds) :
      IsNumber (blanks ++ (sign ++ ds))

theorem IsDecimal.isNumber {ds : List UInt8} (h : IsDecimal ds) : IsNumber ds :=
  .mk [] [] ds (fun _ hb => absurd hb List.not_mem_nil) (Or.inl rfl) h

/-- A digit is neither a blank nor a sign. -/
theorem digit_ne {b : UInt8} (h : isDigit b = true) : isSpace b = false ∧ b ≠ 0x2D ∧ b ≠ 0x2B := by
  have hrange := (isDigit_iff b).mp h
  have hne {c : UInt8} (hc : c.toNat < 48) : b ≠ c := by
    rintro rfl
    omega
  refine ⟨?_, hne (by decide), hne (by decide)⟩
  rw [isSpace, Bool.or_eq_false_iff, Bool.and_eq_false_iff]
  refine ⟨beq_false_of_ne (hne (by decide)), Or.inr (decide_eq_false ?_)⟩
  rw [UInt8.le_iff_toNat_le]
  change ¬ b.toNat ≤ 13
  omega

theorem takeWhile_digits {ds rest : List UInt8} (hds : ∀ d ∈ ds, isDigit d = true) (hrest : NoDigitHead rest) :
    (ds ++ rest).takeWhile isDigit = ds ∧ (ds ++ rest).dropWhile isDigit = rest := by
  rw [List.takeWhile_append_of_pos hds, List.dropWhile_append_of_pos hds]
  cases rest with
  | nil => exact ⟨List.append_nil ds, rfl⟩
  | cons b rest =>
    have hb : isDigit b = false := hrest b rfl
    rw [List.takeWhile_cons_of_neg (by simp [hb]), List.dropWhile_cons_of_neg (by simp [hb])]
    exact ⟨List.append_nil ds, rfl⟩

/-- What is behind the blanks begins with no blank itself. -/
theorem dropWhile_blanks {blanks rest : List UInt8} (hblanks : ∀ b ∈ blanks, isSpace b = true)
    (hrest : ∀ b ∈ rest.head?, isSpace b = false) : (blanks ++ rest).dropWhile isSpace = rest := by
  rw [List.dropWhile_append_of_pos hblanks]
  cases rest with
  | nil => rfl
  | cons b rest => exact List.dropWhile_cons_of_neg (by simp [hrest b rfl])

/-- Where the digits start behind a sign, whatever it is. -/
theorem scanSign_append {sign text : List UInt8} (hsign : sign = [] ∨ sign = [0x2B] ∨ sign = [0x2D])
    (htext : ∃ d ∈ text.head?, isDigit d = true) : (scanSign (sign ++ text)).2 = text := by
  obtain ⟨d, hd, hdigit⟩ := htext
  rcases hsign with rfl | rfl | rfl
  · cases text with
    | nil => exact absurd hd (by simp)
    | cons b rest =>
      obtain rfl : b = d := by simpa using hd
      rw [List.nil_append, scanSign, if_neg (digit_ne hdigit).2.1, if_neg (digit_ne hdigit).2.2]
  · rfl
  · rfl

section Scan
variable {overflow : List UInt8 → UInt32}

theorem IsDecimal.head {ds : List UInt8} (h : IsDecimal ds) (rest : List UInt8) :
    ∃ d ∈ (ds ++ rest).head?, isDigit d = true := by
  obtain ⟨d, tail, rfl⟩ := List.exists_cons_of_ne_nil h.nonempty
  exact ⟨d, rfl, h.digits d List.mem_cons_self⟩

/-- A number is read with all of its digits. -/
theorem scanUnsigned_number {item rest : List UInt8} (hitem : IsNumber item) (hrest : NoDigitHead rest) :
    ∃ value, scanUnsigned overflow (item ++ rest) = some (value, rest) := by
  obtain ⟨blanks, sign, ds, hblanks, hsign, hds⟩ := hitem
  have hstart : ∀ b ∈ (sign ++ (ds ++ rest)).head?, isSpace b = false := by
    rcases hsign with rfl | rfl | rfl
    · obtain ⟨d, hd, hdigit⟩ := hds.head rest
      intro b hb
      obtain rfl : d = b := Option.some.inj (hd.symm.trans hb)
      exact (digit_ne hdigit).1
    · intro b hb
      obtain rfl : 0x2B = b := by simpa using hb
      rfl
    · intro b hb
      obtain rfl : 0x2D = b := by simpa using hb
      rfl
  have htext : blanks ++ (sign ++ ds) ++ rest = blanks ++ (sign ++ (ds ++ rest)) := by simp
  obtain ⟨htake, hdrop⟩ := takeWhile_digits hds.digits hrest
  simp only [scanUnsigned, htext, dropWhile_blanks hblanks hstart, scanSign_append hsign (hds.head rest), htake,
    hdrop, if_neg hds.nonempty]
  exact ⟨_, rfl⟩

/-- Digits with nothing in front of them. -/
theorem scanUnsigned_decimal {ds rest : List UInt8} (hds : IsDecimal ds) (hvalue : digitsValue ds < 2 ^ 32)
    (hrest : NoDigitHead rest) :
    scanUnsigned overflow (ds ++ rest) = some (UInt32.ofNat (digitsValue ds), rest) := by
  obtain ⟨d, tail, rfl⟩ := List.exists_cons_of_ne_nil hds.nonempty
  have hdigit := hds.digits d List.mem_cons_self
  obtain ⟨htake, hdrop⟩ := takeWhile_digits hds.digits hrest
  have hsign : scanSign (d :: tail ++ rest) = (false, d :: tail ++ rest) := by
    rw [List.cons_append, scanSign, if_neg (digit_ne hdigit).2.1, if_neg (digit_ne hdigit).2.2]
  have hblanks : (d :: tail ++ rest).dropWhile isSpace = d :: tail ++ rest :=
    List.dropWhile_cons_of_neg (by simp [(digit_ne hdigit).1])
  simp only [scanUnsigned, hblanks, hsign, htake, hdrop, if_neg hds.nonempty, if_pos hvalue, withSign]
  rfl

theorem scanSign_split (text : List UInt8) :
    ∃ sign, (sign = [] ∨ sign = [0x2B] ∨ sign = [0x2D]) ∧ text = sign ++ (scanSign text).2 := by
  cases text with
  | nil => exact ⟨[], Or.inl rfl, rfl⟩
  | cons b rest =>
    rw [scanSign]
    split
    case isTrue hminus => exact ⟨[0x2D], Or.inr (Or.inr rfl), by rw [hminus]; rfl⟩
    case isFalse =>
      split
      case isTrue hplus => exact ⟨[0x2B], Or.inr (Or.inl rfl), by rw [hplus]; rfl⟩
      case isFalse => exact ⟨[], Or.inl rfl, rfl⟩

/-- What is read is a number. -/
theorem number_of_scanUnsigned {text rest : List UInt8} {value : UInt32}
    (h : scanUnsigned overflow text = some (value, rest)) : ∃ item, text = item ++ rest ∧ IsNumber item := by
  obtain ⟨sign, hsign, hsplit⟩ := scanSign_split (text.dropWhile isSpace)
  generalize hsigned : scanSign (text.dropWhile isSpace) = signed at hsplit
  rw [scanUnsigned, hsigned] at h
  dsimp only at h
  split at h
  case isTrue => exact absurd h nofun
  case isFalse hne =>
    obtain rfl : signed.2.dropWhile isDigit = rest := congrArg Prod.snd (Option.some.inj h)
    refine ⟨text.takeWhile isSpace ++ (sign ++ signed.2.takeWhile isDigit), ?_, ?_⟩
    · rw [List.append_assoc, List.append_assoc, List.takeWhile_append_dropWhile, ← hsplit,
        List.takeWhile_append_dropWhile]
    · refine .mk _ _ _ (fun b hb => ?_) hsign ⟨hne, fun d hd => ?_⟩
      · exact List.mem_takeWhile_imp hb
      · exact List.mem_takeWhile_imp hd

theorem IsNumber.append_digits {item ds : List UInt8} (hitem : IsNumber item)
    (hds : ∀ d ∈ ds, isDigit d = true) : IsNumber (item ++ ds) := by
  obtain ⟨blanks, sign, digits, hblanks, hsign, hdigits⟩ := hitem
  have htext : blanks ++ (sign ++ digits) ++ ds = blanks ++ (sign ++ (digits ++ ds)) := by simp
  rw [htext]
  refine .mk blanks sign _ hblanks hsign ⟨List.append_ne_nil_of_left_ne_nil hdigits.nonempty ds, ?_⟩
  intro d hd
  rcases List.mem_append.mp hd with hd | hd
  · exact hdigits.digits d hd
  · exact hds d hd

/-- The text begins with `n` numbers that have the separator between them. -/
def BeginsWithNumbers (separator : UInt8) : ℕ → List UInt8 → Prop
  | 0, _ => True
  | n + 1, text => ∃ item rest, text = item ++ rest ∧ IsNumber item ∧
    (n = 0 ∨ ∃ behind, rest = separator :: behind ∧ BeginsWithNumbers separator n behind)

/-- A number, the separator and what is scanned behind it. -/
theorem scanSeparated_cons {α : Type} {scan : List UInt8 → Option (α × List UInt8)} {separator : UInt8}
    {n : ℕ} {text rest : List UInt8} {value : α} (h : scan text = some (value, separator :: rest)) :
    scanSeparated scan separator (n + 1) text = value :: scanSeparated scan separator n rest := by
  rw [scanSeparated, h]
  exact congrArg (value :: ·) (if_pos rfl)

theorem scanSeparated_last {α : Type} {scan : List UInt8 → Option (α × List UInt8)} {separator : UInt8}
    {text rest : List UInt8} {value : α} (h : scan text = some (value, rest)) :
    scanSeparated scan separator 1 text = [value] := by
  rw [scanSeparated, h]
  cases rest with
  | nil => rfl
  | cons b rest =>
    refine congrArg (value :: ·) ?_
    split <;> rfl

theorem beginsWithNumbers_of_length {separator : UInt8} {n : ℕ} {text : List UInt8}
    (h : (scanSeparated (scanUnsigned overflow) separator n text).length = n) :
    BeginsWithNumbers separator n text := by
  induction n generalizing text with
  | zero => exact trivial
  | succ n ih =>
    rw [scanSeparated] at h
    split at h
    case h_1 => exact absurd h (by simp)
    case h_2 value hscan =>
      obtain ⟨item, htext, hitem⟩ := number_of_scanUnsigned hscan
      exact ⟨item, [], htext, hitem, Or.inl (Nat.succ.inj h).symm⟩
    case h_3 value b rest hscan =>
      obtain ⟨item, htext, hitem⟩ := number_of_scanUnsigned hscan
      refine ⟨item, b :: rest, htext, hitem, ?_⟩
      rw [List.length_cons, Nat.succ_inj] at h
      split at h
      case isTrue hsep => exact Or.inr ⟨rest, by rw [hsep], ih h⟩
      case isFalse => exact Or.inl h.symm

theorem length_of_beginsWithNumbers {separator : UInt8} (hseparator : isDigit separator = false) {n : ℕ}
    {text : List UInt8} (h : BeginsWithNumbers separator n text) :
    (scanSeparated (scanUnsigned overflow) separator n text).length = n := by
  induction n generalizing text with
  | zero => rfl
  | succ n ih =>
    obtain ⟨item, rest, rfl, hitem, rfl | ⟨behind, rfl, hbehind⟩⟩ := h
    · -- the last number takes the digits behind it as well
      have hdigits : ∀ d ∈ rest.takeWhile isDigit, isDigit d = true := fun d hd => List.mem_takeWhile_imp hd
      have hhead : NoDigitHead (rest.dropWhile isDigit) := fun b hb => by
        rw [Option.mem_def] at hb
        simpa [hb] using List.head?_dropWhile_not isDigit rest
      obtain ⟨value, hscan⟩ := @scanUnsigned_number overflow _ _ (hitem.append_digits hdigits) hhead
      rw [List.append_assoc, List.takeWhile_append_dropWhile] at hscan
      rw [scanSeparated_last hscan]
      rfl
    · have hhead : NoDigitHead (separator :: behind) := fun b hb => by
        obtain rfl : separator = b := by simpa using hb
        exact hseparator
      obtain ⟨value, hscan⟩ := @scanUnsigned_number overflow _ _ hitem hhead
      rw [scanSeparated_cons hscan, List.length_cons, ih hbehind]


end Scan

end Mcus.Scanf
