import Mcus.Simulator.DeviceInfo

/-! # Setting the IP address

`updateIPAddress` takes every text that begins with four numbers and three dots. `sscanf` skips blanks and
signs, reads on past 255, and does not look behind the fourth number, so that much is taken that is no
address.
-/

namespace Mcus.Simulator
open ByteOrder CString Scanf
set_option autoImplicit false

/-! ## Dotted quads -/

structure IsOctet (ds : List UInt8) : Prop extends IsDecimal ds where
  small : digitsValue ds ≤ 255

/-- Four decimal numbers up to 255. -/
structure Quad where
  a : List UInt8
  b : List UInt8
  c : List UInt8
  d : List UInt8
  octets : ∀ ds ∈ [a, b, c, d], IsOctet ds

namespace Quad
variable (q : Quad)

def text : List UInt8 := q.a ++ dot :: (q.b ++ dot :: (q.c ++ dot :: q.d))

/-- The address without leading zeros. -/
def canonical : List UInt8 :=
  decimal (digitsValue q.a) ++ dot :: (decimal (digitsValue q.b) ++ dot ::
    (decimal (digitsValue q.c) ++ dot :: decimal (digitsValue q.d)))

def NoLeadingZero : Prop := ∀ ds ∈ [q.a, q.b, q.c, q.d], ds.head? = some 0x30 → ds = [0x30]

theorem isOctet_a : IsOctet q.a := q.octets _ (by simp)
theorem isOctet_b : IsOctet q.b := q.octets _ (by simp)
theorem isOctet_c : IsOctet q.c := q.octets _ (by simp)
theorem isOctet_d : IsOctet q.d := q.octets _ (by simp)

theorem canonical_eq_text (h : q.NoLeadingZero) : q.canonical = q.text := by
  rw [canonical, text, decimal_digitsValue q.isOctet_a.toIsDecimal (h _ (by simp)),
    decimal_digitsValue q.isOctet_b.toIsDecimal (h _ (by simp)),
    decimal_digitsValue q.isOctet_c.toIsDecimal (h _ (by simp)),
    decimal_digitsValue q.isOctet_d.toIsDecimal (h _ (by simp))]

end Quad

def DottedQuad (ip : List UInt8) : Prop := ∃ q : Quad, ip = q.text

/-- True is returned for a dotted quad and nothing else, the address is then printed in canonical form, and
where false is returned nothing has changed. -/
structure UpdatesFaithfully (overflow : List UInt8 → UInt32) (cfg : DeviceConfig) (ip : List UInt8) : Prop where
  accepts : (updateIPAddress overflow cfg ip).2 = true ↔ DottedQuad ip
  prints : ∀ q : Quad, ip = q.text → getIPAddress (updateIPAddress overflow cfg ip).1 = q.canonical ∧
    (q.NoLeadingZero → q.canonical = ip)
  unchanged : (updateIPAddress overflow cfg ip).2 = false → (updateIPAddress overflow cfg ip).1 = cfg

/-! ## What is taken -/

section Accepts
variable {overflow : List UInt8 → UInt32} {cfg : DeviceConfig} {ip : List UInt8}

theorem zero_notMem_number {item : List UInt8} (h : IsNumber item) : 0 ∉ item := by
  obtain ⟨blanks, sign, ds, hblanks, hsign, hds⟩ := h
  simp only [List.mem_append, not_or]
  refine ⟨fun hzero => ?_, fun hzero => ?_, fun hzero => ?_⟩
  · exact absurd (hblanks 0 hzero) (by decide)
  · rcases hsign with rfl | rfl | rfl <;> simp at hzero
  · exact absurd (hds.digits 0 hzero) (by decide)

theorem beginsWithNumbers_append {n : ℕ} {text : List UInt8} (h : BeginsWithNumbers dot n text)
    (more : List UInt8) : BeginsWithNumbers dot n (text ++ more) := by
  induction n generalizing text with
  | zero => exact trivial
  | succ n ih =>
    obtain ⟨item, rest, rfl, hitem, hrest⟩ := h
    refine ⟨item, rest ++ more, List.append_assoc _ _ _, hitem, hrest.imp_right ?_⟩
    rintro ⟨behind, rfl, hbehind⟩
    exact ⟨behind ++ more, rfl, ih hbehind⟩

/-- The terminator comes behind the numbers. -/
theorem beginsWithNumbers_cString {n : ℕ} {text : List UInt8} :
    BeginsWithNumbers dot n (cString text) ↔ BeginsWithNumbers dot n text := by
  constructor
  · intro h
    have hsplit : cString text ++ text.dropWhile (· != 0) = text := List.takeWhile_append_dropWhile
    rw [← hsplit]
    exact beginsWithNumbers_append h _
  · intro h
    induction n generalizing text with
    | zero => exact trivial
    | succ n ih =>
      obtain ⟨item, rest, rfl, hitem, hrest⟩ := h
      rw [cString_append (zero_notMem_number hitem)]
      refine ⟨item, cString rest, rfl, hitem, hrest.imp_right ?_⟩
      rintro ⟨behind, rfl, hbehind⟩
      exact ⟨cString behind, cString_cons (by decide) behind, ih hbehind⟩

theorem updateIPAddress_true_iff : (updateIPAddress overflow cfg ip).2 = true ↔ BeginsWithNumbers dot 4 ip := by
  have hlength : (updateIPAddress overflow cfg ip).2 = true ↔ (scanIp overflow ip).length = 4 := by
    unfold updateIPAddress
    split
    case h_1 a b c d hscan =>
      rw [hscan]
      exact iff_of_true rfl rfl
    case h_2 hother =>
      refine iff_of_false Bool.false_ne_true fun hfour => ?_
      obtain ⟨a, b, c, d, hscan⟩ := List.length_eq_four.mp hfour
      exact hother a b c d hscan
  rw [hlength, ← beginsWithNumbers_cString]
  exact ⟨beginsWithNumbers_of_length, length_of_beginsWithNumbers (by decide)⟩

theorem updateIPAddress_false (h : (updateIPAddress overflow cfg ip).2 = false) :
    (updateIPAddress overflow cfg ip).1 = cfg := by
  unfold updateIPAddress at h ⊢
  split at h
  case h_1 => exact absurd h nofun
  case h_2 => rfl

end Accepts

/-! ## What is stored and printed -/

section Quads
variable {overflow : List UInt8 → UInt32} {cfg : DeviceConfig} (q : Quad)

theorem noDigitHead_dot (rest : List UInt8) : NoDigitHead (dot :: rest) := by
  intro b hb
  obtain rfl : dot = b := by simpa using hb
  rfl

/-- One number of a quad and the dot behind it. -/
theorem scanSeparated_octet {ds : List UInt8} (h : IsOctet ds) (n : ℕ) (rest : List UInt8) :
    scanSeparated (scanUnsigned overflow) dot (n + 1) (ds ++ dot :: rest) =
      UInt32.ofNat (digitsValue ds) :: scanSeparated (scanUnsigned overflow) dot n rest :=
  scanSeparated_cons (scanUnsigned_decimal h.toIsDecimal (by have := h.small; omega) (noDigitHead_dot rest))

theorem beginsWithNumbers_octet {ds rest : List UInt8} (h : IsOctet ds) {n : ℕ}
    (hrest : BeginsWithNumbers dot n rest) : BeginsWithNumbers dot (n + 1) (ds ++ dot :: rest) :=
  ⟨ds, dot :: rest, rfl, h.isNumber, Or.inr ⟨rest, rfl, hrest⟩⟩

theorem Quad.beginsWithNumbers : BeginsWithNumbers dot 4 q.text := by
  have hlast : BeginsWithNumbers dot 1 q.d :=
    ⟨q.d, [], (List.append_nil _).symm, q.isOctet_d.isNumber, Or.inl rfl⟩
  exact beginsWithNumbers_octet q.isOctet_a
    (beginsWithNumbers_octet q.isOctet_b (beginsWithNumbers_octet q.isOctet_c hlast))

theorem Quad.cString_text : cString q.text = q.text := by
  have hoctet {ds : List UInt8} (h : IsOctet ds) : 0 ∉ ds := zero_notMem_number h.isNumber
  rw [cString_eq_self_iff]
  simp only [Quad.text, List.mem_append, List.mem_cons, not_or]
  exact ⟨hoctet q.isOctet_a, by decide, hoctet q.isOctet_b, by decide, hoctet q.isOctet_c, by decide,
    hoctet q.isOctet_d⟩

theorem Quad.scanIp_text : scanIp overflow q.text =
    [UInt32.ofNat (digitsValue q.a), UInt32.ofNat (digitsValue q.b), UInt32.ofNat (digitsValue q.c),
      UInt32.ofNat (digitsValue q.d)] := by
  have hlast : scanUnsigned overflow (q.d ++ []) = some (UInt32.ofNat (digitsValue q.d), []) :=
    scanUnsigned_decimal q.isOctet_d.toIsDecimal (by have := q.isOctet_d.small; omega) nofun
  rw [List.append_nil] at hlast
  rw [scanIp, q.cString_text, Quad.text, scanSeparated_octet q.isOctet_a, scanSeparated_octet q.isOctet_b,
    scanSeparated_octet q.isOctet_c, scanSeparated_last hlast]

/-- Four octets, shifted and put together, are masked and shifted out again. -/
theorem ipWord_octets {a b c d : ℕ} (ha : a ≤ 255) (hb : b ≤ 255) (hc : c ≤ 255) (hd : d ≤ 255) :
    let ip := ipWord (UInt32.ofNat a) (UInt32.ofNat b) (UInt32.ofNat c) (UInt32.ofNat d)
    (ip >>> 24 &&& 0xFF).toNat = a ∧ (ip >>> 16 &&& 0xFF).toNat = b ∧ (ip >>> 8 &&& 0xFF).toNat = c ∧
      (ip &&& 0xFF).toNat = d := by
  intro ip
  have hbyte {n : ℕ} (hn : n ≤ 255) : (UInt8.ofNat n).toNat = n := by
    rw [UInt8.toNat_ofNat']
    exact Nat.mod_eq_of_lt (by omega)
  have hwide {n : ℕ} (hn : n ≤ 255) : UInt32.ofNat n = (UInt8.ofNat n).toUInt32 := by
    apply UInt32.toNat_inj.mp
    rw [UInt8.toNat_toUInt32, hbyte hn, UInt32.toNat_ofNat']
    exact Nat.mod_eq_of_lt (by omega)
  have hip : ip = word32 (UInt8.ofNat a) (UInt8.ofNat b) (UInt8.ofNat c) (UInt8.ofNat d) := by
    change ipWord _ _ _ _ = _
    rw [hwide ha, hwide hb, hwide hc, hwide hd]
    rfl
  have hmask (x : UInt32) : (x &&& 0xFF).toNat = x.toUInt8.toNat := by
    rw [UInt32.toNat_and, UInt32.toNat_toUInt8]
    exact Nat.and_two_pow_sub_one_eq_mod _ 8
  have hbytes : [(ip >>> 24).toUInt8, (ip >>> 16).toUInt8, (ip >>> 8).toUInt8, ip.toUInt8] =
      [UInt8.ofNat a, UInt8.ofNat b, UInt8.ofNat c, UInt8.ofNat d] := by
    have hword := beBytes32_word32 (UInt8.ofNat a) (UInt8.ofNat b) (UInt8.ofNat c) (UInt8.ofNat d)
    rwa [← hip] at hword
  simp only [List.cons.injEq, and_true] at hbytes
  obtain ⟨h3, h2, h1, h0⟩ := hbytes
  rw [hmask, hmask, hmask, hmask, h3, h2, h1, h0]
  exact ⟨hbyte ha, hbyte hb, hbyte hc, hbyte hd⟩

theorem Quad.canonical_length_le : q.canonical.length ≤ 15 := by
  have hthree {ds : List UInt8} (h : IsOctet ds) : (decimal (digitsValue ds)).length ≤ 3 :=
    decimal_length_le (k := 2) (by have := h.small; omega)
  have ha := hthree q.isOctet_a
  have hb := hthree q.isOctet_b
  have hc := hthree q.isOctet_c
  have hd := hthree q.isOctet_d
  simp only [Quad.canonical, List.length_append, List.length_cons]
  omega

theorem Quad.getIPAddress_update : getIPAddress (updateIPAddress overflow cfg q.text).1 = q.canonical := by
  obtain ⟨h3, h2, h1, h0⟩ :=
    ipWord_octets q.isOctet_a.small q.isOctet_b.small q.isOctet_c.small q.isOctet_d.small
  unfold updateIPAddress
  rw [q.scanIp_text]
  dsimp only [getIPAddress, updateChecksum]
  rw [h3, h2, h1, h0]
  exact List.take_of_length_le q.canonical_length_le

end Quads

/-- **IP address.** The address is taken, printed and left alone as it should be exactly if the text is a
dotted quad, or does not begin with four numbers, each perhaps behind blanks and a sign, and the dots between
them. -/
theorem updateIPAddress_faithful_iff (overflow : List UInt8 → UInt32) (cfg : DeviceConfig) (ip : List UInt8) :
    UpdatesFaithfully overflow cfg ip ↔ DottedQuad ip ∨ ¬ BeginsWithNumbers dot 4 ip := by
  constructor
  · intro h
    by_cases hbegins : BeginsWithNumbers dot 4 ip
    · exact Or.inl (h.accepts.mp (updateIPAddress_true_iff.mpr hbegins))
    · exact Or.inr hbegins
  · intro h
    refine ⟨updateIPAddress_true_iff.trans ⟨fun hbegins => ?_, ?_⟩, ?_, updateIPAddress_false⟩
    · exact h.resolve_right (not_not_intro hbegins)
    · rintro ⟨q, rfl⟩
      exact q.beginsWithNumbers
    · rintro q rfl
      exact ⟨q.getIPAddress_update, q.canonical_eq_text⟩

/-- A quad ends in a digit. -/
theorem Quad.getLast?_text (q : Quad) : ∃ d, q.text.getLast? = some d ∧ isDigit d = true := by
  have hlast := List.getLast?_eq_some_getLast q.isOctet_d.nonempty
  refine ⟨_, ?_, q.isOctet_d.digits _ (List.getLast_mem q.isOctet_d.nonempty)⟩
  simp [Quad.text, List.getLast?_append, List.getLast?_cons, hlast]

/-- "1.2.3.4x" is taken. -/
theorem updateIPAddress_takes_tail : ¬ ∀ overflow cfg ip, UpdatesFaithfully overflow cfg ip := by
  intro hall
  have haccepts := (hall (fun _ => 0) initialDeviceConfig (literal "1.2.3.4x")).accepts
  obtain ⟨q, hq⟩ := haccepts.mp (by decide +kernel)
  obtain ⟨d, hlast, hdigit⟩ := q.getLast?_text
  rw [← hq] at hlast
  obtain rfl : 0x78 = d := Option.some.inj hlast
  exact absurd hdigit (by decide)

end Mcus.Simulator
