import Mcus.Doip.Client
import Mcus.Vmg.RemoteDiagnostics

/-! # Two parsers of diagnostic responses

`parseDoIPDiagnosticResponse` takes everything behind the first twelve bytes for the UDS response, while
the controllers read the header, take the payload that it declares, and then the addresses off it.
-/

namespace Mcus.Vmg
open Doip
set_option autoImplicit false

def parseDoIPDiagnosticResponse (doipMessage : List UInt8) : Option (List UInt8) :=
  if doipMessage.length < 12 then none else some (doipMessage.drop 12)

/-- The UDS bytes of the response that `doip_parse_message` accepts as a diagnostic message and
`doip_parse_diagnostic_message` takes apart. They must all be in the buffer. -/
def ControllerReads (b u : List UInt8) : Prop :=
  ∃ header payload m, doipParseMessage b b.length = ⟨0, some header, payload⟩ ∧
    header.payloadType = diagnosticMessage ∧
    doipParseDiagnosticMessage (payload.behind b) header.payloadLength.toNat = some m ∧
    m.udsData = u ∧ m.udsLen = u.length

/-- The header of a diagnostic message that declares as much as follows it. -/
structure ExactHeader (b : List UInt8) : Prop where
  version : VersionOk b
  type : typeField b = diagnosticMessage
  length : 8 + (lengthField b).toNat = b.length

section
variable {b u : List UInt8}

theorem parseDoIPDiagnosticResponse_eq_some_iff :
    parseDoIPDiagnosticResponse b = some u ↔ 12 ≤ b.length ∧ b.drop 12 = u := by
  rw [parseDoIPDiagnosticResponse]
  by_cases hlen : b.length < 12
  · rw [if_pos hlen]
    exact iff_of_false nofun fun h => absurd h.1 hlen.not_ge
  · rw [if_neg hlen, Option.some.injEq]
    exact (and_iff_right (Nat.le_of_not_lt hlen)).symm

theorem doipParseDiagnosticMessage_iff {payload : Option (List UInt8)} {n k : ℕ} :
    (∃ m, doipParseDiagnosticMessage payload n = some m ∧ m.udsData = u ∧ m.udsLen = k) ↔
      ∃ bytes, payload = some bytes ∧ 4 ≤ n ∧ (bytes.drop 4).take (n - 4) = u ∧ n - 4 = k := by
  unfold doipParseDiagnosticMessage
  cases payload with
  | none => simp
  | some bytes =>
    by_cases hshort : n < 4
    · simp [hshort]
    · simp [hshort, Nat.le_of_not_lt hshort]

theorem controllerReads_iff : ControllerReads b u ↔ VersionOk b ∧ typeField b = diagnosticMessage ∧
    4 ≤ (lengthField b).toNat ∧ 8 + (lengthField b).toNat ≤ b.length ∧
    (b.drop 12).take ((lengthField b).toNat - 4) = u := by
  constructor
  · rintro ⟨header, payload, m, hparse, htype, hdiagnostic⟩
    obtain ⟨hlen, hversion, hroom⟩ := doipParseMessage_ok hparse
    rw [doipParseMessage_eq hlen hversion hroom] at hparse
    obtain ⟨rfl, rfl⟩ : _ = header ∧ _ = payload := by simpa using hparse
    obtain ⟨bytes, hbehind, hfour, hdata, hcount⟩ := doipParseDiagnosticMessage_iff.mp ⟨m, hdiagnostic⟩
    have hpos : 0 < lengthField b := by
      rw [UInt32.lt_iff_toNat_lt]
      exact Nat.lt_of_lt_of_le (by decide) hfour
    rw [if_pos hpos] at hbehind
    obtain rfl : b.drop 8 = bytes := Option.some.inj hbehind
    rw [List.drop_drop] at hdata
    refine ⟨hversion, htype, hfour, ?_, hdata⟩
    -- a sum that wraps is noticed by the number of bytes that are there
    by_cases hsmall : (lengthField b).toNat < 2 ^ 32 - 8
    · rwa [header_add_toNat hsmall] at hroom
    · have hlength := congrArg List.length hdata
      rw [List.length_take, List.length_drop] at hlength
      dsimp only at hcount
      omega
  · rintro ⟨hversion, htype, hfour, hfits, hdata⟩
    have hlen : 8 ≤ b.length := le_trans (Nat.le_add_right _ _) hfits
    have hroom : (8 + lengthField b).toNat ≤ b.length := by
      by_cases hsmall : (lengthField b).toNat < 2 ^ 32 - 8
      · rwa [header_add_toNat hsmall]
      · exact (header_add_wraps hsmall).le.trans hlen
    have hpos : 0 < lengthField b := by
      rw [UInt32.lt_iff_toNat_lt]
      exact Nat.lt_of_lt_of_le (by decide) hfour
    have hparse := doipParseMessage_eq hlen hversion hroom
    rw [if_pos hpos] at hparse
    have hcount : (lengthField b).toNat - 4 = u.length := by
      rw [← hdata, List.length_take, List.length_drop]
      omega
    rw [← List.drop_drop (i := 4) (j := 8)] at hdata
    obtain ⟨m, hdiagnostic⟩ := doipParseDiagnosticMessage_iff.mpr ⟨b.drop 8, rfl, hfour, hdata, hcount⟩
    exact ⟨_, _, m, hparse, htype, hdiagnostic⟩

end

/-- **The two parsers.** They agree on the messages that are too short for addresses, and on those whose
header is that of a diagnostic message and declares exactly what follows. -/
theorem responseParsers_agree_iff (b : List UInt8) :
    (∀ u, parseDoIPDiagnosticResponse b = some u ↔ ControllerReads b u) ↔ b.length < 12 ∨ ExactHeader b := by
  simp only [parseDoIPDiagnosticResponse_eq_some_iff, controllerReads_iff]
  constructor
  · intro hagree
    by_cases hlen : b.length < 12
    · exact Or.inl hlen
    · obtain ⟨hversion, htype, hfour, hfits, hdata⟩ := (hagree (b.drop 12)).mp ⟨Nat.le_of_not_lt hlen, rfl⟩
      refine Or.inr ⟨hversion, htype, ?_⟩
      have hlength := congrArg List.length hdata
      rw [List.length_take, List.length_drop] at hlength
      omega
  · rintro (hlen | ⟨hversion, htype, hlength⟩) u
    · refine iff_of_false (fun h => absurd h.1 hlen.not_ge) ?_
      rintro ⟨-, -, hfour, hfits, -⟩
      omega
    · have htake : (b.drop 12).take ((lengthField b).toNat - 4) = b.drop 12 := by
        refine List.take_of_length_le ?_
        rw [List.length_drop]
        omega
      rw [htake]
      constructor
      · rintro ⟨hlen, hu⟩
        exact ⟨hversion, htype, by omega, hlength.le, hu⟩
      · rintro ⟨-, -, hfour, hfits, hu⟩
        exact ⟨by omega, hu⟩

/-- A positive acknowledge is taken for a UDS response, and so is what follows the declared payload. -/
theorem responseParsers_disagree :
    (¬ ∀ u, parseDoIPDiagnosticResponse [0x02, 0xFD, 0x80, 0x02, 0, 0, 0, 5, 0x10, 0, 0x0E, 0, 0] = some u ↔
      ControllerReads [0x02, 0xFD, 0x80, 0x02, 0, 0, 0, 5, 0x10, 0, 0x0E, 0, 0] u) ∧
    ¬ ∀ u, parseDoIPDiagnosticResponse [0x02, 0xFD, 0x80, 0x01, 0, 0, 0, 5, 0x10, 0, 0x0E, 0, 0x7E, 0x55] =
        some u ↔
      ControllerReads [0x02, 0xFD, 0x80, 0x01, 0, 0, 0, 5, 0x10, 0, 0x0E, 0, 0x7E, 0x55] u := by
  refine ⟨fun hagree => ?_, fun hagree => ?_⟩
  · have hread := controllerReads_iff.mp ((hagree [0]).mp rfl)
    exact absurd hread.2.1 (by decide)
  · have hread := controllerReads_iff.mp ((hagree [0x7E, 0x55]).mp rfl)
    exact absurd hread.2.2.2.2 (by decide)

end Mcus.Vmg
