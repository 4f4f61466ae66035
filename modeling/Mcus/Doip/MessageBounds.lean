import Mcus.Doip.Message

/-! # Bounds of the controllers' codec

`doip_parse_message` and `doip_build_message` add the eight header bytes to a 32-bit length before
they compare the sum with the size of a buffer. The sum wraps around for the eight largest lengths,
and then almost any buffer is large enough.
-/

namespace Mcus.Doip
open ByteOrder
set_option autoImplicit false

/-- A buffer of `bufLen` bytes is accepted exactly when it holds the header of version 2 and the
payload that the header declares. -/
def ParsesExactly (buf : List UInt8) (bufLen : ℕ) : Prop :=
  ((doipParseMessage buf bufLen).code = 0 ↔
    8 ≤ bufLen ∧ VersionOk buf ∧ 8 + (lengthField buf).toNat ≤ bufLen) ∧
  ∀ start, (doipParseMessage buf bufLen).code = 0 → (doipParseMessage buf bufLen).payload = .offset start →
    start + (lengthField buf).toNat ≤ bufLen

/-- What is built fits the output buffer. -/
def BuildsWithin (type : UInt16) (payload : List UInt8) (payloadLen : UInt32) (outCap : ℕ) : Prop :=
  (doipBuildMessage type payload payloadLen outCap).length ≠ 0 → 8 + payloadLen.toNat ≤ outCap

section Bounds
variable {buf : List UInt8} {bufLen outCap : ℕ} {length : UInt32}

theorem code_eq_zero_iff : (doipParseMessage buf bufLen).code = 0 ↔
    8 ≤ bufLen ∧ VersionOk buf ∧ (8 + lengthField buf).toNat ≤ bufLen := by
  constructor
  · intro hcode
    have hparse : doipParseMessage buf bufLen =
        ⟨0, (doipParseMessage buf bufLen).header, (doipParseMessage buf bufLen).payload⟩ := by rw [← hcode]
    exact doipParseMessage_ok hparse
  · rintro ⟨hlen, hversion, hroom⟩
    rw [doipParseMessage_eq hlen hversion hroom]

/-- Behind a header, the wrapped sum says what the sum says unless it wraps into a short buffer. -/
theorem room_iff (hlen : 8 ≤ bufLen) (hbound : length.toNat < 2 ^ 32 - 8 ∨ 8 + length.toNat ≤ bufLen) :
    (8 + length).toNat ≤ bufLen ↔ 8 + length.toNat ≤ bufLen := by
  by_cases hsmall : length.toNat < 2 ^ 32 - 8
  · rw [header_add_toNat hsmall]
  · have hwraps := header_add_wraps hsmall
    exact iff_of_true (by omega) (hbound.resolve_left hsmall)

theorem parsesExactly_iff : ParsesExactly buf bufLen ↔
    (8 ≤ bufLen → VersionOk buf →
      (lengthField buf).toNat < 2 ^ 32 - 8 ∨ 8 + (lengthField buf).toNat ≤ bufLen) := by
  constructor
  · rintro ⟨hcode, -⟩ hlen hversion
    by_contra hneither
    obtain ⟨hlarge, hshort⟩ := not_or.mp hneither
    have hwraps := header_add_wraps hlarge
    exact hshort (hcode.mp (code_eq_zero_iff.mpr ⟨hlen, hversion, by omega⟩)).2.2
  · intro hbound
    have hcode : (doipParseMessage buf bufLen).code = 0 ↔
        8 ≤ bufLen ∧ VersionOk buf ∧ 8 + (lengthField buf).toNat ≤ bufLen := by
      rw [code_eq_zero_iff]
      constructor
      · rintro ⟨hlen, hversion, hroom⟩
        exact ⟨hlen, hversion, (room_iff hlen (hbound hlen hversion)).mp hroom⟩
      · rintro ⟨hlen, hversion, hroom⟩
        exact ⟨hlen, hversion, (room_iff hlen (hbound hlen hversion)).mpr hroom⟩
    refine ⟨hcode, ?_⟩
    intro start hzero hstart
    obtain ⟨hlen, hversion, hroom⟩ := hcode.mp hzero
    rw [doipParseMessage_eq hlen hversion ((room_iff hlen (hbound hlen hversion)).mpr hroom)] at hstart
    dsimp only at hstart
    split at hstart
    case isTrue =>
      obtain rfl := PayloadPointer.offset.inj hstart
      exact hroom
    case isFalse => cases hstart

theorem length_of_built (type : UInt16) (payload : List UInt8) :
    (doipBuildMessage type payload length outCap).length =
      if outCap < (8 + length).toNat then 0 else 8 + length := by
  unfold doipBuildMessage
  split <;> rfl

theorem header_add_of_large (hlarge : ¬ length.toNat < 2 ^ 32 - 8) :
    (8 + length).toNat = length.toNat - (2 ^ 32 - 8) := by
  have h8 : (8 : UInt32).toNat = 8 := rfl
  have hlt := length.toNat_lt
  rw [UInt32.toNat_add, h8]
  omega

theorem buildsWithin_iff (type : UInt16) (payload : List UInt8) :
    BuildsWithin type payload length outCap ↔
      length.toNat ≤ 2 ^ 32 - 8 ∨ outCap < length.toNat - (2 ^ 32 - 8) ∨ 8 + length.toNat ≤ outCap := by
  have h0 : (0 : UInt32).toNat = 0 := rfl
  unfold BuildsWithin
  rw [length_of_built]
  by_cases hsmall : length.toNat < 2 ^ 32 - 8
  · refine iff_of_true ?_ (Or.inl hsmall.le)
    intro hbuilt
    have hroom : ¬ outCap < (8 + length).toNat := fun hshort => hbuilt (if_pos hshort)
    rw [header_add_toNat hsmall] at hroom
    exact Nat.le_of_not_lt hroom
  · have hsum := header_add_of_large hsmall
    have hzero : (8 + length = 0) ↔ length.toNat = 2 ^ 32 - 8 := by
      rw [← UInt32.toNat_inj, hsum, h0]
      omega
    rw [hsum]
    by_cases hshort : outCap < length.toNat - (2 ^ 32 - 8)
    · rw [if_pos hshort]
      exact iff_of_true (fun h => absurd rfl h) (Or.inr (Or.inl hshort))
    · rw [if_neg hshort, ne_eq, hzero]
      omega

end Bounds

/-- **Bounds.** The parser is exact unless the declared length is one of the eight largest and does
not fit, and a message that is built fits unless its length is one of the seven largest and the
wrapped sum does fit. -/
theorem message_bounds_iff (type : UInt16) (buf payload : List UInt8) (bufLen outCap : ℕ)
    (payloadLen : UInt32) :
    (ParsesExactly buf bufLen ↔ (8 ≤ bufLen → VersionOk buf →
      (lengthField buf).toNat < 2 ^ 32 - 8 ∨ 8 + (lengthField buf).toNat ≤ bufLen)) ∧
    (BuildsWithin type payload payloadLen outCap ↔
      payloadLen.toNat ≤ 2 ^ 32 - 8 ∨ outCap < payloadLen.toNat - (2 ^ 32 - 8) ∨
        8 + payloadLen.toNat ≤ outCap) :=
  ⟨parsesExactly_iff, buildsWithin_iff type payload⟩

/-- A bare header that declares the largest length is accepted, and eight bytes are room enough for
such a message. -/
theorem message_bounds_wrap :
    ¬ ParsesExactly [0x02, 0xFD, 0x80, 0x01, 0xFF, 0xFF, 0xFF, 0xFF] 8 ∧
      ¬ BuildsWithin 0x8001 [] 0xFFFFFFFF 8 := by
  rw [parsesExactly_iff, buildsWithin_iff]
  decide

end Mcus.Doip
