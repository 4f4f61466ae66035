import Mathlib.Data.List.GetD
import Mcus.Foundations.ByteOrder

/-! # DoIP frames

The 8-byte header of ISO 13400 in network byte order, and the payload behind it. `frame` writes a
header with an arbitrary declared length, and `wire` the one whose length is the payload's. The two
fields are read with the same shifts by every decoder of the repository.
-/

namespace Mcus.Doip
open ByteOrder
set_option autoImplicit false

abbrev protocolVersion : UInt8 := 0x02
abbrev inverseProtocolVersion : UInt8 := 0xFD

abbrev vehicleIdentificationReq : UInt16 := 0x0001
abbrev vehicleIdentificationRes : UInt16 := 0x0004
abbrev routingActivationReq : UInt16 := 0x0005
abbrev routingActivationRes : UInt16 := 0x0006
abbrev aliveCheckReq : UInt16 := 0x0007
abbrev aliveCheckRes : UInt16 := 0x0008
abbrev diagnosticMessage : UInt16 := 0x8001
abbrev diagnosticMessagePosAck : UInt16 := 0x8002
abbrev diagnosticMessageNegAck : UInt16 := 0x8003

/-- `DoIPHeader` of the server and `DoIPHeader_t` of the client, in host byte order. -/
structure DoIPHeader where
  protocolVersion : UInt8
  inverseProtocolVersion : UInt8
  payloadType : UInt16
  payloadLength : UInt32
  deriving DecidableEq, Repr

/-- `(data[2] << 8) | data[3]`. -/
def typeField (data : List UInt8) : UInt16 := word16 (data.getD 2 0) (data.getD 3 0)

/-- `(data[4] << 24) | (data[5] << 16) | (data[6] << 8) | data[7]`. -/
def lengthField (data : List UInt8) : UInt32 :=
  word32 (data.getD 4 0) (data.getD 5 0) (data.getD 6 0) (data.getD 7 0)

def VersionOk (data : List UInt8) : Prop :=
  data.getD 0 0 = protocolVersion ∧ data.getD 1 0 = inverseProtocolVersion

instance (data : List UInt8) : Decidable (VersionOk data) := inferInstanceAs (Decidable (_ ∧ _))

/-- A header with the given fields, and a payload. -/
def frame (type : UInt16) (length : UInt32) (payload : List UInt8) : List UInt8 :=
  [protocolVersion, inverseProtocolVersion] ++ beBytes16 type ++ beBytes32 length ++ payload

def wire (type : UInt16) (payload : List UInt8) : List UInt8 :=
  frame type (UInt32.ofNat payload.length) payload

/-! ## Reading a frame back -/

section Frame
variable (type : UInt16) (length : UInt32) (payload : List UInt8)

theorem frame_length : (frame type length payload).length = 8 + payload.length := by
  simp only [frame, beBytes16, beBytes32, List.length_append, List.length_cons, List.length_nil]

theorem versionOk_frame : VersionOk (frame type length payload) := ⟨rfl, rfl⟩

theorem typeField_frame : typeField (frame type length payload) = type := word16_bytes type

theorem lengthField_frame : lengthField (frame type length payload) = length := word32_bytes length

theorem frame_drop : (frame type length payload).drop 8 = payload := rfl

end Frame

section Append
variable {data : List UInt8} (rest : List UInt8) (hlen : 8 ≤ data.length)
include hlen

theorem getD_append {i : ℕ} (hi : i < 8) : (data ++ rest).getD i 0 = data.getD i 0 :=
  List.getD_append _ _ _ _ (by omega)

theorem typeField_append : typeField (data ++ rest) = typeField data := by
  unfold typeField
  rw [getD_append rest hlen (by omega), getD_append rest hlen (by omega)]

theorem lengthField_append : lengthField (data ++ rest) = lengthField data := by
  unfold lengthField
  rw [getD_append rest hlen (by omega), getD_append rest hlen (by omega),
    getD_append rest hlen (by omega), getD_append rest hlen (by omega)]

theorem versionOk_append : VersionOk (data ++ rest) ↔ VersionOk data := by
  unfold VersionOk
  rw [getD_append rest hlen (by omega), getD_append rest hlen (by omega)]

end Append

theorem frame_injective {type type' : UInt16} {length length' : UInt32} {payload payload' : List UInt8}
    (h : frame type length payload = frame type' length' payload') :
    type = type' ∧ length = length' ∧ payload = payload' := by
  refine ⟨?_, ?_, ?_⟩
  · rw [← typeField_frame type length payload, h, typeField_frame]
  · rw [← lengthField_frame type length payload, h, lengthField_frame]
  · rw [← frame_drop type length payload, h, frame_drop]

/-- Every buffer with the right version is the frame of its own fields. -/
theorem frame_fields {data : List UInt8} (hlen : 8 ≤ data.length) (hversion : VersionOk data) :
    frame (typeField data) (lengthField data) (data.drop 8) = data := by
  obtain ⟨h0, h1⟩ := hversion
  match data, hlen with
  | b0 :: b1 :: b2 :: b3 :: b4 :: b5 :: b6 :: b7 :: payload, _ =>
    have e0 : b0 = protocolVersion := h0
    have e1 : b1 = inverseProtocolVersion := h1
    have htype : typeField (b0 :: b1 :: b2 :: b3 :: b4 :: b5 :: b6 :: b7 :: payload) = word16 b2 b3 := rfl
    have hlength : lengthField (b0 :: b1 :: b2 :: b3 :: b4 :: b5 :: b6 :: b7 :: payload) =
        word32 b4 b5 b6 b7 := rfl
    rw [htype, hlength, frame, beBytes16_word16, beBytes32_word32, ← e0, ← e1]
    rfl

/-! ## Lengths and the header -/

theorem lengthOf_toNat {payload : List UInt8} (hlen : payload.length < 2 ^ 32 - 8) :
    (UInt32.ofNat payload.length).toNat = payload.length :=
  UInt32.toNat_ofNat_of_lt' (hlen.trans (by decide))

theorem header_add_toNat {length : UInt32} (hlen : length.toNat < 2 ^ 32 - 8) :
    (8 + length).toNat = 8 + length.toNat := by
  have h8 : (8 : UInt32).toNat = 8 := rfl
  rw [UInt32.toNat_add, h8, Nat.mod_eq_of_lt (by omega)]

theorem header_add_wraps {length : UInt32} (hlen : ¬ length.toNat < 2 ^ 32 - 8) :
    (8 + length).toNat < 8 := by
  have h8 : (8 : UInt32).toNat = 8 := rfl
  have hlt := length.toNat_lt
  rw [UInt32.toNat_add, h8]
  omega

end Mcus.Doip
