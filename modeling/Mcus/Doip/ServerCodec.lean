import Mcus.Doip.Message
import Mcus.Doip.Server

/-! # The server's encoder

`DoIPMessage::toBytes` converts both header fields to network byte order and then takes their bytes
with shifts, most significant first, which is a conversion of its own. On a little-endian host the
fields leave the server byte-reversed, so exactly the messages whose type and length read the same
backwards survive.
-/

namespace Mcus.Doip
open ByteOrder
set_option autoImplicit false

/-- A message comes back from the server's own decoder, and its bytes are the wire format, which the
controllers' decoder accepts. -/
structure RoundTrips (type : UInt16) (payload : List UInt8) : Prop where
  decoded : fromBytes (toBytes (doIPMessage type payload)) (toBytes (doIPMessage type payload)).length =
    .returns (doIPMessage type payload)
  onTheWire : toBytes (doIPMessage type payload) = wire type payload
  parsed : Parses (toBytes (doIPMessage type payload)) (toBytes (doIPMessage type payload)).length
    type payload

def FieldsPalindromic (type : UInt16) (length : UInt32) : Prop :=
  htons type = type ∧ htonl length = length

variable {type type' : UInt16} {length : UInt32} {payload payload' : List UInt8}

theorem toBytes_eq_frame (type : UInt16) (payload : List UInt8) : toBytes (doIPMessage type payload) =
    frame (htons type) (htonl (UInt32.ofNat payload.length)) payload := rfl

theorem toBytes_eq_wire_iff : toBytes (doIPMessage type payload) = wire type payload ↔
    FieldsPalindromic type (UInt32.ofNat payload.length) := by
  rw [toBytes_eq_frame, wire]
  constructor
  · intro h
    obtain ⟨htype, hlength, -⟩ := frame_injective h
    exact ⟨htype, hlength⟩
  · rintro ⟨htype, hlength⟩
    rw [htype, hlength]

/-- What a decoder takes from a frame are the fields of the frame, as long as the payload is
complete. -/
theorem fields_of_fromBytes (h : fromBytes (frame type' length payload')
    (frame type' length payload').length = .returns (doIPMessage type payload)) :
    type' = type ∧ length.toNat = payload.length := by
  have hheader : HeaderOk (frame type' length payload') (frame type' length payload').length :=
    ⟨by rw [frame_length]; omega, versionOk_frame _ _ _⟩
  rw [fromBytes_of_header hheader, typeField_frame, lengthField_frame, frame_drop, frame_length] at h
  split at h
  case isTrue => cases h
  case isFalse =>
    split at h
    case isFalse => cases h
    case isTrue hroom =>
      have hmsg := FromBytes.returns.inj h
      have htype := congrArg (fun m => m.header.payloadType) hmsg
      have hpayload : payload'.take length.toNat = payload := congrArg DoIPMessage.payloadData hmsg
      refine ⟨htype, ?_⟩
      rw [← hpayload, List.length_take]
      omega

theorem fields_of_parses {bufLen : ℕ} {buf : List UInt8} (h : Parses buf bufLen type payload) :
    typeField buf = type ∧ (lengthField buf).toNat = payload.length := by
  obtain ⟨header, hparse, htype, hlength, -⟩ := h
  obtain ⟨hfield, hfield'⟩ := doipNtoh_fields buf
  have hheader : some (⟨buf.getD 0 0, buf.getD 1 0, typeField buf, lengthField buf⟩ : DoIPHeader) =
      some header := by
    rw [← hfield, ← hfield']
    have hsome := congrArg ParsedMessage.header hparse
    unfold doipParseMessage at hsome
    split at hsome
    case isTrue => cases hsome
    case isFalse =>
      dsimp only at hsome
      split at hsome
      case isTrue => exact hsome
      case isFalse =>
        split at hsome
        case isTrue => exact hsome
        case isFalse => exact hsome
  obtain rfl := Option.some.inj hheader
  exact ⟨htype, hlength⟩

theorem eq_lengthOf (hlen : payload.length < 2 ^ 32 - 8) (h : length.toNat = payload.length) :
    length = UInt32.ofNat payload.length :=
  UInt32.toNat_inj.mp (h.trans (lengthOf_toNat hlen).symm)

section Codec
variable (hlen : payload.length < 2 ^ 32 - 8)
include hlen

theorem decodes_iff :
    fromBytes (toBytes (doIPMessage type payload)) (toBytes (doIPMessage type payload)).length =
      .returns (doIPMessage type payload) ↔ FieldsPalindromic type (UInt32.ofNat payload.length) := by
  constructor
  · intro h
    obtain ⟨htype, hlength⟩ := fields_of_fromBytes h
    exact ⟨htype, eq_lengthOf hlen hlength⟩
  · intro h
    rw [toBytes_eq_wire_iff.mpr h]
    exact fromBytes_wire type hlen

theorem parses_toBytes_iff :
    Parses (toBytes (doIPMessage type payload)) (toBytes (doIPMessage type payload)).length type payload ↔
      FieldsPalindromic type (UInt32.ofNat payload.length) := by
  constructor
  · intro h
    obtain ⟨htype, hlength⟩ := fields_of_parses h
    rw [toBytes_eq_frame, typeField_frame] at htype
    rw [toBytes_eq_frame, lengthField_frame] at hlength
    exact ⟨htype, eq_lengthOf hlen hlength⟩
  · intro h
    rw [toBytes_eq_wire_iff.mpr h]
    exact parses_wire type hlen

/-- **Codec.** A message survives the server's encoder exactly when `htons` and `htonl` leave its
type and its length alone. -/
theorem roundTrips_iff :
    RoundTrips type payload ↔ FieldsPalindromic type (UInt32.ofNat payload.length) := by
  constructor
  · intro h
    exact (decodes_iff hlen).mp h.decoded
  · intro h
    exact ⟨(decodes_iff hlen).mpr h, toBytes_eq_wire_iff.mpr h, (parses_toBytes_iff hlen).mpr h⟩

end Codec

theorem roundTrips_palindrome : RoundTrips 0x0101 [] :=
  (roundTrips_iff (by decide)).mpr ⟨by decide, by decide⟩

/-- A diagnostic message does not: its own decoder finds the payload truncated. -/
theorem diagnosticMessage_garbled : ¬ RoundTrips 0x8001 [0x0E, 0x80, 0x01, 0x00, 0x3E, 0x00] := by
  intro h
  exact absurd h.decoded (by decide)

end Mcus.Doip
