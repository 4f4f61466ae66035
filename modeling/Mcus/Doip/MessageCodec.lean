import Mcus.Doip.Message

/-! # The controllers' codec

`doip_build_message` reverses the bytes of a field and stores it as it lies in memory, and
`doip_parse_message` undoes both, so builder and parser are inverse to each other: what was built is
found again whatever follows it, and what fills a buffer is built again from what was found.
-/

namespace Mcus.Doip
open ByteOrder
set_option autoImplicit false

/-- The parser accepts what was built, with `rest` behind it, and points at the payload. -/
structure FoundAgain (type : UInt16) (payload : List UInt8) (built : BuiltMessage) (rest : List UInt8) :
    Prop where
  length : built.length.toNat = 8 + payload.length
  written : built.bytes.length = 8 + payload.length
  parsed : doipParseMessage (built.bytes ++ rest) (built.bytes ++ rest).length =
    ⟨0, some ⟨0x02, 0xFD, type, UInt32.ofNat payload.length⟩, if payload = [] then .null else .offset 8⟩
  declared : (UInt32.ofNat payload.length).toNat = payload.length
  pointed : ((built.bytes ++ rest).drop 8).take payload.length = payload

/-- A buffer that one accepted message fills is built again from the type and the payload found. -/
structure BuiltAgain (buf : List UInt8) (header : DoIPHeader) (pointer : PayloadPointer) (outCap : ℕ) :
    Prop where
  pointed : pointer = if buf.drop 8 = [] then .null else .offset 8
  built : doipBuildMessage header.payloadType (buf.drop 8) header.payloadLength outCap =
    ⟨UInt32.ofNat buf.length, buf⟩

theorem foundAgain (type : UInt16) {payload : List UInt8} (hlen : payload.length < 2 ^ 32 - 8)
    {outCap : ℕ} (hroom : 8 + payload.length ≤ outCap) (rest : List UInt8) :
    FoundAgain type payload (doipBuildMessage type payload (UInt32.ofNat payload.length) outCap) rest := by
  have hn := lengthOf_toNat hlen
  have hsize : (wire type payload).length = 8 + payload.length := frame_length _ _ _
  have hsum : (8 + UInt32.ofNat payload.length).toNat = 8 + payload.length := by
    rw [header_add_toNat (by omega), hn]
  have hfits : 8 + payload.length ≤ (wire type payload ++ rest).length := by
    rw [List.length_append]
    omega
  rw [doipBuildMessage_wire type hlen hroom]
  refine ⟨hsum, hsize, doipParseMessage_wire type rest hlen hfits, hn, ?_⟩
  have h8 : 8 ≤ (wire type payload).length := by omega
  rw [List.drop_append_of_le_length h8, wire, frame_drop, List.take_left]

theorem builtAgain {buf : List UInt8} {header : DoIPHeader} {pointer : PayloadPointer}
    (hparse : doipParseMessage buf buf.length = ⟨0, some header, pointer⟩)
    (hfull : buf.length = 8 + header.payloadLength.toNat) {outCap : ℕ} (hroom : buf.length ≤ outCap) :
    BuiltAgain buf header pointer outCap := by
  obtain ⟨hlen, hversion, hfits⟩ := doipParseMessage_ok hparse
  rw [doipParseMessage_eq hlen hversion hfits] at hparse
  have hheader : header = ⟨protocolVersion, inverseProtocolVersion, typeField buf, lengthField buf⟩ :=
    (Option.some.inj (ParsedMessage.mk.inj hparse).2.1).symm
  have hpointer := (ParsedMessage.mk.inj hparse).2.2
  subst hheader
  dsimp only at hfull
  have hpayload : (lengthField buf).toNat = (buf.drop 8).length := by
    rw [List.length_drop]
    omega
  have htotal : 8 + lengthField buf = UInt32.ofNat buf.length := by
    apply UInt32.toNat_inj.mp
    have h8 : (8 : UInt32).toNat = 8 := rfl
    rw [UInt32.toNat_add, h8, UInt32.toNat_ofNat', hfull]
  constructor
  · rw [← hpointer, pointer_eq hpayload]
  · rw [doipBuildMessage_eq _ _ (hfits.trans hroom), hpayload, List.take_length, frame_fields hlen hversion,
      htotal]

/-- **Codec.** Every message that was built is found again, whatever is appended to it, and every
buffer that an accepted message fills is built again byte for byte. -/
theorem message_codec (outCap : ℕ) :
    (∀ (type : UInt16) (payload rest : List UInt8), payload.length < 2 ^ 32 - 8 →
      8 + payload.length ≤ outCap →
      FoundAgain type payload (doipBuildMessage type payload (UInt32.ofNat payload.length) outCap) rest) ∧
    (∀ (buf : List UInt8) (header : DoIPHeader) (pointer : PayloadPointer),
      doipParseMessage buf buf.length = ⟨0, some header, pointer⟩ →
      buf.length = 8 + header.payloadLength.toNat → buf.length ≤ outCap →
      BuiltAgain buf header pointer outCap) :=
  ⟨fun type _ rest hlen hroom => foundAgain type hlen hroom rest,
    fun _ _ _ hparse hfull hroom => builtAgain hparse hfull hroom⟩

/-- An activation request with two stray bytes behind it, and an alive check. -/
theorem message_codec_activation :
    FoundAgain 0x0005 [0x0E, 0x00, 0x00, 0, 0, 0, 0]
      (doipBuildMessage 0x0005 [0x0E, 0x00, 0x00, 0, 0, 0, 0] 7 4096) [0xAA, 0xBB] ∧
    BuiltAgain [0x02, 0xFD, 0x00, 0x07, 0, 0, 0, 0] ⟨0x02, 0xFD, 0x0007, 0⟩ .null 4096 := by
  obtain ⟨hfound, hbuilt⟩ := message_codec 4096
  exact ⟨hfound 0x0005 [0x0E, 0x00, 0x00, 0, 0, 0, 0] [0xAA, 0xBB] (by decide) (by decide),
    hbuilt [0x02, 0xFD, 0x00, 0x07, 0, 0, 0, 0] ⟨0x02, 0xFD, 0x0007, 0⟩ .null (by decide) rfl (by decide)⟩

end Mcus.Doip
