import Mcus.Doip.Wire

/-! # The DoIP messages of the controllers

`doip_message.c` of the boot loader, on a little-endian controller with 32-bit sizes: a header field
is copied between a word and a buffer as it lies in memory, and its bytes are reversed. A buffer is
its contents and the length that the caller passes; null buffers are left out.
-/

namespace Mcus.Doip
open ByteOrder
set_option autoImplicit false

def doipNtohs (x : UInt16) : UInt16 := swap16 x

def doipNtohl (x : UInt32) : UInt32 := swap32 x

/-- What `doip_parse_message` stores behind `payload_out`. -/
inductive PayloadPointer
  | unset
  | null
  | offset (n : ℕ)
  deriving DecidableEq, Repr

/-- The return value, and what is stored behind the two output pointers. -/
structure ParsedMessage where
  code : Int
  header : Option DoIPHeader
  payload : PayloadPointer
  deriving DecidableEq, Repr

def doipParseMessage (buf : List UInt8) (bufLen : ℕ) : ParsedMessage :=
  if bufLen < 8 then ⟨-1, none, .unset⟩
  else
    let ptBe := word16 (buf.getD 3 0) (buf.getD 2 0)
    let lenBe := word32 (buf.getD 7 0) (buf.getD 6 0) (buf.getD 5 0) (buf.getD 4 0)
    let header := ⟨buf.getD 0 0, buf.getD 1 0, doipNtohs ptBe, doipNtohl lenBe⟩
    if header.protocolVersion ≠ protocolVersion ∨
        header.inverseProtocolVersion ≠ inverseProtocolVersion then ⟨-2, some header, .unset⟩
    -- the sum is one of 32-bit words
    else if bufLen < (8 + header.payloadLength).toNat then ⟨-1, some header, .unset⟩
    else ⟨0, some header, if 0 < header.payloadLength then .offset 8 else .null⟩

/-- The message accepted from a buffer: its type, and as many payload bytes as declared. -/
def Parses (buf : List UInt8) (bufLen : ℕ) (type : UInt16) (payload : List UInt8) : Prop :=
  ∃ header, doipParseMessage buf bufLen =
      ⟨0, some header, if payload = [] then .null else .offset 8⟩ ∧
    header.payloadType = type ∧ header.payloadLength.toNat = payload.length ∧
      (buf.drop 8).take header.payloadLength.toNat = payload

/-- A message taken apart by `doip_parse_diagnostic_message`. -/
structure ParsedDiagnostic where
  sourceAddress : UInt16
  targetAddress : UInt16
  udsData : List UInt8
  udsLen : ℕ

/-- The payload is what lies behind the pointer, which may be null. -/
def doipParseDiagnosticMessage (payload : Option (List UInt8)) (payloadLen : ℕ) :
    Option ParsedDiagnostic :=
  match payload with
  | none => none
  | some payload =>
    if payloadLen < 4 then none
    else
      let saBe := word16 (payload.getD 1 0) (payload.getD 0 0)
      let taBe := word16 (payload.getD 3 0) (payload.getD 2 0)
      let udsLen := payloadLen - 4
      some ⟨doipNtohs saBe, doipNtohs taBe, (payload.drop 4).take udsLen, udsLen⟩

structure DoIPRoutingActivationRes where
  testerAddress : UInt16
  entityAddress : UInt16
  responseCode : UInt8
  reserved : UInt32
  oemSpecific : UInt32
  deriving DecidableEq, Repr

def doipParseRoutingActivationRes (payload : Option (List UInt8)) (payloadLen : ℕ) :
    Option DoIPRoutingActivationRes :=
  match payload with
  | none => none
  | some payload =>
    if payloadLen < 9 then none
    else
      let testerBe := word16 (payload.getD 1 0) (payload.getD 0 0)
      let entityBe := word16 (payload.getD 3 0) (payload.getD 2 0)
      let reservedBe := word32 (payload.getD 8 0) (payload.getD 7 0) (payload.getD 6 0) (payload.getD 5 0)
      let oemBe := word32 (payload.getD 12 0) (payload.getD 11 0) (payload.getD 10 0) (payload.getD 9 0)
      some ⟨doipNtohs testerBe, doipNtohs entityBe, payload.getD 4 0, doipNtohl reservedBe,
        if 13 ≤ payloadLen then doipNtohl oemBe else 0⟩

abbrev doipVinLength : ℕ := 17
abbrev doipEidLength : ℕ := 6
abbrev doipGidLength : ℕ := 6

structure DoIPVehicleIdRes where
  vin : List UInt8
  logicalAddress : UInt16
  eid : List UInt8
  gid : List UInt8
  furtherActionRequired : UInt8
  vinGidSyncStatus : UInt8
  deriving DecidableEq, Repr

def doipParseVehicleIdRes (payload : Option (List UInt8)) (payloadLen : ℕ) : Option DoIPVehicleIdRes :=
  match payload with
  | none => none
  | some payload =>
    if payloadLen < 33 then none
    else
      let addrBe := word16 (payload.getD 18 0) (payload.getD 17 0)
      some ⟨payload.take doipVinLength, doipNtohs addrBe, (payload.drop 19).take doipEidLength,
        (payload.drop 25).take doipGidLength, payload.getD 31 0,
        if 33 ≤ payloadLen then payload.getD 32 0 else 0⟩

/-! ## Building -/

def doipHtons (x : UInt16) : UInt16 := swap16 x

def doipHtonl (x : UInt32) : UInt32 := swap32 x

/-- The length returned, and what is written to the output buffer. -/
structure BuiltMessage where
  length : UInt32
  bytes : List UInt8
  deriving DecidableEq, Repr

def doipBuildMessage (payloadType : UInt16) (payload : List UInt8) (payloadLen : UInt32)
    (outCap : ℕ) : BuiltMessage :=
  if outCap < (8 + payloadLen).toNat then ⟨0, []⟩
  else ⟨8 + payloadLen, [protocolVersion, inverseProtocolVersion] ++ leBytes16 (doipHtons payloadType) ++
    leBytes32 (doipHtonl payloadLen) ++ payload.take payloadLen.toNat⟩

def doipBuildDiagnosticMessage (sourceAddress targetAddress : UInt16) (udsData : List UInt8)
    (outCap : ℕ) : BuiltMessage :=
  let payloadLen := 4 + UInt32.ofNat udsData.length
  if outCap < (8 + payloadLen).toNat then ⟨0, []⟩
  else doipBuildMessage diagnosticMessage (leBytes16 (doipHtons sourceAddress) ++
    leBytes16 (doipHtons targetAddress) ++ udsData) payloadLen outCap

def doipBuildRoutingActivationReq (sourceAddress : UInt16) (activationType : UInt8) (outCap : ℕ) :
    BuiltMessage :=
  doipBuildMessage routingActivationReq (leBytes16 (doipHtons sourceAddress) ++ [activationType, 0, 0, 0, 0])
    7 outCap

def doipBuildVehicleIdReq (outCap : ℕ) : BuiltMessage := doipBuildMessage vehicleIdentificationReq [] 0 outCap

/-! ## What is accepted -/

theorem doipNtoh_fields (buf : List UInt8) :
    doipNtohs (word16 (buf.getD 3 0) (buf.getD 2 0)) = typeField buf ∧
      doipNtohl (word32 (buf.getD 7 0) (buf.getD 6 0) (buf.getD 5 0) (buf.getD 4 0)) =
        lengthField buf :=
  ⟨swap16_word16 _ _, swap32_word32 _ _ _ _⟩

theorem doipParseMessage_eq {buf : List UInt8} {bufLen : ℕ} (hlen : 8 ≤ bufLen)
    (hversion : VersionOk buf) (hroom : (8 + lengthField buf).toNat ≤ bufLen) :
    doipParseMessage buf bufLen =
      ⟨0, some ⟨protocolVersion, inverseProtocolVersion, typeField buf, lengthField buf⟩,
        if 0 < lengthField buf then .offset 8 else .null⟩ := by
  obtain ⟨htype, hlength⟩ := doipNtoh_fields buf
  obtain ⟨h0, h1⟩ := hversion
  unfold doipParseMessage
  rw [if_neg (Nat.not_lt.mpr hlen)]
  simp only [htype, hlength, h0, h1, ne_eq, not_true_eq_false, or_self, if_false,
    if_neg (Nat.not_lt.mpr hroom)]

theorem doipParseMessage_ok {buf : List UInt8} {bufLen : ℕ} {header : Option DoIPHeader}
    {payload : PayloadPointer} (h : doipParseMessage buf bufLen = ⟨0, header, payload⟩) :
    8 ≤ bufLen ∧ VersionOk buf ∧ (8 + lengthField buf).toNat ≤ bufLen := by
  obtain ⟨htype, hlength⟩ := doipNtoh_fields buf
  unfold doipParseMessage at h
  by_cases hlen : bufLen < 8
  · rw [if_pos hlen] at h
    cases h
  rw [if_neg hlen] at h
  simp only [htype, hlength] at h
  by_cases hversion : buf.getD 0 0 ≠ protocolVersion ∨ buf.getD 1 0 ≠ inverseProtocolVersion
  · rw [if_pos hversion] at h
    cases h
  rw [if_neg hversion] at h
  by_cases hroom : bufLen < (8 + lengthField buf).toNat
  · rw [if_pos hroom] at h
    cases h
  · simp only [ne_eq, not_or, not_not] at hversion
    exact ⟨Nat.le_of_not_lt hlen, hversion, Nat.le_of_not_lt hroom⟩

/-! ## What is built -/

theorem doipBuildMessage_eq (type : UInt16) (payload : List UInt8) {payloadLen : UInt32} {outCap : ℕ}
    (hroom : (8 + payloadLen).toNat ≤ outCap) :
    doipBuildMessage type payload payloadLen outCap =
      ⟨8 + payloadLen, frame type payloadLen (payload.take payloadLen.toNat)⟩ := by
  rw [doipBuildMessage, if_neg (Nat.not_lt.mpr hroom), frame, doipHtons, doipHtonl, leBytes16_swap16,
    leBytes32_swap32]

theorem doipBuildMessage_wire (type : UInt16) {payload : List UInt8} {outCap : ℕ}
    (hlen : payload.length < 2 ^ 32 - 8) (hroom : 8 + payload.length ≤ outCap) :
    doipBuildMessage type payload (UInt32.ofNat payload.length) outCap =
      ⟨8 + UInt32.ofNat payload.length, wire type payload⟩ := by
  have hn := lengthOf_toNat hlen
  have hsum : (8 + UInt32.ofNat payload.length).toNat = 8 + payload.length := by
    rw [header_add_toNat (by omega), hn]
  rw [doipBuildMessage_eq type payload (by omega), hn, List.take_length, wire]

/-- The payload pointer in terms of the payload. -/
theorem pointer_eq {length : UInt32} {payload : List UInt8} (hlen : length.toNat = payload.length) :
    (if 0 < length then PayloadPointer.offset 8 else .null) = if payload = [] then .null else .offset 8 := by
  have hzero : (0 : UInt32).toNat = 0 := rfl
  cases payload with
  | nil =>
    rw [List.length_nil] at hlen
    have hnot : ¬ 0 < length := by
      rw [UInt32.lt_iff_toNat_lt]
      omega
    rw [if_neg hnot, if_pos rfl]
  | cons b payload =>
    rw [List.length_cons] at hlen
    have hpos : 0 < length := by
      rw [UInt32.lt_iff_toNat_lt]
      omega
    rw [if_pos hpos, if_neg (List.cons_ne_nil b payload)]

/-- A message is found in front of whatever follows it. -/
theorem doipParseMessage_wire (type : UInt16) {payload : List UInt8} (rest : List UInt8)
    (hlen : payload.length < 2 ^ 32 - 8) {bufLen : ℕ} (hroom : 8 + payload.length ≤ bufLen) :
    doipParseMessage (wire type payload ++ rest) bufLen =
      ⟨0, some ⟨protocolVersion, inverseProtocolVersion, type, UInt32.ofNat payload.length⟩,
        if payload = [] then .null else .offset 8⟩ := by
  have hn := lengthOf_toNat hlen
  have hsize : (wire type payload).length = 8 + payload.length := frame_length _ _ _
  have h8 : 8 ≤ (wire type payload).length := by omega
  have hfield : lengthField (wire type payload ++ rest) = UInt32.ofNat payload.length :=
    (lengthField_append rest h8).trans (lengthField_frame _ _ _)
  have htype : typeField (wire type payload ++ rest) = type :=
    (typeField_append rest h8).trans (typeField_frame _ _ _)
  have hversion : VersionOk (wire type payload ++ rest) :=
    (versionOk_append rest h8).mpr (versionOk_frame _ _ _)
  have hfits : (8 + lengthField (wire type payload ++ rest)).toNat ≤ bufLen := by
    rw [hfield, header_add_toNat (by omega), hn]
    exact hroom
  rw [doipParseMessage_eq (by omega) hversion hfits, htype, hfield, pointer_eq hn]

theorem parses_wire (type : UInt16) {payload : List UInt8} (hlen : payload.length < 2 ^ 32 - 8) :
    Parses (wire type payload) (wire type payload).length type payload := by
  have hn := lengthOf_toNat hlen
  have hsize : (wire type payload).length = 8 + payload.length := frame_length _ _ _
  have hparse := doipParseMessage_wire type [] hlen hsize.ge
  rw [List.append_nil] at hparse
  refine ⟨⟨protocolVersion, inverseProtocolVersion, type, UInt32.ofNat payload.length⟩, hparse, rfl, hn, ?_⟩
  rw [hn, wire, frame_drop, List.take_length]

end Mcus.Doip
