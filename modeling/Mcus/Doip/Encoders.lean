import Mcus.Doip.Message
import Mcus.Doip.Sessions

/-! # Encoders of diagnostic messages

Besides the controllers' builder there are two more: `buildDoIPDiagnosticMessage` of
`remote_diagnostics_handler.cpp`, and the post-quantum client of the simulator, which writes the
header and the payload to the TLS connection one after the other. All of them write the frame that
the server takes apart.
-/

namespace Mcus.Doip
open ByteOrder
set_option autoImplicit false

/-! ## The remote diagnostics handler -/

/-- `RemoteDiagnosticsHandler::buildDoIPDiagnosticMessage`. -/
def buildDoIPDiagnosticMessage (sourceAddress targetAddress : UInt16) (udsData : List UInt8) :
    List UInt8 :=
  let payloadLen := UInt32.ofNat (4 + udsData.length)
  [0x02, 0xFD] ++ [0x80, 0x01] ++ beBytes32 payloadLen ++ beBytes16 sourceAddress ++
    beBytes16 targetAddress ++ udsData

/-! ## The client of the simulator -/

/-- `PQC_DoIP_Client`. -/
structure PqcDoipClient where
  sourceAddress : UInt16
  routingActivated : Bool

/-- What the two calls of `SSL_write` return. -/
structure SslWrite where
  header : Int
  payload : Int

/-- A 32-bit word as a signed one. -/
def asInt (x : UInt32) : Int := x.toInt32.toInt

/-- The buffers given to `SSL_write`, and the return value. -/
structure SentPacket where
  writes : List (List UInt8)
  result : Int

def sendDoipPacket (payloadType : UInt16) (payload : List UInt8) (payloadLen : UInt32)
    (ssl : SslWrite) : SentPacket :=
  let header := [0x02, ~~~0x02] ++ beBytes16 payloadType ++ beBytes32 payloadLen
  let payload := payload.take payloadLen.toNat
  if ssl.header ≠ 8 then ⟨[header], -1⟩
  else if payloadLen > 0 then
    if ssl.payload ≠ asInt payloadLen then ⟨[header, payload], -1⟩
    else ⟨[header, payload], asInt (payloadLen + 8)⟩
  else ⟨[header], asInt (payloadLen + 8)⟩

/-- The writes, and whether the message was sent. -/
def sendDiagnosticMessage (client : PqcDoipClient) (targetAddress : UInt16) (data : List UInt8)
    (ssl : SslWrite) : List (List UInt8) × Bool :=
  if !client.routingActivated then ([], false)
  else
    let payload := beBytes16 client.sourceAddress ++ beBytes16 targetAddress ++ data
    let packet := sendDoipPacket diagnosticMessage payload (UInt32.ofNat payload.length) ssl
    (packet.writes, decide (packet.result > 0))

/-! ## One format -/

/-- The message of a request between two addresses. -/
def diagnosticFrame (source target : UInt16) (uds : List UInt8) : List UInt8 :=
  wire diagnosticMessage (beBytes16 source ++ beBytes16 target ++ uds)

/-- Every encoder writes `message`. -/
structure EncodedAs (source target : UInt16) (uds message : List UInt8) : Prop where
  builder : ∀ outCap, uds.length + 12 ≤ outCap →
    (doipBuildDiagnosticMessage source target uds outCap).bytes = message ∧
      (doipBuildDiagnosticMessage source target uds outCap).length.toNat = message.length
  remote : buildDoIPDiagnosticMessage source target uds = message
  simulator : sendDiagnosticMessage ⟨source, true⟩ target uds ⟨8, uds.length + 4⟩ =
    ([message.take 8, message.drop 8], true)

/-- The server finds the addresses and the request in `message`, and hands the request on. -/
structure DecodedAs (source target : UInt16) (uds message : List UInt8) (msg : DoIPMessage) : Prop where
  parsed : fromBytes message message.length = .returns msg
  type : msg.header.payloadType = diagnosticMessage
  source : msg.source = source
  target : msg.target = target
  request : ∀ {σ ρ : Type} (udsHandler : Option (UDSHandler σ ρ)) (s : σ) (surroundings : ρ),
    (handleDiagnosticMessage udsHandler msg s surroundings).2.udsRequests = [uds]

theorem asInt_of_small {x : UInt32} (hx : x.toNat < 2 ^ 31) : asInt x = x.toNat := by
  show x.toBitVec.toInt = x.toNat
  exact BitVec.toInt_eq_toNat_of_lt (by show 2 * x.toNat < 2 ^ 32; omega)

section Encode
variable {source target : UInt16} {uds : List UInt8}

theorem addressed_length : (beBytes16 source ++ beBytes16 target ++ uds).length = uds.length + 4 := by
  simp only [beBytes16, List.length_append, List.length_cons, List.length_nil]
  omega

theorem diagnosticFrame_length : (diagnosticFrame source target uds).length = uds.length + 12 := by
  rw [diagnosticFrame, wire, frame_length, addressed_length]
  omega

theorem payloadLen_toNat (hlen : uds.length + 4 < 2 ^ 32) :
    (UInt32.ofNat (uds.length + 4)).toNat = uds.length + 4 :=
  UInt32.toNat_ofNat_of_lt' hlen

/-- The builder's sum of words is the word of the sum. -/
theorem builder_payloadLen : 4 + UInt32.ofNat uds.length = UInt32.ofNat (uds.length + 4) := by
  rw [UInt32.ofNat_add, UInt32.add_comm]
  rfl

theorem builder_writes (hlen : uds.length + 12 < 2 ^ 32) {outCap : ℕ} (hroom : uds.length + 12 ≤ outCap) :
    doipBuildDiagnosticMessage source target uds outCap =
      ⟨8 + UInt32.ofNat (uds.length + 4), diagnosticFrame source target uds⟩ := by
  have hn : (UInt32.ofNat (uds.length + 4)).toNat = uds.length + 4 := payloadLen_toNat (by omega)
  have htotal : (8 + UInt32.ofNat (uds.length + 4)).toNat = uds.length + 12 := by
    rw [header_add_toNat (by omega), hn]
    omega
  have hpayload : (beBytes16 source ++ beBytes16 target ++ uds).length = uds.length + 4 := addressed_length
  have hbuilt : doipBuildMessage diagnosticMessage (beBytes16 source ++ beBytes16 target ++ uds)
      (UInt32.ofNat (beBytes16 source ++ beBytes16 target ++ uds).length) outCap =
        ⟨8 + UInt32.ofNat (beBytes16 source ++ beBytes16 target ++ uds).length,
          diagnosticFrame source target uds⟩ := doipBuildMessage_wire diagnosticMessage (by omega) (by omega)
  rw [hpayload] at hbuilt
  simp only [doipBuildDiagnosticMessage, builder_payloadLen]
  rw [if_neg (by omega), doipHtons, doipHtons, leBytes16_swap16, leBytes16_swap16, hbuilt]

theorem remote_writes :
    buildDoIPDiagnosticMessage source target uds = diagnosticFrame source target uds := by
  have htype : beBytes16 diagnosticMessage = [0x80, 0x01] := rfl
  rw [diagnosticFrame, wire, frame, addressed_length, buildDoIPDiagnosticMessage, htype,
    Nat.add_comm 4]
  simp only [List.append_assoc]

theorem simulator_writes (hlen : uds.length ≤ 2 ^ 31 - 16) :
    sendDiagnosticMessage ⟨source, true⟩ target uds ⟨8, uds.length + 4⟩ =
      ([(diagnosticFrame source target uds).take 8, (diagnosticFrame source target uds).drop 8], true) := by
  have hn : (UInt32.ofNat (uds.length + 4)).toNat = uds.length + 4 := payloadLen_toNat (by omega)
  have hsum : (UInt32.ofNat (uds.length + 4) + 8).toNat = uds.length + 12 := by
    rw [UInt32.add_comm, header_add_toNat (by omega), hn]
    omega
  have hpos : UInt32.ofNat (uds.length + 4) > 0 := by
    have hzero : (0 : UInt32).toNat = 0 := rfl
    rw [gt_iff_lt, UInt32.lt_iff_toNat_lt, hzero, hn]
    omega
  have hwritten : asInt (UInt32.ofNat (uds.length + 4)) = uds.length + 4 := by
    rw [asInt_of_small (by omega), hn]
    rfl
  have hresult : asInt (UInt32.ofNat (uds.length + 4) + 8) > 0 := by
    rw [asInt_of_small (by omega), hsum]
    omega
  have hall : (beBytes16 source ++ beBytes16 target ++ uds).take (uds.length + 4) =
      beBytes16 source ++ beBytes16 target ++ uds := List.take_of_length_le addressed_length.le
  have hheader : (diagnosticFrame source target uds).take 8 =
      [0x02, ~~~0x02] ++ beBytes16 diagnosticMessage ++ beBytes32 (UInt32.ofNat (uds.length + 4)) := by
    have hpayload : (beBytes16 source ++ beBytes16 target ++ uds).length = uds.length + 4 := addressed_length
    rw [← hpayload]
    rfl
  have hpayload : (diagnosticFrame source target uds).drop 8 =
      beBytes16 source ++ beBytes16 target ++ uds := frame_drop _ _ _
  simp only [sendDiagnosticMessage, sendDoipPacket, addressed_length, hn, hall, hwritten, hpos, hheader,
    hpayload, ne_eq, not_true_eq_false, Bool.not_true, Bool.false_eq_true, if_false, if_true]
  rw [decide_eq_true hresult]

theorem server_reads (hlen : uds.length + 12 < 2 ^ 32) :
    DecodedAs source target uds (diagnosticFrame source target uds)
      (doIPMessage diagnosticMessage (beBytes16 source ++ beBytes16 target ++ uds)) where
  parsed := fromBytes_wire diagnosticMessage (by rw [addressed_length]; omega)
  type := rfl
  source := word16_bytes source
  target := word16_bytes target
  request udsHandler s surroundings := by
    have hlong : ¬ (doIPMessage diagnosticMessage
        (beBytes16 source ++ beBytes16 target ++ uds)).payloadData.length < 4 := by
      rw [doIPMessage, addressed_length]
      omega
    rw [handleDiagnosticMessage, if_neg hlong]
    rfl

/-- **One format.** All encoders write the same bytes for a request, and the server recovers the
addresses and the request from them. -/
theorem encoders_agree (hlen : uds.length ≤ 2 ^ 31 - 16) :
    EncodedAs source target uds (diagnosticFrame source target uds) ∧
    DecodedAs source target uds (diagnosticFrame source target uds)
      (doIPMessage diagnosticMessage (beBytes16 source ++ beBytes16 target ++ uds)) := by
  refine ⟨⟨fun outCap hroom => ?_, remote_writes, simulator_writes hlen⟩, server_reads (by omega)⟩
  have hn : (UInt32.ofNat (uds.length + 4)).toNat = uds.length + 4 := payloadLen_toNat (by omega)
  rw [builder_writes (by omega) hroom, diagnosticFrame_length, header_add_toNat (by omega), hn]
  exact ⟨rfl, by omega⟩

end Encode

theorem encoders_agree_testerPresent :
    EncodedAs 0x0E00 0x0201 [0x3E, 0x00]
      [0x02, 0xFD, 0x80, 0x01, 0, 0, 0, 6, 0x0E, 0x00, 0x02, 0x01, 0x3E, 0x00] :=
  (@encoders_agree 0x0E00 0x0201 [0x3E, 0x00] (by decide)).1

end Mcus.Doip
