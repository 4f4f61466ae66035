import Mcus.Doip.Message

/-! # The DoIP client of the controllers

`doip_client_send_diagnostic` of `doip_client.c` over the sockets of `doip_socket_lwip.c`. The TCP
stack is a parameter with a state of its own. Two steps of the source that are written out twice, a
receive and the parse behind it, are one function; null pointers, the transmit buffer and what other
calls of the client use are left out.
-/

namespace Mcus.Doip
open ByteOrder
set_option autoImplicit false

universe u

abbrev doipInvalidSocket : Int := -1

abbrev doipMaxResponseSize : ℕ := 4096

/-- What `recv` returns: bytes, an `errno` of `EAGAIN` or `EWOULDBLOCK`, or another one. -/
inductive RecvResult
  | bytes (data : List UInt8)
  | timeout
  | error

structure TcpStack (σ : Type u) where
  send : σ → List UInt8 → σ × Int
  recv : σ → ℕ → σ × RecvResult
  recv_le : ∀ s cap data, (recv s cap).2 = .bytes data → data.length ≤ cap

/-- `DoIPClient_t`. -/
structure DoIPClient where
  tcpSocket : Int
  sourceAddress : UInt16
  targetAddress : UInt16
  isConnected : Bool
  routingActive : Bool
  rxBuffer : List UInt8

/-- A call of the client that ended: its result is nothing if it returned -1. -/
structure Returned (σ : Type u) (α : Type) where
  client : DoIPClient
  stack : σ
  result : Option α

/-- The bytes stored behind `uds_response`, and `*resp_len_out`. -/
structure DiagnosticAnswer where
  udsResponse : List UInt8
  respLen : ℕ
  deriving DecidableEq, Repr

/-- A parsed message; the payload is what lies behind a pointer into the receive buffer. -/
structure ReceivedMessage where
  header : DoIPHeader
  payload : Option (List UInt8)

section Calls
variable {σ : Type u} (tcp : TcpStack σ) (client : DoIPClient) (s : σ)

def doipSocketTcpSend (sock : Int) (data : List UInt8) : σ × Int :=
  if sock = doipInvalidSocket then (s, -1) else tcp.send s data

/-- The return value, and the buffer behind the call. -/
def doipSocketTcpRecv (sock : Int) (buf : List UInt8) (cap : ℕ) : σ × Int × List UInt8 :=
  if sock = doipInvalidSocket then (s, -1, buf)
  else
    match tcp.recv s cap with
    | (s, .bytes data) => (s, data.length, data ++ buf.drop data.length)
    | (s, .timeout) => (s, 0, buf)
    | (s, .error) => (s, -1, buf)

def PayloadPointer.behind (buf : List UInt8) : PayloadPointer → Option (List UInt8)
  | .offset n => some (buf.drop n)
  | .null => none
  | .unset => none

/-- `doip_parse_message` on the receive buffer. -/
def acceptReceived (rxBuffer : List UInt8) (recvLen : ℕ) : Option ReceivedMessage :=
  match doipParseMessage rxBuffer recvLen with
  | ⟨0, some header, payload⟩ => some ⟨header, payload.behind rxBuffer⟩
  | _ => none

/-- One receive into the buffer, and the parse of what it returned. -/
def receiveMessage : Returned σ ReceivedMessage :=
  let (s, recvLen, rxBuffer) :=
    doipSocketTcpRecv tcp s client.tcpSocket client.rxBuffer doipMaxResponseSize
  let client := { client with rxBuffer := rxBuffer }
  if recvLen ≤ 0 then ⟨client, s, none⟩
  else ⟨client, s, acceptReceived rxBuffer recvLen.toNat⟩

/-- What is done with the message that is taken for the response. -/
def takeDiagnostic (message : ReceivedMessage) (respCap : ℕ) : Option DiagnosticAnswer :=
  if message.header.payloadType ≠ diagnosticMessage then none
  else
    match doipParseDiagnosticMessage message.payload message.header.payloadLength.toNat with
    | none => none
    | some m =>
      if m.sourceAddress ≠ client.targetAddress ∨ m.targetAddress ≠ client.sourceAddress then none
      else if respCap < m.udsLen then none
      else some ⟨m.udsData, m.udsLen⟩

/-- The receive behind an acknowledge. -/
def receiveResponse (respCap : ℕ) : Returned σ DiagnosticAnswer :=
  let second := receiveMessage tcp client s
  match second.result with
  | none => ⟨second.client, second.stack, none⟩
  | some message => ⟨second.client, second.stack, takeDiagnostic second.client message respCap⟩

/-- `doip_client_send_diagnostic` behind the transmission. -/
def receiveDiagnostic (respCap : ℕ) : Returned σ DiagnosticAnswer :=
  let first := receiveMessage tcp client s
  match first.result with
  | none => ⟨first.client, first.stack, none⟩
  | some message =>
    if message.header.payloadType = diagnosticMessagePosAck then
      receiveResponse tcp first.client first.stack respCap
    else if message.header.payloadType = diagnosticMessageNegAck then
      ⟨first.client, first.stack, none⟩
    else ⟨first.client, first.stack, takeDiagnostic first.client message respCap⟩

def doipClientSendDiagnostic (udsRequest : List UInt8) (respCap : ℕ) : Returned σ DiagnosticAnswer :=
  if !client.isConnected || !client.routingActive then ⟨client, s, none⟩
  else
    let msg := doipBuildDiagnosticMessage client.sourceAddress client.targetAddress udsRequest
      doipMaxResponseSize
    if msg.length = 0 then ⟨client, s, none⟩
    else
      let (s, sent) := doipSocketTcpSend tcp s client.tcpSocket (msg.bytes.take msg.length.toNat)
      if sent < 0 then ⟨client, s, none⟩
      else receiveDiagnostic tcp client s respCap

end Calls

/-! ## Receiving a message -/

section Receive
variable {data rest : List UInt8}

theorem acceptReceived_eq_some {message : ReceivedMessage}
    (h : acceptReceived (data ++ rest) data.length = some message) :
    8 ≤ data.length ∧ (8 + lengthField data).toNat ≤ data.length ∧
      message.header.payloadType = typeField data ∧ message.header.payloadLength = lengthField data := by
  unfold acceptReceived at h
  split at h
  case h_2 => cases h
  case h_1 header payload hparse =>
    obtain ⟨hlen, hversion, hroom⟩ := doipParseMessage_ok hparse
    rw [doipParseMessage_eq hlen hversion hroom] at hparse
    rw [typeField_append rest hlen, lengthField_append rest hlen] at hparse
    rw [lengthField_append rest hlen] at hroom
    obtain rfl := Option.some.inj h
    cases hparse
    exact ⟨hlen, hroom, rfl, rfl⟩

theorem acceptReceived_wire (type : UInt16) {payload : List UInt8} (rest : List UInt8)
    (hlen : payload.length < 2 ^ 32 - 8) :
    acceptReceived (wire type payload ++ rest) (wire type payload).length =
      some ⟨⟨protocolVersion, inverseProtocolVersion, type, UInt32.ofNat payload.length⟩,
        if payload = [] then none else some (payload ++ rest)⟩ := by
  have hsize : (wire type payload).length = 8 + payload.length := frame_length _ _ _
  unfold acceptReceived
  rw [doipParseMessage_wire type rest hlen hsize.ge]
  cases payload with
  | nil => rfl
  | cons b payload =>
    rw [if_neg (List.cons_ne_nil b payload)]
    rfl

/-- The client with bytes received into its buffer. -/
def DoIPClient.received (client : DoIPClient) (data : List UInt8) : DoIPClient :=
  { client with rxBuffer := data ++ client.rxBuffer.drop data.length }

theorem DoIPClient.received_rxBuffer (client : DoIPClient) (data : List UInt8) :
    (client.received data).rxBuffer = data ++ client.rxBuffer.drop data.length := rfl

variable {σ : Type u} {tcp : TcpStack σ} {client : DoIPClient} {s s' : σ}

theorem receiveMessage_bytes (hsock : client.tcpSocket ≠ doipInvalidSocket) (hdata : data ≠ [])
    (hrecv : tcp.recv s doipMaxResponseSize = (s', .bytes data)) :
    receiveMessage tcp client s =
      ⟨client.received data, s', acceptReceived (client.received data).rxBuffer data.length⟩ := by
  have hpos : ¬ (data.length : Int) ≤ 0 := by
    have := List.length_pos_iff.mpr hdata
    omega
  simp only [receiveMessage, doipSocketTcpRecv, if_neg hsock, hrecv, hpos, if_false, Int.toNat_natCast,
    DoIPClient.received]

theorem receiveMessage_timeout (hsock : client.tcpSocket ≠ doipInvalidSocket)
    (hrecv : tcp.recv s doipMaxResponseSize = (s', .timeout)) :
    receiveMessage tcp client s = ⟨client, s', none⟩ := by
  simp only [receiveMessage, doipSocketTcpRecv, if_neg hsock, hrecv, le_refl, if_true]

variable {client' : DoIPClient} {message : ReceivedMessage} (respCap : ℕ)

theorem receiveResponse_fails (h : receiveMessage tcp client s = ⟨client', s', none⟩) :
    receiveResponse tcp client s respCap = ⟨client', s', none⟩ := by
  simp only [receiveResponse, h]

theorem receiveResponse_message (h : receiveMessage tcp client s = ⟨client', s', some message⟩) :
    receiveResponse tcp client s respCap = ⟨client', s', takeDiagnostic client' message respCap⟩ := by
  simp only [receiveResponse, h]

theorem receiveDiagnostic_fails (h : receiveMessage tcp client s = ⟨client', s', none⟩) :
    receiveDiagnostic tcp client s respCap = ⟨client', s', none⟩ := by
  simp only [receiveDiagnostic, h]

theorem receiveDiagnostic_acknowledge (h : receiveMessage tcp client s = ⟨client', s', some message⟩)
    (htype : message.header.payloadType = diagnosticMessagePosAck) :
    receiveDiagnostic tcp client s respCap = receiveResponse tcp client' s' respCap := by
  simp only [receiveDiagnostic, h, htype, if_true]

theorem receiveDiagnostic_message (h : receiveMessage tcp client s = ⟨client', s', some message⟩)
    (htype : message.header.payloadType = diagnosticMessage) :
    receiveDiagnostic tcp client s respCap = ⟨client', s', takeDiagnostic client' message respCap⟩ := by
  have hpos : diagnosticMessage ≠ diagnosticMessagePosAck := by decide
  have hneg : diagnosticMessage ≠ diagnosticMessageNegAck := by decide
  simp only [receiveDiagnostic, h, htype, hpos, hneg, if_false]

end Receive

/-! ## Sending a request -/

/-- The client is activated on a connection, and the request fits its transmit buffer. -/
structure Ready (client : DoIPClient) (udsRequest : List UInt8) : Prop where
  connected : client.isConnected = true
  active : client.routingActive = true
  socket : client.tcpSocket ≠ doipInvalidSocket
  fits : udsRequest.length + 12 ≤ doipMaxResponseSize

section Send
variable {σ : Type u} {tcp : TcpStack σ} {client : DoIPClient} {s s' : σ} {udsRequest : List UInt8}

theorem diagnosticTotal_toNat (hsized : udsRequest.length + 12 < 2 ^ 32) :
    (8 + (4 + UInt32.ofNat udsRequest.length)).toNat = udsRequest.length + 12 := by
  have h8 : (8 : UInt32).toNat = 8 := rfl
  have h4 : (4 : UInt32).toNat = 4 := rfl
  have hlen : (UInt32.ofNat udsRequest.length).toNat = udsRequest.length :=
    UInt32.toNat_ofNat_of_lt' (by show udsRequest.length < 2 ^ 32; omega)
  rw [UInt32.toNat_add, UInt32.toNat_add, h8, h4, hlen]
  omega

/-- A request of a size that a 32-bit memory can hold is built exactly when it fits. -/
theorem doipBuildDiagnosticMessage_length (sourceAddress targetAddress : UInt16) (outCap : ℕ)
    (hsized : udsRequest.length + 12 < 2 ^ 32) :
    (doipBuildDiagnosticMessage sourceAddress targetAddress udsRequest outCap).length = 0 ↔
      outCap < udsRequest.length + 12 := by
  have htotal := diagnosticTotal_toNat hsized
  by_cases hroom : outCap < udsRequest.length + 12
  · simp only [doipBuildDiagnosticMessage, htotal, hroom, if_true]
  · simp only [doipBuildDiagnosticMessage, doipBuildMessage, htotal, hroom, if_false, iff_false]
    intro hzero
    rw [hzero] at htotal
    simp at htotal

theorem doipClientSendDiagnostic_ready (hready : Ready client udsRequest) (respCap : ℕ)
    (hsend : ∀ data, (tcp.send s data).1 = s' ∧ 0 ≤ (tcp.send s data).2) :
    doipClientSendDiagnostic tcp client s udsRequest respCap = receiveDiagnostic tcp client s' respCap := by
  have hmax : doipMaxResponseSize = 4096 := rfl
  have hfits := hready.fits
  have hbuilt : ¬ (doipBuildDiagnosticMessage client.sourceAddress client.targetAddress udsRequest
      doipMaxResponseSize).length = 0 := by
    rw [doipBuildDiagnosticMessage_length _ _ _ (by omega)]
    omega
  simp only [doipClientSendDiagnostic, hready.connected, hready.active, Bool.not_true, Bool.or_self,
    Bool.false_eq_true, if_false, if_neg hbuilt, doipSocketTcpSend, if_neg hready.socket,
    (hsend _).1, if_neg (Int.not_lt.mpr (hsend _).2)]

theorem doipClientSendDiagnostic_not_ready (hready : ¬ Ready client udsRequest) (respCap : ℕ)
    (hsized : udsRequest.length + 12 < 2 ^ 32) :
    doipClientSendDiagnostic tcp client s udsRequest respCap = ⟨client, s, none⟩ := by
  unfold doipClientSendDiagnostic
  split
  case isTrue => rfl
  case isFalse hactive =>
    by_cases hfits : doipMaxResponseSize < udsRequest.length + 12
    · rw [if_pos ((doipBuildDiagnosticMessage_length _ _ _ hsized).mpr hfits)]
    rw [if_neg (mt (doipBuildDiagnosticMessage_length _ _ _ hsized).mp hfits)]
    simp only [Bool.or_eq_true, Bool.not_eq_true', not_or, Bool.not_eq_false] at hactive
    have hsock : client.tcpSocket = doipInvalidSocket := by
      by_contra hsock
      exact hready ⟨hactive.1, hactive.2, hsock, Nat.le_of_not_lt hfits⟩
    simp only [doipSocketTcpSend, hsock, if_true]
    rfl

end Send

theorem wire_ne_nil (type : UInt16) (payload : List UInt8) : wire type payload ≠ [] :=
  List.cons_ne_nil _ _

/-- The response of the entity to the tester. -/
def diagnosticResponse (entity tester : UInt16) (uds : List UInt8) : List UInt8 :=
  wire diagnosticMessage (beBytes16 entity ++ beBytes16 tester ++ uds)

theorem diagnosticResponse_ne_nil (entity tester : UInt16) (uds : List UInt8) :
    diagnosticResponse entity tester uds ≠ [] := wire_ne_nil _ _

theorem diagnosticResponse_length (entity tester : UInt16) (uds : List UInt8) :
    (diagnosticResponse entity tester uds).length = 12 + uds.length := by
  rw [diagnosticResponse, wire, frame_length]
  simp only [beBytes16, List.length_append, List.length_cons, List.length_nil]
  omega

/-! ## Taking the response -/

section Take
variable {client : DoIPClient} {message : ReceivedMessage} {respCap : ℕ}

theorem takeDiagnostic_some {answer : DiagnosticAnswer}
    (h : takeDiagnostic client message respCap = some answer) :
    message.header.payloadType = diagnosticMessage ∧
      message.header.payloadLength.toNat = answer.respLen + 4 := by
  unfold takeDiagnostic at h
  by_cases htype : message.header.payloadType ≠ diagnosticMessage
  · rw [if_pos htype] at h
    cases h
  rw [if_neg htype] at h
  refine ⟨not_not.mp htype, ?_⟩
  unfold doipParseDiagnosticMessage at h
  cases hpayload : message.payload with
  | none => simp [hpayload] at h
  | some payload =>
    simp only [hpayload] at h
    by_cases hlen : message.header.payloadLength.toNat < 4
    · simp [hlen] at h
    · simp only [hlen, if_false] at h
      split_ifs at h
      obtain rfl := Option.some.inj h
      exact (Nat.sub_add_cancel (Nat.le_of_not_lt hlen)).symm

theorem takeDiagnostic_response {uds rest : List UInt8} {header : DoIPHeader}
    (htype : header.payloadType = diagnosticMessage)
    (hlen : header.payloadLength.toNat = uds.length + 4) :
    takeDiagnostic client ⟨header, some (beBytes16 client.targetAddress ++
        beBytes16 client.sourceAddress ++ uds ++ rest)⟩ respCap =
      if respCap < uds.length then none else some ⟨uds, uds.length⟩ := by
  have hsource : doipNtohs (word16 client.targetAddress.toUInt8 (client.targetAddress >>> 8).toUInt8) =
      client.targetAddress := (swap16_word16 _ _).trans (word16_bytes _)
  have htarget : doipNtohs (word16 client.sourceAddress.toUInt8 (client.sourceAddress >>> 8).toUInt8) =
      client.sourceAddress := (swap16_word16 _ _).trans (word16_bytes _)
  unfold takeDiagnostic doipParseDiagnosticMessage
  simp [htype, hlen, beBytes16, hsource, htarget]

/-- A response that is received whole is taken by a client with its addresses, if it can be stored. -/
theorem acceptReceived_response {entity tester : UInt16} {uds : List UInt8} (rest : List UInt8)
    (hlen : uds.length < 2 ^ 32 - 12) :
    ∃ message, acceptReceived (diagnosticResponse entity tester uds ++ rest)
        (diagnosticResponse entity tester uds).length = some message ∧
      message.header.payloadType = diagnosticMessage ∧
      ∀ client respCap, client.targetAddress = entity → client.sourceAddress = tester →
        takeDiagnostic client message respCap =
          if respCap < uds.length then none else some ⟨uds, uds.length⟩ := by
  have hpayload : (beBytes16 entity ++ beBytes16 tester ++ uds).length = uds.length + 4 := by
    simp only [beBytes16, List.length_append, List.length_cons, List.length_nil]
    omega
  have hwire : (beBytes16 entity ++ beBytes16 tester ++ uds).length < 2 ^ 32 - 8 := by omega
  have hparse := acceptReceived_wire diagnosticMessage rest hwire
  have hnonempty : beBytes16 entity ++ beBytes16 tester ++ uds ≠ [] := by simp [beBytes16]
  rw [if_neg hnonempty] at hparse
  refine ⟨_, hparse, rfl, ?_⟩
  rintro client respCap rfl rfl
  exact takeDiagnostic_response rfl ((lengthOf_toNat hwire).trans hpayload)

end Take

/-! ## Receives that bring one message -/

section OneMessage
variable {σ : Type u} {tcp : TcpStack σ} {client : DoIPClient} {s s' : σ} (respCap : ℕ)

theorem receiveDiagnostic_of_acknowledge {ackPayload : List UInt8}
    (hsock : client.tcpSocket ≠ doipInvalidSocket) (hlen : ackPayload.length < 2 ^ 32 - 8)
    (hrecv : tcp.recv s doipMaxResponseSize = (s', .bytes (wire diagnosticMessagePosAck ackPayload))) :
    receiveDiagnostic tcp client s respCap =
      receiveResponse tcp (client.received (wire diagnosticMessagePosAck ackPayload)) s' respCap := by
  have hmessage := receiveMessage_bytes hsock (wire_ne_nil _ _) hrecv
  rw [DoIPClient.received_rxBuffer, acceptReceived_wire diagnosticMessagePosAck _ hlen] at hmessage
  exact receiveDiagnostic_acknowledge respCap hmessage rfl

variable {uds : List UInt8}

theorem receiveMessage_response (hsock : client.tcpSocket ≠ doipInvalidSocket)
    (hlen : uds.length < 2 ^ 32 - 12) (hrecv : tcp.recv s doipMaxResponseSize =
      (s', .bytes (diagnosticResponse client.targetAddress client.sourceAddress uds))) :
    ∃ client' message, receiveMessage tcp client s = ⟨client', s', some message⟩ ∧
      client' = client.received (diagnosticResponse client.targetAddress client.sourceAddress uds) ∧
      message.header.payloadType = diagnosticMessage ∧
      takeDiagnostic client' message respCap =
        if respCap < uds.length then none else some ⟨uds, uds.length⟩ := by
  have hmessage := receiveMessage_bytes hsock (diagnosticResponse_ne_nil _ _ _) hrecv
  obtain ⟨message, hparse, htype, htake⟩ := acceptReceived_response
    (client.rxBuffer.drop (diagnosticResponse client.targetAddress client.sourceAddress uds).length) hlen
  rw [DoIPClient.received_rxBuffer, hparse] at hmessage
  exact ⟨_, message, hmessage, rfl, htype, htake _ respCap rfl rfl⟩

/-- The client, and the answer as far as it can be stored. -/
theorem receiveResponse_of_response (hsock : client.tcpSocket ≠ doipInvalidSocket)
    (hlen : uds.length < 2 ^ 32 - 12) (hrecv : tcp.recv s doipMaxResponseSize =
      (s', .bytes (diagnosticResponse client.targetAddress client.sourceAddress uds))) :
    receiveResponse tcp client s respCap =
      ⟨client.received (diagnosticResponse client.targetAddress client.sourceAddress uds), s',
        if respCap < uds.length then none else some ⟨uds, uds.length⟩⟩ := by
  obtain ⟨client', message, hmessage, rfl, -, htake⟩ := receiveMessage_response respCap hsock hlen hrecv
  rw [receiveResponse_message respCap hmessage, htake]

theorem receiveDiagnostic_of_response (hsock : client.tcpSocket ≠ doipInvalidSocket)
    (hlen : uds.length < 2 ^ 32 - 12) (hrecv : tcp.recv s doipMaxResponseSize =
      (s', .bytes (diagnosticResponse client.targetAddress client.sourceAddress uds))) :
    receiveDiagnostic tcp client s respCap =
      ⟨client.received (diagnosticResponse client.targetAddress client.sourceAddress uds), s',
        if respCap < uds.length then none else some ⟨uds, uds.length⟩⟩ := by
  obtain ⟨client', message, hmessage, rfl, htype, htake⟩ :=
    receiveMessage_response respCap hsock hlen hrecv
  rw [receiveDiagnostic_message respCap hmessage htype, htake]

end OneMessage
end Mcus.Doip
