import Mcus.Doip.Client

/-! # How the stream is cut

One receive of the client is taken for one message: what comes behind it in the same segment is lost,
and what is missing from it is not waited for. So of all the ways in which TCP may cut an acknowledge
and a response, exactly one brings the answer.
-/

namespace Mcus.Doip
open ByteOrder
set_option autoImplicit false

/-- A connection whose receives return the segments one by one, and then nothing in time. -/
def segmentStack : TcpStack (List (List UInt8)) where
  send segments data := (segments, data.length)
  recv segments cap :=
    match segments with
    | [] => ([], .timeout)
    | data :: rest =>
      if data.length ≤ cap then (rest, .bytes data) else (data.drop cap :: rest, .bytes (data.take cap))
  recv_le := by
    intro segments cap data h
    cases segments with
    | nil => cases h
    | cons first rest =>
      dsimp only at h
      split at h
      case isTrue hle =>
        cases h
        exact hle
      case isFalse =>
        cases h
        exact List.length_take_le cap first

/-- The stream, cut into what the successive receives of the client return. -/
structure Segmentation (stream : List UInt8) (segments : List (List UInt8)) : Prop where
  joined : segments.flatten = stream
  nonempty : ∀ data ∈ segments, data ≠ []
  size : ∀ data ∈ segments, data.length ≤ doipMaxResponseSize

section Stream
variable {client : DoIPClient} {segments rest : List (List UInt8)} {data : List UInt8} {respCap : ℕ}
  {answer : DiagnosticAnswer}

theorem segmentStack_send (data : List UInt8) :
    (segmentStack.send segments data).1 = segments ∧ 0 ≤ (segmentStack.send segments data).2 :=
  ⟨rfl, Int.natCast_nonneg _⟩

theorem receiveMessage_nil (hsock : client.tcpSocket ≠ doipInvalidSocket) :
    receiveMessage segmentStack client [] = ⟨client, [], none⟩ := receiveMessage_timeout hsock rfl

theorem receiveMessage_cons (hsock : client.tcpSocket ≠ doipInvalidSocket) (hdata : data ≠ [])
    (hsize : data.length ≤ doipMaxResponseSize) :
    receiveMessage segmentStack client (data :: rest) =
      ⟨client.received data, rest, acceptReceived (client.received data).rxBuffer data.length⟩ :=
  receiveMessage_bytes hsock hdata (if_pos hsize)

/-- What begins a stream and is long enough begins with the first message of the stream. -/
theorem eq_append_of_stream {message tail buf : List UInt8} (hstream : data ++ tail = message ++ buf)
    (hle : message.length ≤ data.length) : ∃ t, data = message ++ t ∧ t ++ tail = buf := by
  have hprefix : message <+: data ++ tail := ⟨buf, hstream.symm⟩
  obtain ⟨t, rfl⟩ := List.prefix_of_prefix_length_le hprefix (List.prefix_append data tail) hle
  exact ⟨t, rfl, List.append_cancel_left (by rw [← List.append_assoc, hstream])⟩

/-- A first segment that is accepted begins with the whole acknowledge. -/
theorem acknowledge_of_accepted {ackPayload tail buf : List UInt8} {message : ReceivedMessage}
    (hack : ackPayload.length < 2 ^ 32 - 8)
    (hstream : data ++ tail = wire diagnosticMessagePosAck ackPayload ++ buf)
    (haccepted : acceptReceived (client.received data).rxBuffer data.length = some message) :
    message.header.payloadType = diagnosticMessagePosAck ∧
      ∃ t, data = wire diagnosticMessagePosAck ackPayload ++ t ∧ t ++ tail = buf := by
  obtain ⟨hlen, hroom, htype, -⟩ := acceptReceived_eq_some haccepted
  have hsize : (wire diagnosticMessagePosAck ackPayload).length = 8 + ackPayload.length :=
    frame_length _ _ _
  have htypes : typeField data = diagnosticMessagePosAck := by
    rw [← typeField_append tail hlen, hstream, typeField_append buf (by omega)]
    exact typeField_frame _ _ _
  have hlengths : lengthField data = UInt32.ofNat ackPayload.length := by
    rw [← lengthField_append tail hlen, hstream, lengthField_append buf (by omega)]
    exact lengthField_frame _ _ _
  have hn := lengthOf_toNat hack
  rw [hlengths, header_add_toNat (by omega), hn] at hroom
  exact ⟨htype.trans htypes, eq_append_of_stream hstream (by omega)⟩

/-- A second segment that brings an answer as long as the response is the whole response. -/
theorem response_of_answer {t response : List UInt8} {n : ℕ}
    (hsock : client.tcpSocket ≠ doipInvalidSocket) (hsize : response.length = 12 + n)
    (hfits : 12 + n ≤ doipMaxResponseSize) (hstream : t ++ segments.flatten = response)
    (hnonempty : ∀ data ∈ segments, data ≠ [])
    (hsizes : ∀ data ∈ segments, data.length ≤ doipMaxResponseSize)
    (hanswer : (receiveResponse segmentStack client segments respCap).result = some answer)
    (hlen : answer.respLen = n) : t = [] ∧ segments = [response] := by
  have hmax : doipMaxResponseSize = 4096 := rfl
  cases segments with
  | nil =>
    rw [receiveResponse_fails respCap (receiveMessage_nil hsock)] at hanswer
    cases hanswer
  | cons second rest =>
    have hmessage := @receiveMessage_cons client rest second hsock (hnonempty _ (by simp))
      (hsizes _ (by simp))
    cases hparse : acceptReceived (client.received second).rxBuffer second.length with
    | none =>
      rw [receiveResponse_fails respCap (hmessage.trans (by rw [hparse]))] at hanswer
      cases hanswer
    | some message =>
      rw [receiveResponse_message respCap (hmessage.trans (by rw [hparse]))] at hanswer
      obtain ⟨-, hdeclared⟩ := takeDiagnostic_some hanswer
      obtain ⟨-, hroom, -, hlength⟩ := acceptReceived_eq_some hparse
      rw [← hlength, header_add_toNat (by omega), hdeclared] at hroom
      -- the response has no byte to spare for another segment
      have htotal := congrArg List.length hstream
      simp only [List.length_append, List.flatten_cons] at htotal
      obtain rfl : t = [] := List.eq_nil_of_length_eq_zero (by omega)
      have hrest : rest = [] := by
        cases rest with
        | nil => rfl
        | cons third rest =>
          have hpos := List.length_pos_iff.mpr (hnonempty third (by simp))
          simp only [List.length_append, List.flatten_cons] at htotal
          omega
      subst hrest
      exact ⟨rfl, by simpa using hstream⟩

theorem receiveDiagnostic_two {ackPayload uds : List UInt8} (hsock : client.tcpSocket ≠ doipInvalidSocket)
    (hack : ackPayload.length < 2 ^ 32 - 8) (huds : uds.length ≤ respCap)
    (hackSize : (wire diagnosticMessagePosAck ackPayload).length ≤ doipMaxResponseSize)
    (hsize : (diagnosticResponse client.targetAddress client.sourceAddress uds).length ≤
      doipMaxResponseSize) :
    (receiveDiagnostic segmentStack client [wire diagnosticMessagePosAck ackPayload,
      diagnosticResponse client.targetAddress client.sourceAddress uds] respCap).result =
        some ⟨uds, uds.length⟩ := by
  have hmax : doipMaxResponseSize = 4096 := rfl
  have hlen := diagnosticResponse_length client.targetAddress client.sourceAddress uds
  have hsock' : (client.received (wire diagnosticMessagePosAck ackPayload)).tcpSocket ≠
      doipInvalidSocket := hsock
  have hbound : uds.length < 2 ^ 32 - 12 := by omega
  rw [receiveDiagnostic_of_acknowledge respCap hsock hack (if_pos hackSize),
    receiveResponse_of_response respCap hsock' hbound (if_pos hsize), if_neg (Nat.not_lt.mpr huds)]

theorem segments_of_answer {ackPayload uds : List UInt8} (hsock : client.tcpSocket ≠ doipInvalidSocket)
    (hack : ackPayload.length < 2 ^ 32 - 8) (hfits : 12 + uds.length ≤ doipMaxResponseSize)
    (hsegments : Segmentation (wire diagnosticMessagePosAck ackPayload ++
      diagnosticResponse client.targetAddress client.sourceAddress uds) segments)
    (hanswer : (receiveDiagnostic segmentStack client segments respCap).result =
      some ⟨uds, uds.length⟩) :
    segments = [wire diagnosticMessagePosAck ackPayload,
      diagnosticResponse client.targetAddress client.sourceAddress uds] := by
  obtain ⟨hjoined, hnonempty, hsize⟩ := hsegments
  cases segments with
  | nil =>
    rw [receiveDiagnostic_fails respCap (receiveMessage_nil hsock)] at hanswer
    cases hanswer
  | cons first rest =>
    have hfirst := @receiveMessage_cons client rest first hsock (hnonempty _ (by simp)) (hsize _ (by simp))
    cases hparse : acceptReceived (client.received first).rxBuffer first.length with
    | none =>
      rw [receiveDiagnostic_fails respCap (hfirst.trans (by rw [hparse]))] at hanswer
      cases hanswer
    | some message =>
      obtain ⟨htype, t, rfl, ht⟩ := acknowledge_of_accepted hack hjoined hparse
      rw [receiveDiagnostic_acknowledge respCap (hfirst.trans (by rw [hparse])) htype] at hanswer
      have hrest : ∀ data ∈ rest, data ∈ (wire diagnosticMessagePosAck ackPayload ++ t) :: rest :=
        fun data hdata => List.mem_cons_of_mem _ hdata
      have hsock' : (client.received (wire diagnosticMessagePosAck ackPayload ++ t)).tcpSocket ≠
          doipInvalidSocket := hsock
      obtain ⟨rfl, rfl⟩ := response_of_answer hsock' (diagnosticResponse_length _ _ _) hfits ht
        (fun data hdata => hnonempty data (hrest data hdata))
        (fun data hdata => hsize data (hrest data hdata)) hanswer rfl
      rw [List.append_nil]

/-- **One message in each receive.** However TCP cuts an acknowledge and a response, the client
returns the answer exactly when the first receive brings the acknowledge and the second one the
response. -/
theorem answered_iff_one_message_each {udsRequest ackPayload uds : List UInt8}
    (hready : Ready client udsRequest) (hack : ackPayload.length < 2 ^ 32 - 8)
    (huds : uds.length ≤ respCap) (hfits : 12 + uds.length ≤ doipMaxResponseSize)
    (hsegments : Segmentation (wire diagnosticMessagePosAck ackPayload ++
      diagnosticResponse client.targetAddress client.sourceAddress uds) segments) :
    (doipClientSendDiagnostic segmentStack client segments udsRequest respCap).result =
        some ⟨uds, uds.length⟩ ↔
      segments = [wire diagnosticMessagePosAck ackPayload,
        diagnosticResponse client.targetAddress client.sourceAddress uds] := by
  rw [doipClientSendDiagnostic_ready hready respCap segmentStack_send]
  constructor
  · intro hanswer
    exact segments_of_answer hready.socket hack hfits hsegments hanswer
  · rintro rfl
    exact receiveDiagnostic_two hready.socket hack huds (hsegments.size _ (by simp))
      (hsegments.size _ (by simp))

end Stream

/-- A client at work, with source address `0x0E00` and target address `0x0100`. -/
def activatedClient : DoIPClient := ⟨3, 0x0E00, 0x0100, true, true, List.replicate 4096 0x00⟩

theorem answered_when_separate :
    (doipClientSendDiagnostic segmentStack activatedClient
      [wire diagnosticMessagePosAck [0x01, 0x00, 0x0E, 0x00, 0x00],
        diagnosticResponse 0x0100 0x0E00 [0x7E, 0x00]] [0x3E, 0x00] 256).result =
      some ⟨[0x7E, 0x00], 2⟩ :=
  (answered_iff_one_message_each ⟨rfl, rfl, by decide, by decide⟩ (by decide) (by decide) (by decide)
    ⟨rfl, by decide, by decide⟩).mpr rfl

/-- The two messages come in one segment. -/
theorem joined_messages_lost :
    ¬ ∀ segments, Segmentation (wire diagnosticMessagePosAck [0x01, 0x00, 0x0E, 0x00, 0x00] ++
        diagnosticResponse 0x0100 0x0E00 [0x7E, 0x00]) segments →
      (doipClientSendDiagnostic segmentStack activatedClient segments [0x3E, 0x00] 256).result =
        some ⟨[0x7E, 0x00], 2⟩ := by
  intro h
  have hanswer := h [_] ⟨List.flatten_singleton, by decide, by decide⟩
  exact absurd hanswer (by decide)

end Mcus.Doip
