import Mcus.Foundations.CString
import Mcus.Foundations.Scanf
import Mcus.Vmg.MqttIdentifiers

/-! # A whole MQTT session

What a client of `pqc_mqtt.c` puts on its connection from `mqtt_client_create` to
`mqtt_client_destroy`: the CONNECT packet, a packet for every `mqtt_publish` whose write succeeds, and
DISCONNECT. A write hands over the whole packet or nothing. A broker that cuts the bytes into packets
by their remaining lengths reads back what was asked for, in order.
-/

namespace Mcus.Vmg
open ByteOrder CString Runs
set_option autoImplicit false

abbrev mqttConnect : UInt8 := 1
abbrev mqttDisconnect : UInt8 := 14

/-- `snprintf(mqtt->client_id, sizeof(mqtt->client_id), "vmg_%d", getpid())`. -/
def mqttClientId (pid : ℕ) : List UInt8 := (literal "vmg_" ++ Scanf.decimal pid).take 63

/-- The packet of `mqtt_send_connect`. -/
def connectPacket (clientId : List UInt8) : List UInt8 :=
  let protocol := literal "MQTT"
  let remainingLen := 2 + protocol.length + 1 + 1 + 2 + 2 + clientId.length
  [mqttConnect <<< 4] ++ mqttEncodeLength (UInt64.ofNat remainingLen) ++
    beBytes16 (UInt16.ofNat protocol.length) ++ protocol ++ [4, 0x02, 0x00, 0x3C] ++
    beBytes16 (UInt16.ofNat clientId.length) ++ clientId

def disconnectPacket : List UInt8 := [mqttDisconnect <<< 4, 0]

/-- The client with the bytes that its connection has taken. -/
structure MqttSession where
  client : MqttClient
  sent : List UInt8

/-- `pqc_client_write`, from what it returns. -/
def deliver (sent packet : List UInt8) (written : Int) : List UInt8 := if 0 < written then sent ++ packet else sent

/-- `mqtt_client_create` in the process `pid`. -/
def openSession (pid : ℕ) (results : CreateResults) : Option MqttSession :=
  (mqttClientCreate results).map fun client =>
    ⟨client, deliver [] (connectPacket (mqttClientId pid)) results.sent⟩

def sessionMachine : Machine MqttSession PublishCall PublishOutcome where
  step session call :=
    let (client, outcome) := mqttPublish (fun _ => call.written) session.client (some call.topic) call.payload call.qos
    match outcome with
    | .written packet _ => (⟨client, deliver session.sent packet call.written⟩, outcome)
    | _ => (⟨client, session.sent⟩, outcome)

/-- `mqtt_client_destroy`; the connection is closed behind it. -/
def closeSession (session : MqttSession) (written : Int) : List UInt8 :=
  deliver session.sent disconnectPacket written

/-! ## What a broker reads -/

inductive MqttPacket
  | connect (level flags : UInt8) (keepAlive : UInt16) (clientId : List UInt8)
  | publish (message : PublishMessage)
  | disconnect
  deriving DecidableEq

/-- The first packet of a stream and the rest. -/
def cutPacket (bytes : List UInt8) : Option (List UInt8 × List UInt8) :=
  match bytes with
  | [] => none
  | header :: rest =>
    match Base128.decode 4 rest with
    | none => none
    | some (remaining, behind) =>
      if remaining ≤ behind.length then
        some ((header :: rest).take (rest.length + 1 - behind.length + remaining),
          behind.drop remaining)
      else none

def decodeConnect (body : List UInt8) : Option MqttPacket :=
  match takeString body with
  | none => none
  | some (protocol, behind) =>
    if protocol ≠ literal "MQTT" then none
    else
      match behind with
      | level :: flags :: hi :: lo :: behind =>
        match takeString behind with
        | some (clientId, []) => some (.connect level flags (word16 hi lo) clientId)
        | _ => none
      | _ => none

def decodePacket (packet : List UInt8) : Option MqttPacket :=
  match packet with
  | [] => none
  | header :: rest =>
    if header >>> 4 = mqttPublishType then (decodePublish packet).map .publish
    else
      match Base128.decode 4 rest with
      | none => none
      | some (_, body) =>
        if header = mqttConnect <<< 4 then decodeConnect body
        else if header = mqttDisconnect <<< 4 ∧ body = [] then some .disconnect
        else none

theorem cutPacket_length {bytes packet rest : List UInt8} (h : cutPacket bytes = some (packet, rest)) :
    rest.length < bytes.length := by
  cases bytes with
  | nil => cases h
  | cons header bytes =>
    rw [cutPacket] at h
    split at h
    case h_1 => cases h
    case h_2 remaining behind hdecode =>
      have hbehind := Base128.decode_rest_lt hdecode
      split at h
      case isTrue =>
        obtain ⟨-, rfl⟩ := Prod.mk.inj (Option.some.inj h)
        rw [List.length_drop, List.length_cons]
        omega
      case isFalse => cases h

/-- The packets of a stream that ends with a packet. -/
def decodeStream (bytes : List UInt8) : Option (List MqttPacket) :=
  if bytes = [] then some []
  else
    match h : cutPacket bytes with
    | none => none
    | some (packet, rest) =>
      have := cutPacket_length h
      match decodePacket packet with
      | none => none
      | some p => (decodeStream rest).map (p :: ·)
termination_by bytes.length

/-- What the packets of the calls say that were written, with the identifiers counted from `id`. -/
def published (id : UInt16) : List PublishCall → List MqttPacket
  | [] => []
  | call :: calls =>
    (if 0 < call.written then
      [.publish ⟨call.qos, call.topic, if 0 < call.qos then some id else none, call.payload⟩] else []) ++
    published (if 0 < call.qos then id + 1 else id) calls

/-! ## Cutting -/

section Cut
variable {header : UInt8} {body : List UInt8}

/-- A fixed header, the number of bytes behind it and these bytes. -/
def framed (header : UInt8) (body : List UInt8) : List UInt8 := header :: (Base128.encode body.length ++ body)

theorem cutPacket_framed (hbody : body.length < 2 ^ 28) (rest : List UInt8) :
    cutPacket (framed header body ++ rest) = some (framed header body, rest) := by
  have hpow : (128 : ℕ) ^ (3 + 1) = 2 ^ 28 := by norm_num
  have hdecode := Base128.decode_encode (k := 3) (n := body.length) (hpow ▸ hbody) (body ++ rest)
  have hcut : (Base128.encode body.length ++ (body ++ rest)).length + 1 - (body ++ rest).length + body.length =
      (framed header body).length := by
    simp only [framed, List.length_append, List.length_cons]
    omega
  rw [framed, List.cons_append, List.append_assoc, cutPacket, hdecode]
  dsimp only
  rw [if_pos (by rw [List.length_append]; omega), hcut, List.drop_left' rfl, ← List.append_assoc,
    ← List.cons_append, ← framed, List.take_left' rfl]

theorem decodeStream_framed (hbody : body.length < 2 ^ 28) {p : MqttPacket}
    (hpacket : decodePacket (framed header body) = some p) (rest : List UInt8) :
    decodeStream (framed header body ++ rest) = (decodeStream rest).map (p :: ·) := by
  rw [decodeStream, if_neg (by rw [framed, List.cons_append]; exact List.cons_ne_nil _ _)]
  split
  case h_1 h =>
    rw [cutPacket_framed hbody] at h
    cases h
  case h_2 packet rest' h =>
    rw [cutPacket_framed hbody] at h
    obtain ⟨rfl, rfl⟩ := Prod.mk.inj (Option.some.inj h)
    rw [hpacket]

theorem decodeStream_nil : decodeStream [] = some [] := by rw [decodeStream, if_pos rfl]

end Cut

/-! ## The three kinds of packets -/

theorem mqttClientId_length {pid : ℕ} : (mqttClientId pid).length ≤ 63 := by
  rw [mqttClientId, List.length_take]
  exact Nat.min_le_left _ _

def connectBody (clientId : List UInt8) : List UInt8 :=
  beBytes16 4 ++ (literal "MQTT" ++ ([4, 0x02, 0x00, 0x3C] ++ (beBytes16 (UInt16.ofNat clientId.length) ++ clientId)))

theorem connectBody_length (clientId : List UInt8) : (connectBody clientId).length = 12 + clientId.length := by
  have hprotocol : (literal "MQTT").length = 4 := rfl
  have hword : ∀ x : UInt16, (beBytes16 x).length = 2 := fun _ => rfl
  simp only [connectBody, List.length_append, hprotocol, hword, List.length_cons, List.length_nil]
  omega

theorem connectPacket_eq {clientId : List UInt8} (hlen : clientId.length ≤ 63) :
    connectPacket clientId = framed (mqttConnect <<< 4) (connectBody clientId) := by
  have hremaining : (UInt64.ofNat (2 + (literal "MQTT").length + 1 + 1 + 2 + 2 + clientId.length)).toNat =
      (connectBody clientId).length := by
    have hprotocol : (literal "MQTT").length = 4 := rfl
    rw [connectBody_length, hprotocol, UInt64.toNat_ofNat_of_lt' (by change _ < 2 ^ 64; omega)]
  have hprotocol : UInt16.ofNat (literal "MQTT").length = 4 := rfl
  unfold connectPacket
  dsimp only
  rw [mqttEncodeLength_eq, hremaining, hprotocol, framed, connectBody]
  simp only [List.append_assoc, List.cons_append, List.nil_append]

theorem decodePacket_connect {clientId : List UInt8} (hlen : clientId.length ≤ 63) :
    decodePacket (framed (mqttConnect <<< 4) (connectBody clientId)) = some (.connect 4 0x02 60 clientId) := by
  have hsmall : (connectBody clientId).length < 128 ^ (3 + 1) := by
    rw [connectBody_length]
    omega
  have hdecode := Base128.decode_encode (k := 3) hsmall (connectBody clientId)
  have hprotocol : takeString (connectBody clientId) = some (literal "MQTT",
      [4, 0x02, 0x00, 0x3C] ++ (beBytes16 (UInt16.ofNat clientId.length) ++ clientId)) :=
    @takeString_encoded (literal "MQTT") (by decide) _
  have hclient := @takeString_encoded clientId (by omega) []
  rw [List.append_nil] at hclient
  have hnot : ¬ (mqttConnect <<< 4) >>> 4 = mqttPublishType := by decide
  rw [framed, decodePacket, if_neg hnot, hdecode]
  dsimp only
  rw [if_pos rfl, decodeConnect, hprotocol]
  dsimp only
  rw [if_neg (not_not.mpr rfl)]
  simp only [List.cons_append, List.nil_append, hclient]
  rfl

theorem disconnectPacket_eq : disconnectPacket = framed (mqttDisconnect <<< 4) [] := by
  rw [framed, List.length_nil, Base128.encode_of_lt (by decide)]
  rfl

theorem decodePacket_disconnect : decodePacket (framed (mqttDisconnect <<< 4) []) = some .disconnect := by
  rw [← disconnectPacket_eq]
  decide

section Publish
variable (mqtt : MqttClient) (call : PublishCall)

theorem publishCall_remaining : remainingLength call.topic call.payload call.qos ≤ 2045 := by
  rw [remainingLength_eq]
  exact call.fits

def publishHeader (qos : UInt8) : UInt8 := mqttPublishType <<< 4 ||| qos <<< 1

theorem publish_framed : (mqttPublishType <<< 4 ||| call.qos <<< 1) ::
    (Base128.encode (UInt64.ofNat (remainingLength call.topic call.payload call.qos)).toNat ++
      packetBody mqtt call.topic call.payload call.qos) =
    framed (publishHeader call.qos) (packetBody mqtt call.topic call.payload call.qos) := by
  have hfits := publishCall_remaining call
  have hword : (UInt64.ofNat (remainingLength call.topic call.payload call.qos)).toNat =
      remainingLength call.topic call.payload call.qos :=
    UInt64.toNat_ofNat_of_lt' (by change _ < 2 ^ 64; omega)
  rw [hword, framed, packetBody_length]
  rfl

theorem mqttPublish_eq : mqttPublish (fun _ => call.written) mqtt (some call.topic) call.payload call.qos =
    (if 0 < call.qos then { mqtt with packetId := mqtt.packetId + 1 } else mqtt,
      .written (framed (publishHeader call.qos) (packetBody mqtt call.topic call.payload call.qos))
        (decide (0 < call.written))) := by
  have hpacket := (@packet_fits_iff mqtt call.topic call.payload call.qos).mpr (publishCall_remaining call)
  rw [mqttPublish, publishPacket_eq, put, if_pos (by rw [List.length_nil, Nat.zero_add]; exact hpacket),
    List.nil_append, publish_framed]

theorem decodePacket_publish :
    decodePacket (framed (publishHeader call.qos) (packetBody mqtt call.topic call.payload call.qos)) =
      some (.publish ⟨call.qos, call.topic, if 0 < call.qos then some mqtt.packetId else none, call.payload⟩) := by
  have hread := @decodePublish_packet mqtt _ _ _ call.qosOk (publishCall_remaining call)
  rw [publish_framed] at hread
  have htype : publishHeader call.qos >>> 4 = mqttPublishType := (header_fields call.qosOk).1
  rw [framed, decodePacket, if_pos htype, ← framed, hread]
  rfl

end Publish

/-! ## The stream -/

/-- Packets decoded one behind the other. -/
def Decodes (bytes : List UInt8) (packets : List MqttPacket) : Prop :=
  ∀ rest, decodeStream (bytes ++ rest) = (decodeStream rest).map (packets ++ ·)

theorem decodes_nil : Decodes [] [] := by
  intro rest
  cases h : decodeStream rest <;> simp [h]

theorem Decodes.append {bytes bytes' : List UInt8} {packets packets' : List MqttPacket}
    (h : Decodes bytes packets) (h' : Decodes bytes' packets') : Decodes (bytes ++ bytes') (packets ++ packets') := by
  intro rest
  rw [List.append_assoc, h, h', Option.map_map]
  simp only [Function.comp_def, List.append_assoc]

theorem decodes_framed {header : UInt8} {body : List UInt8} (hbody : body.length < 2 ^ 28) {p : MqttPacket}
    (hpacket : decodePacket (framed header body) = some p) : Decodes (framed header body) [p] :=
  fun rest => decodeStream_framed hbody hpacket rest

theorem Decodes.deliver {sent packet : List UInt8} {packets : List MqttPacket} {p : MqttPacket}
    (h : Decodes sent packets) (hpacket : Decodes packet [p]) (written : Int) :
    Decodes (deliver sent packet written) (packets ++ if 0 < written then [p] else []) := by
  unfold Vmg.deliver
  split
  case isTrue => exact h.append hpacket
  case isFalse => rwa [List.append_nil]

theorem decodes_publish (mqtt : MqttClient) (call : PublishCall) :
    Decodes (framed (publishHeader call.qos) (packetBody mqtt call.topic call.payload call.qos))
      [.publish ⟨call.qos, call.topic, if 0 < call.qos then some mqtt.packetId else none, call.payload⟩] := by
  refine decodes_framed ?_ (decodePacket_publish mqtt call)
  have hfits := publishCall_remaining call
  rw [packetBody_length]
  omega

theorem sessionMachine_step (session : MqttSession) (call : PublishCall) :
    (sessionMachine.step session call).1 =
      ⟨if 0 < call.qos then { session.client with packetId := session.client.packetId + 1 } else session.client,
        deliver session.sent (framed (publishHeader call.qos)
          (packetBody session.client call.topic call.payload call.qos)) call.written⟩ := by
  rw [sessionMachine]
  dsimp only
  rw [mqttPublish_eq]

theorem decodes_run {session : MqttSession} {packets : List MqttPacket} (h : Decodes session.sent packets)
    (calls : List PublishCall) : Decodes (sessionMachine.run session calls).sent
      (packets ++ published session.client.packetId calls) := by
  induction calls generalizing session packets with
  | nil => rwa [published, List.append_nil]
  | cons call calls ih =>
    have hstep := sessionMachine_step session call
    have hsent := h.deliver (decodes_publish session.client call) call.written
    rw [Machine.run_cons, published, ← List.append_assoc]
    have hnext : (sessionMachine.step session call).1.client.packetId =
        if 0 < call.qos then session.client.packetId + 1 else session.client.packetId := by
      rw [hstep]
      dsimp only
      split <;> rfl
    rw [← hnext]
    refine ih ?_
    rw [hstep]
    exact hsent

/-- **Session.** Cut into packets, the bytes of a session are the CONNECT packet, the publications whose
write succeeded, in order and with the identifiers of their calls, and DISCONNECT. -/
theorem session_decodes (pid : ℕ) (results : CreateResults) (session : MqttSession) (calls : List PublishCall)
    (written : Int) (hopen : openSession pid results = some session) :
    decodeStream (closeSession (sessionMachine.run session calls) written) =
      some ((if 0 < results.sent then [.connect 4 0x02 60 (mqttClientId pid)] else []) ++
        published 1 calls ++ if 0 < written then [.disconnect] else []) := by
  obtain ⟨client, hcreate, rfl⟩ := Option.map_eq_some_iff.mp hopen
  have hid := mqttClientCreate_packetId hcreate
  have hlen := @mqttClientId_length pid
  have hconnect : Decodes (connectPacket (mqttClientId pid)) [.connect 4 0x02 60 (mqttClientId pid)] := by
    rw [connectPacket_eq hlen]
    refine decodes_framed ?_ (decodePacket_connect hlen)
    rw [connectBody_length]
    omega
  have hdisconnect : Decodes disconnectPacket [.disconnect] := by
    rw [disconnectPacket_eq]
    exact decodes_framed (by decide) decodePacket_disconnect
  have hopened := decodes_nil.deliver hconnect results.sent
  have hrun := @decodes_run ⟨client, deliver [] (connectPacket (mqttClientId pid)) results.sent⟩ _ hopened calls
  have hclosed := hrun.deliver hdisconnect written []
  rw [List.append_nil, decodeStream_nil, Option.map_some, List.append_nil] at hclosed
  rw [hid] at hclosed
  exact hclosed

/-- A heartbeat whose write fails between two that succeed takes its identifier with it. -/
theorem session_decodes_three : decodeStream (closeSession (sessionMachine.run
    ⟨⟨1⟩, deliver [] (connectPacket (mqttClientId 4711)) 20⟩
      [heartbeat, { heartbeat with written := -1 }, heartbeat]) 2) =
    some [.connect 4 0x02 60 (literal "vmg_4711"), .publish ⟨1, [0x61], some 1, [0x42]⟩,
      .publish ⟨1, [0x61], some 3, [0x42]⟩, .disconnect] := by
  have hclient : mqttClientId 4711 = literal "vmg_4711" := by decide +kernel
  have hsession := session_decodes 4711 granted _ [heartbeat, { heartbeat with written := -1 }, heartbeat] 2
    (show openSession 4711 granted =
      some ⟨⟨1⟩, deliver [] (connectPacket (mqttClientId 4711)) 20⟩ from rfl)
  rw [hclient] at hsession ⊢
  exact hsession

end Mcus.Vmg
