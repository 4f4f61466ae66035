import Mcus.Foundations.Base128
import Mcus.Foundations.ByteOrder

/-! # Publishing over MQTT

`mqtt_publish` of `pqc_mqtt.c` puts a packet together in 2048 bytes on its stack and hands it to the TLS
connection. A topic is its bytes, up to the terminator; the connection is what its write returns. Of the
client only the packet identifier is kept, and a null client is left out.
-/

namespace Mcus.Vmg
open ByteOrder
set_option autoImplicit false

abbrev mqttConnack : UInt8 := 2
abbrev mqttPublishType : UInt8 := 3

abbrev packetCapacity : ℕ := 2048

structure MqttClient where
  packetId : UInt16
  deriving DecidableEq, Repr

def mqttEncodeLength (len : UInt64) : List UInt8 :=
  let d := (len % 128).toUInt8
  let rest := len / 128
  if 0 < rest then (d ||| 0x80) :: mqttEncodeLength rest else [d]
termination_by len.toNat
decreasing_by
  have hpos : (0 : UInt64) < len / 128 := ‹_›
  have hrest := UInt64.lt_iff_toNat_lt.mp hpos
  have hzero : (0 : UInt64).toNat = 0 := rfl
  have hbase : (128 : UInt64).toNat = 128 := rfl
  rw [UInt64.toNat_div, hbase, hzero] at hrest
  rw [UInt64.toNat_div, hbase]
  omega

/-- Further bytes at `packet[pos]`, unless they run over its end. -/
def put (packet bytes : List UInt8) : Option (List UInt8) :=
  if packet.length + bytes.length ≤ packetCapacity then some (packet ++ bytes) else none

/-- What `mqtt_publish` writes to its buffer. -/
def publishPacket (mqtt : MqttClient) (topic payload : List UInt8) (qos : UInt8) : Option (List UInt8) := do
  let packet ← put [] [mqttPublishType <<< 4 ||| qos <<< 1]
  let remainingLen := 2 + topic.length + payload.length + if 0 < qos then 2 else 0
  let packet ← put packet (mqttEncodeLength (UInt64.ofNat remainingLen))
  -- only 16 bits of the length are sent
  let packet ← put packet (beBytes16 (UInt16.ofNat topic.length))
  let packet ← put packet topic
  let packet ← if 0 < qos then put packet (beBytes16 mqtt.packetId) else some packet
  if 0 < payload.length then put packet payload else some packet

inductive PublishOutcome
  | notWritten
  | overrun
  | written (packet : List UInt8) (returned : Bool)
  deriving DecidableEq, Repr

/-- `mqtt_publish`, with what `pqc_client_write` returns for a packet. -/
def mqttPublish (pqcClientWrite : List UInt8 → Int) (mqtt : MqttClient) (topic : Option (List UInt8))
    (payload : List UInt8) (qos : UInt8) : MqttClient × PublishOutcome :=
  match topic with
  | none => (mqtt, .notWritten)
  | some topic =>
    match publishPacket mqtt topic payload qos with
    | none => (mqtt, .overrun)
    | some packet =>
      (if 0 < qos then { mqtt with packetId := mqtt.packetId + 1 } else mqtt,
        .written packet (decide (0 < pqcClientWrite packet)))

/-! ## What a broker reads -/

structure PublishMessage where
  qos : UInt8
  topic : List UInt8
  packetId : Option UInt16
  payload : List UInt8
  deriving DecidableEq, Repr

/-- A field behind its 16-bit length. -/
def takeString (bytes : List UInt8) : Option (List UInt8 × List UInt8) :=
  match bytes with
  | hi :: lo :: rest =>
    let n := (word16 hi lo).toNat
    if n ≤ rest.length then some (rest.take n, rest.drop n) else none
  | _ => none

/-- A PUBLISH packet of MQTT 3.1.1: its type, the remaining length in at most four bytes, the topic, the
packet identifier if `qos` is not 0, and the payload. -/
def decodePublish (packet : List UInt8) : Option PublishMessage :=
  match packet with
  | [] => none
  | header :: rest =>
    if header >>> 4 ≠ mqttPublishType then none
    else
      match Base128.decode 4 rest with
      | none => none
      | some (remaining, body) =>
        if body.length ≠ remaining then none
        else
          match takeString body with
          | none => none
          | some (topic, behind) =>
            let qos := header >>> 1 &&& 3
            if qos = 0 then some ⟨qos, topic, none, behind⟩
            else if qos = 3 then none
            else
              match behind with
              | hi :: lo :: payload => some ⟨qos, topic, some (word16 hi lo), payload⟩
              | _ => none

/-- The packet was not written and 0 returned, or it fits its buffer and is read as what was asked for. -/
def PublishesFaithfully (mqtt : MqttClient) (topic : Option (List UInt8)) (payload : List UInt8) (qos : UInt8) :
    PublishOutcome → Prop
  | .notWritten => True
  | .overrun => False
  | .written packet _ => packet.length ≤ packetCapacity ∧ ∃ name, topic = some name ∧
      decodePublish packet = some ⟨qos, name, if 0 < qos then some mqtt.packetId else none, payload⟩

/-! ## The remaining length -/

theorem continued_toNat {d : UInt8} (hd : d.toNat < 128) : (d ||| 0x80).toNat = d.toNat + 128 := by
  have hhigh : (0x80 : UInt8).toNat = 1 * 2 ^ 7 := rfl
  rw [UInt8.toNat_or, hhigh, Nat.or_comm, mul_pow_or 1 hd]
  omega

theorem mqttEncodeLength_eq (len : UInt64) : mqttEncodeLength len = Base128.encode len.toNat := by
  induction hn : len.toNat using Nat.strongRecOn generalizing len with
  | ind n ih =>
    have hbase : (128 : UInt64).toNat = 128 := rfl
    have hrest : (len / 128).toNat = n / 128 := by rw [UInt64.toNat_div, hbase, hn]
    have hdigit : (len % 128).toUInt8.toNat = n % 128 := by
      rw [UInt64.toNat_toUInt8, UInt64.toNat_mod, hbase, hn]
      omega
    have hpos : 0 < len / 128 ↔ 128 ≤ n := by
      rw [UInt64.lt_iff_toNat_lt, hrest]
      change 0 < n / 128 ↔ 128 ≤ n
      omega
    rw [mqttEncodeLength]
    rcases Nat.lt_or_ge n 128 with hlt | hge
    · rw [if_neg (mt hpos.mp (Nat.not_le.mpr hlt)), Base128.encode_of_lt hlt]
      have hbyte : (len % 128).toUInt8 = UInt8.ofNat n := by
        apply UInt8.toNat_inj.mp
        rw [hdigit, Base128.byte_toNat (by omega), Nat.mod_eq_of_lt hlt]
      rw [hbyte]
    · rw [if_pos (hpos.mpr hge), Base128.encode_of_le hge, ih (n / 128) (by omega) (len / 128) hrest]
      have hbyte : (len % 128).toUInt8 ||| 0x80 = UInt8.ofNat (n % 128 + 128) := by
        apply UInt8.toNat_inj.mp
        rw [continued_toNat (by omega), hdigit, Base128.byte_toNat (by omega)]
      rw [hbyte]

/-- **Remaining length.** The bytes written for a length are its digits in base 128 with the continuation bit
on all but the last, they are at most four exactly for the lengths MQTT allows, and a reader takes these
bytes and no more, whatever follows. -/
theorem mqttEncodeLength_represents (len : UInt64) :
    1 ≤ (mqttEncodeLength len).length ∧ Base128.Represents (mqttEncodeLength len) len.toNat ∧
      ((mqttEncodeLength len).length ≤ 4 ↔ len.toNat < 2 ^ 28) ∧
      ∀ limit rest, (mqttEncodeLength len).length ≤ limit →
        Base128.decode limit (mqttEncodeLength len ++ rest) = some (len.toNat, rest) := by
  rw [mqttEncodeLength_eq]
  have hpos : 1 ≤ (Base128.encode len.toNat).length := List.length_pos_iff.mpr (Base128.encode_ne_nil _)
  have hfour : (128 : ℕ) ^ (3 + 1) = 2 ^ 28 := by norm_num
  refine ⟨hpos, Base128.represents_encode _, hfour ▸ Base128.encode_length_le_iff, ?_⟩
  intro limit rest hlimit
  obtain ⟨k, rfl⟩ : ∃ k, limit = k + 1 := ⟨limit - 1, by omega⟩
  exact Base128.decode_encode (Base128.encode_length_le_iff.mp hlimit) rest

/-! ## The buffer -/

section Buffer
variable {mqtt : MqttClient} {topic payload : List UInt8} {qos : UInt8}

/-- Two pieces are put as one. -/
theorem put_bind {f : List UInt8 → Option (List UInt8)} {next : List UInt8}
    (hf : ∀ packet, packet.length ≤ packetCapacity → f packet = put packet next) (packet bytes : List UInt8) :
    (put packet bytes).bind f = put packet (bytes ++ next) := by
  unfold put at hf ⊢
  by_cases hfits : packet.length + bytes.length ≤ packetCapacity
  · rw [if_pos hfits, Option.bind_some, hf _ (by rw [List.length_append]; exact hfits), List.append_assoc]
    simp only [List.length_append, Nat.add_assoc]
  · rw [if_neg hfits, Option.bind_none, if_neg]
    rw [List.length_append]
    omega

theorem put_nil {packet : List UInt8} (hfits : packet.length ≤ packetCapacity) : put packet [] = some packet := by
  rw [put, if_pos (by rw [List.length_nil]; exact hfits), List.append_nil]

/-- The number behind the fixed header, and the bytes that it counts. -/
def remainingLength (topic payload : List UInt8) (qos : UInt8) : ℕ :=
  2 + topic.length + payload.length + if 0 < qos then 2 else 0

def packetBody (mqtt : MqttClient) (topic payload : List UInt8) (qos : UInt8) : List UInt8 :=
  beBytes16 (UInt16.ofNat topic.length) ++
    (topic ++ ((if 0 < qos then beBytes16 mqtt.packetId else []) ++ payload))

theorem packetBody_length : (packetBody mqtt topic payload qos).length = remainingLength topic payload qos := by
  have hword : ∀ x : UInt16, (beBytes16 x).length = 2 := fun _ => rfl
  unfold packetBody remainingLength
  split <;> simp only [List.length_append, hword, List.length_nil] <;> omega

/-- The packet is put as a whole. -/
theorem publishPacket_eq : publishPacket mqtt topic payload qos =
    put [] ((mqttPublishType <<< 4 ||| qos <<< 1) ::
      (Base128.encode (UInt64.ofNat (remainingLength topic payload qos)).toNat ++
        packetBody mqtt topic payload qos)) := by
  have hpayload : ∀ packet, packet.length ≤ packetCapacity →
      (if 0 < payload.length then put packet payload else some packet) = put packet payload := by
    intro packet hfits
    split
    case isTrue => rfl
    case isFalse hempty => rw [List.length_eq_zero_iff.mp (Nat.eq_zero_of_not_pos hempty), put_nil hfits]
  -- the rest of the packet stands behind either branch
  have hidentifier : ∀ packet, packet.length ≤ packetCapacity →
      (if 0 < qos then (put packet (beBytes16 mqtt.packetId)).bind fun packet =>
          if 0 < payload.length then put packet payload else some packet
        else (some packet).bind fun packet => if 0 < payload.length then put packet payload else some packet) =
      put packet ((if 0 < qos then beBytes16 mqtt.packetId else []) ++ payload) := by
    intro packet hfits
    split
    case isTrue => exact put_bind hpayload packet _
    case isFalse => exact hpayload packet hfits
  have htopic := fun packet (_ : packet.length ≤ packetCapacity) => put_bind hidentifier packet topic
  have hlength := fun packet (_ : packet.length ≤ packetCapacity) =>
    put_bind htopic packet (beBytes16 (UInt16.ofNat topic.length))
  have hremaining := fun packet (_ : packet.length ≤ packetCapacity) =>
    put_bind hlength packet (mqttEncodeLength (UInt64.ofNat (remainingLength topic payload qos)))
  rw [← mqttEncodeLength_eq]
  exact put_bind hremaining [] [mqttPublishType <<< 4 ||| qos <<< 1]

/-- A packet fits exactly if no more than 2045 bytes follow its fixed header. -/
theorem packet_fits_iff : ((mqttPublishType <<< 4 ||| qos <<< 1) ::
    (Base128.encode (UInt64.ofNat (remainingLength topic payload qos)).toNat ++
      packetBody mqtt topic payload qos)).length ≤ packetCapacity ↔ remainingLength topic payload qos ≤ 2045 := by
  rw [List.length_cons, List.length_append, packetBody_length]
  generalize remainingLength topic payload qos = remaining
  have hcapacity : packetCapacity = 2048 := rfl
  have hpos := List.length_pos_iff.mpr (Base128.encode_ne_nil (UInt64.ofNat remaining).toNat)
  rcases Nat.lt_or_ge remaining (128 ^ 2) with hsmall | hlarge
  · have hword : (UInt64.ofNat remaining).toNat = remaining :=
      UInt64.toNat_ofNat_of_lt' (by change remaining < 2 ^ 64; omega)
    rw [hword] at hpos ⊢
    have htwo := Base128.encode_length_le (k := 1) hsmall
    rcases Nat.lt_or_ge remaining 128 with hlt | hge
    · exact iff_of_true (by omega) (by omega)
    · have hmore := Base128.two_le_encode_length hge
      omega
  · exact iff_of_false (by omega) (by omega)

end Buffer

/-! ## Reading it back -/

section Reading
variable {mqtt : MqttClient} {topic payload : List UInt8} {qos : UInt8}

theorem takeString_encoded (hlen : topic.length < 2 ^ 16) (behind : List UInt8) :
    takeString (beBytes16 (UInt16.ofNat topic.length) ++ (topic ++ behind)) = some (topic, behind) := by
  have hword : (UInt16.ofNat topic.length).toNat = topic.length := UInt16.toNat_ofNat_of_lt' hlen
  change takeString ((UInt16.ofNat topic.length >>> 8).toUInt8 :: (UInt16.ofNat topic.length).toUInt8 ::
    (topic ++ behind)) = _
  rw [takeString, word16_bytes, hword, if_pos (by rw [List.length_append]; omega), List.take_left' rfl,
    List.drop_left' rfl]

/-- The fixed header names the type and carries `qos`. -/
theorem header_fields (hqos : qos ≤ 2) : (mqttPublishType <<< 4 ||| qos <<< 1) >>> 4 = mqttPublishType ∧
    (mqttPublishType <<< 4 ||| qos <<< 1) >>> 1 &&& 3 = qos ∧ qos ≠ 3 := by
  have hall : ∀ n : Fin 3, (mqttPublishType <<< 4 ||| UInt8.ofNat n <<< 1) >>> 4 = mqttPublishType ∧
      (mqttPublishType <<< 4 ||| UInt8.ofNat n <<< 1) >>> 1 &&& 3 = UInt8.ofNat n ∧ UInt8.ofNat n ≠ 3 := by decide
  have hlt : qos.toNat < 3 := Nat.lt_succ_of_le (UInt8.le_iff_toNat_le.mp hqos)
  have h := hall ⟨qos.toNat, hlt⟩
  rwa [UInt8.ofNat_toNat] at h

theorem decodePublish_packet (hqos : qos ≤ 2) (hfits : remainingLength topic payload qos ≤ 2045) :
    decodePublish ((mqttPublishType <<< 4 ||| qos <<< 1) ::
      (Base128.encode (UInt64.ofNat (remainingLength topic payload qos)).toNat ++
        packetBody mqtt topic payload qos)) =
    some ⟨qos, topic, if 0 < qos then some mqtt.packetId else none, payload⟩ := by
  obtain ⟨htype, hfield, hthree⟩ := header_fields hqos
  have htopic : topic.length < 2 ^ 16 := by
    unfold remainingLength at hfits
    omega
  have hword : (UInt64.ofNat (remainingLength topic payload qos)).toNat = remainingLength topic payload qos :=
    UInt64.toNat_ofNat_of_lt' (by change remainingLength topic payload qos < 2 ^ 64; omega)
  have hdecode := Base128.decode_encode (k := 3) (n := remainingLength topic payload qos) (by omega)
    (packetBody mqtt topic payload qos)
  rw [decodePublish, if_neg (not_not.mpr htype), hword, hdecode]
  dsimp only
  rw [if_neg (not_not.mpr packetBody_length), packetBody, takeString_encoded htopic]
  dsimp only
  rw [hfield]
  by_cases hzero : qos = 0
  · have hnot : ¬ 0 < qos := by rw [hzero]; decide
    rw [if_pos hzero, if_neg hnot, if_neg hnot, List.nil_append]
  · have hpos : 0 < qos := UInt8.pos_iff_ne_zero.mpr hzero
    rw [if_neg hzero, if_neg hthree, if_pos hpos, if_pos hpos]
    change some (PublishMessage.mk qos topic
      (some (word16 (mqtt.packetId >>> 8).toUInt8 mqtt.packetId.toUInt8)) payload) = _
    rw [word16_bytes]

end Reading

/-! ## A call -/

section Call
variable (pqcClientWrite : List UInt8 → Int) (mqtt : MqttClient) {topic payload : List UInt8} {qos : UInt8}

theorem mqttPublish_written (hfits : remainingLength topic payload qos ≤ 2045) :
    ∃ packet, mqttPublish pqcClientWrite mqtt (some topic) payload qos =
        (if 0 < qos then { mqtt with packetId := mqtt.packetId + 1 } else mqtt,
          .written packet (decide (0 < pqcClientWrite packet))) ∧
      packet.length ≤ packetCapacity ∧
      (qos ≤ 2 → decodePublish packet =
        some ⟨qos, topic, if 0 < qos then some mqtt.packetId else none, payload⟩) := by
  have hpacket := (@packet_fits_iff mqtt topic payload qos).mpr hfits
  refine ⟨_, ?_, hpacket, fun hqos => decodePublish_packet hqos hfits⟩
  rw [mqttPublish, publishPacket_eq, put, if_pos (by rw [List.length_nil, Nat.zero_add]; exact hpacket),
    List.nil_append]

theorem mqttPublish_overrun (hlarge : ¬ remainingLength topic payload qos ≤ 2045) :
    mqttPublish pqcClientWrite mqtt (some topic) payload qos = (mqtt, .overrun) := by
  have hpacket := mt (@packet_fits_iff mqtt topic payload qos).mp hlarge
  rw [mqttPublish, publishPacket_eq, put, if_neg (by rw [List.length_nil, Nat.zero_add]; exact hpacket)]

end Call

theorem remainingLength_eq (topic payload : List UInt8) (qos : UInt8) : remainingLength topic payload qos =
    topic.length + payload.length + if 0 < qos then 4 else 2 := by
  unfold remainingLength
  split <;> omega

/-- **Publish.** A packet is put together in its buffer and read as what was asked for exactly if topic
and payload leave no more than 2045 bytes behind the fixed header. -/
theorem publishes_faithfully_iff (pqcClientWrite : List UInt8 → Int) (mqtt : MqttClient)
    (topic : Option (List UInt8)) (payload : List UInt8) (qos : UInt8) (hqos : qos ≤ 2) :
    PublishesFaithfully mqtt topic payload qos (mqttPublish pqcClientWrite mqtt topic payload qos).2 ↔
      ∀ name, topic = some name → name.length + payload.length + (if 0 < qos then 4 else 2) ≤ 2045 := by
  cases topic with
  | none => exact iff_of_true trivial nofun
  | some name =>
    have hcondition : (∀ name', some name = some name' →
        name'.length + payload.length + (if 0 < qos then 4 else 2) ≤ 2045) ↔
          remainingLength name payload qos ≤ 2045 := by
      simp only [Option.some.injEq, forall_eq', remainingLength_eq]
    rw [hcondition]
    by_cases hfits : remainingLength name payload qos ≤ 2045
    · obtain ⟨packet, hwritten, hlength, hread⟩ := mqttPublish_written pqcClientWrite mqtt hfits
      rw [hwritten]
      exact iff_of_true ⟨hlength, name, rfl, hread hqos⟩ hfits
    · rw [mqttPublish_overrun pqcClientWrite mqtt hfits]
      exact iff_of_false nofun hfits

/-- Topic `a` and one byte. -/
theorem publishes_faithfully_small :
    PublishesFaithfully ⟨1⟩ (some [0x61]) [0x42] 1 (mqttPublish (fun _ => 7) ⟨1⟩ (some [0x61]) [0x42] 1).2 :=
  (publishes_faithfully_iff _ _ _ _ _ (by decide)).mpr fun name hname => by
    obtain rfl := Option.some.inj hname
    decide

/-- A payload of 2048 bytes is copied over the end of the buffer. -/
theorem publish_overruns : ¬ ∀ (pqcClientWrite : List UInt8 → Int) (mqtt : MqttClient)
    (topic : Option (List UInt8)) (payload : List UInt8) (qos : UInt8), qos ≤ 2 →
      PublishesFaithfully mqtt topic payload qos (mqttPublish pqcClientWrite mqtt topic payload qos).2 := by
  intro hall
  have hfaithful := hall (fun _ => 1) ⟨1⟩ (some [0x61]) (List.replicate 2048 0x42) 0 (by decide)
  have hlarge : ¬ remainingLength [0x61] (List.replicate 2048 0x42) 0 ≤ 2045 := by
    rw [remainingLength_eq, List.length_replicate]
    decide
  rw [mqttPublish_overrun _ _ hlarge] at hfaithful
  exact hfaithful

end Mcus.Vmg
