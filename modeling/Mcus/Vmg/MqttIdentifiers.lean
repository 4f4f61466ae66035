import Mathlib.Data.List.Nodup
import Mcus.Foundations.Runs
import Mcus.Vmg.MqttPublish

/-! # Packet identifiers

`mqtt_client_create` starts the 16-bit counter at 1, and every packet that needs an identifier takes one.
Behind the last of 65535 packets the counter stands at 0, which is no identifier.
-/

namespace Mcus.Vmg
open Runs
set_option autoImplicit false

/-- `mqtt_recv_connack`, with what `pqc_client_read` returns and leaves in the buffer. -/
def mqttRecvConnack (received : Int) (buf : List UInt8) : Bool :=
  if received ≠ 4 then false
  else if buf.getD 0 0 >>> 4 ≠ mqttConnack then false
  else if buf.getD 3 0 ≠ 0 then false
  else true

/-- What the calls of `mqtt_client_create` return: the TLS client, the allocation, the CONNECT packet
written, and the answer read. -/
structure CreateResults where
  tlsClient : Bool
  allocated : Bool
  sent : Int
  received : Int
  connack : List UInt8

def mqttClientCreate (results : CreateResults) : Option MqttClient :=
  if !results.tlsClient then none
  else if !results.allocated then none
  else if results.sent < 0 then none
  else if !mqttRecvConnack results.received results.connack then none
  else some ⟨1⟩

/-- A call of `mqtt_publish` whose packet fits, and what the connection's write returns. -/
structure PublishCall where
  topic : List UInt8
  payload : List UInt8
  qos : UInt8
  written : Int
  qosOk : qos ≤ 2
  fits : topic.length + payload.length + (if 0 < qos then 4 else 2) ≤ 2045

def publishMachine : Machine MqttClient PublishCall PublishOutcome where
  step mqtt call := mqttPublish (fun _ => call.written) mqtt (some call.topic) call.payload call.qos

/-- The identifier that a broker reads. -/
def PublishOutcome.identifier : PublishOutcome → Option UInt16
  | .written packet _ => (decodePublish packet).bind (·.packetId)
  | _ => none

/-- The identifiers of the packets written, in order. -/
def identifiers (mqtt : MqttClient) (calls : List PublishCall) : List UInt16 :=
  (publishMachine.trace mqtt calls).filterMap (·.output.identifier)

/-- No identifier is 0, and none appears twice among 65535 in a row. -/
structure UsableIdentifiers (ids : List UInt16) : Prop where
  nonzero : ∀ id ∈ ids, id ≠ 0
  distinct : ∀ window, window <:+: ids → window.length ≤ 65535 → window.Nodup

/-- How many packets need an identifier. -/
def identifiedCount (calls : List PublishCall) : ℕ := calls.countP fun call => decide (0 < call.qos)

/-! ## The counter -/

section Counter
variable {mqtt : MqttClient} {call : PublishCall}

/-- One call: a packet that needs an identifier takes the counter. -/
theorem publish_step (mqtt : MqttClient) (call : PublishCall) :
    (publishMachine.step mqtt call).1 =
        (if 0 < call.qos then { mqtt with packetId := mqtt.packetId + 1 } else mqtt) ∧
    (publishMachine.step mqtt call).2.identifier = if 0 < call.qos then some mqtt.packetId else none := by
  have hfits := call.fits
  rw [← remainingLength_eq] at hfits
  obtain ⟨packet, hwritten, -, hread⟩ := mqttPublish_written (fun _ => call.written) mqtt hfits
  refine ⟨congrArg Prod.fst hwritten, ?_⟩
  change (mqttPublish _ mqtt _ _ _).2.identifier = _
  rw [hwritten]
  change (decodePublish packet).bind (·.packetId) = _
  rw [hread call.qosOk]
  rfl

theorem counter_succ (id : UInt16) (k : ℕ) : id + 1 + UInt16.ofNat k = id + UInt16.ofNat (k + 1) := by
  rw [UInt16.ofNat_add, UInt16.add_assoc, UInt16.add_comm 1]
  rfl

/-- The identifiers count up from the counter, modulo its width. -/
theorem identifiers_eq (mqtt : MqttClient) (calls : List PublishCall) : identifiers mqtt calls =
    (List.range (identifiedCount calls)).map fun k => mqtt.packetId + UInt16.ofNat k := by
  induction calls generalizing mqtt with
  | nil => rfl
  | cons call calls ih =>
    obtain ⟨hclient, hidentifier⟩ := publish_step mqtt call
    have hrest := ih (publishMachine.step mqtt call).1
    unfold identifiers identifiedCount at hrest ⊢
    rw [Machine.trace_cons, List.filterMap_cons, Machine.stepAt_output, hidentifier, hrest, hclient]
    by_cases hqos : 0 < call.qos
    · rw [if_pos hqos, if_pos hqos, List.countP_cons_of_pos (by simpa using hqos), List.range_succ_eq_map,
        List.map_cons, List.map_map]
      have hfirst : mqtt.packetId + UInt16.ofNat 0 = mqtt.packetId := UInt16.add_zero _
      dsimp only
      rw [hfirst]
      exact congrArg (mqtt.packetId :: ·) (List.map_congr_left fun k _ => counter_succ _ k)
    · rw [if_neg hqos, if_neg hqos, List.countP_cons_of_neg (by simpa using hqos)]

theorem counter_injective {id : UInt16} {j k : ℕ} (hjk : k ≤ j + 65535) (hkj : j ≤ k + 65535)
    (heq : id + UInt16.ofNat j = id + UInt16.ofNat k) : j = k := by
  have hmod := congrArg UInt16.toNat heq
  rw [UInt16.toNat_add, UInt16.toNat_add, UInt16.toNat_ofNat', UInt16.toNat_ofNat'] at hmod
  omega

/-- Numbers that are less than the width apart stay distinct. -/
theorem window_nodup (id : UInt16) {n : ℕ} {window : List UInt16}
    (hwindow : window <:+: (List.range n).map fun k => id + UInt16.ofNat k) (hlen : window.length ≤ 65535) :
    window.Nodup := by
  obtain ⟨before, behind, hsplit⟩ := hwindow
  have heq : window = (List.range' before.length window.length).map fun k => id + UInt16.ofNat k := by
    have hlength := congrArg List.length hsplit
    rw [List.length_append, List.length_append, List.length_map, List.length_range] at hlength
    have hpart : window = ((before ++ window ++ behind).drop before.length).take window.length := by
      rw [List.append_assoc, List.drop_left, List.take_left]
    rw [hsplit, ← List.map_drop, ← List.map_take, List.range_eq_range', List.drop_range',
      List.take_range'_of_length_ge (by omega), Nat.zero_add, Nat.mul_one] at hpart
    exact hpart
  rw [heq]
  refine List.Nodup.map_on ?_ List.nodup_range'
  intro j hj k hk
  rw [List.mem_range'_1] at hj hk
  exact counter_injective (by omega) (by omega)

theorem mqttClientCreate_packetId {results : CreateResults} {mqtt : MqttClient}
    (hcreate : mqttClientCreate results = some mqtt) : mqtt.packetId = 1 := by
  unfold mqttClientCreate at hcreate
  repeat' split at hcreate
  case isFalse => exact (Option.some.inj hcreate) ▸ rfl
  all_goals cases hcreate

end Counter

/-- **Packet identifiers.** They are usable exactly as long as no more than 65535 packets needed one. -/
theorem identifiers_usable_iff (results : CreateResults) (mqtt : MqttClient) (calls : List PublishCall)
    (hcreate : mqttClientCreate results = some mqtt) :
    UsableIdentifiers (identifiers mqtt calls) ↔ identifiedCount calls ≤ 65535 := by
  have hone : (1 : UInt16).toNat = 1 := rfl
  rw [identifiers_eq, mqttClientCreate_packetId hcreate]
  constructor
  · intro h
    by_contra hmany
    have hwrapped : (1 : UInt16) + UInt16.ofNat 65535 = 0 := by decide
    refine h.nonzero 0 (List.mem_map.mpr ⟨65535, List.mem_range.mpr (by omega), hwrapped⟩) rfl
  · intro hfew
    refine ⟨?_, fun window => window_nodup 1⟩
    intro id hid hzero
    obtain ⟨k, hk, rfl⟩ := List.mem_map.mp hid
    have hmod := congrArg UInt16.toNat hzero
    have hk := List.mem_range.mp hk
    rw [UInt16.toNat_add, UInt16.toNat_ofNat', hone] at hmod
    change _ = 0 at hmod
    omega

/-- A heartbeat with `qos` 1. -/
def heartbeat : PublishCall := ⟨[0x61], [0x42], 1, 7, by decide, by decide⟩

def granted : CreateResults := ⟨true, true, 20, 4, [0x20, 0x02, 0x00, 0x00]⟩

theorem identifiers_usable_three : UsableIdentifiers (identifiers ⟨1⟩ [heartbeat, heartbeat, heartbeat]) :=
  (identifiers_usable_iff granted ⟨1⟩ _ (by decide)).mpr (by decide)

/-- The 65536th heartbeat carries identifier 0. -/
theorem identifiers_wrap : mqttClientCreate granted = some ⟨1⟩ ∧
    ¬ UsableIdentifiers (identifiers ⟨1⟩ (List.replicate 65536 heartbeat)) := by
  refine ⟨by decide, fun h => ?_⟩
  have hcount : identifiedCount (List.replicate 65536 heartbeat) = 65536 := by
    rw [identifiedCount, List.countP_replicate]
    rfl
  have hids := h.nonzero
  rw [identifiers_eq, hcount] at hids
  have hwrapped : (1 : UInt16) + UInt16.ofNat 65535 = 0 := by decide
  exact hids 0 (List.mem_map.mpr ⟨65535, List.mem_range.mpr (by decide), hwrapped⟩) rfl

end Mcus.Vmg
