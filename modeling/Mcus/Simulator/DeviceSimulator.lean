import Mcus.Foundations.CString
import Mcus.Foundations.JsonObjects
import Mcus.Foundations.Lines
import Mcus.Foundations.PolledTimer
import Mcus.Foundations.Runs

/-! # The device simulator

`protocol.cpp` and the worker loop of `device_simulator.cpp`: heartbeats and sensor data as JSON lines over
one TLS connection. What `SSL_write` refuses is dropped and not sent again.
-/

namespace Mcus.Simulator
open CString JsonObjects Lines PolledTimer Runs
set_option autoImplicit false

abbrev Text := List UInt8

inductive MessageType
  | heartbeat
  | statusReport
  | commandAck
  | sensorData
  | error
  deriving DecidableEq, Repr

def messageTypeToString : MessageType → Text
  | .heartbeat => literal "HEARTBEAT"
  | .statusReport => literal "STATUS_REPORT"
  | .commandAck => literal "COMMAND_ACK"
  | .sensorData => literal "SENSOR_DATA"
  | .error => literal "ERROR"

def stringToMessageType (str : Text) : MessageType :=
  if str = literal "HEARTBEAT" then .heartbeat
  else if str = literal "STATUS_REPORT" then .statusReport
  else if str = literal "COMMAND_ACK" then .commandAck
  else if str = literal "SENSOR_DATA" then .sensorData
  else if str = literal "ERROR" then .error
  else .error

theorem stringToMessageType_toString (type : MessageType) :
    stringToMessageType (messageTypeToString type) = type := by
  cases type <;> decide

structure ProtocolMessage (J : Type) where
  type : MessageType
  deviceId : Text
  payload : J
  timestamp : Text

/-- The text of a JSON value, and the value of a text if it has one. -/
structure JsonText (J : Type) where
  dump : J → Text
  parse : Text → Option J

def newline : UInt8 := 10

section Messages
variable {J : Type} (lib : JsonLibrary Text J)

namespace ProtocolMessage

/-- `toJSON`, before `dump`. -/
def toJson (m : ProtocolMessage J) : J :=
  lib.object [
    ("type", lib.string (messageTypeToString m.type)),
    ("device_id", lib.string m.deviceId),
    ("payload", m.payload),
    ("timestamp", lib.string m.timestamp)]

/-- `fromJSON`, behind `parse`: a member that is not there is null, and null is no string. -/
def fromJson (j : J) : Option (ProtocolMessage J) := do
  let type ← (lib.find j "type").bind lib.asString
  let deviceId ← (lib.find j "device_id").bind lib.asString
  let payload := (lib.find j "payload").getD lib.null
  let timestamp ← (lib.find j "timestamp").bind lib.asString
  some ⟨stringToMessageType type, deviceId, payload, timestamp⟩

theorem fromJson_toJson (m : ProtocolMessage J) : fromJson lib (m.toJson lib) = some m := by
  simp [fromJson, toJson, lib.find_object, List.lookup_cons, lib.asString_string, stringToMessageType_toString]

variable (text : JsonText J)

def toJSON (m : ProtocolMessage J) : Text := text.dump (m.toJson lib)

def fromJSON (s : Text) : Option (ProtocolMessage J) := (text.parse s).bind (fromJson lib)

end ProtocolMessage

def createHeartbeat (deviceId timestamp : Text) : ProtocolMessage J :=
  ⟨.heartbeat, deviceId, lib.object [("status", lib.string (literal "alive"))], timestamp⟩

def createSensorData (deviceId : Text) (data : J) (timestamp : Text) : ProtocolMessage J :=
  ⟨.sensorData, deviceId, data, timestamp⟩

end Messages

/-! ## The worker loop -/

/-- The messages that the loop repeats. -/
inductive Periodical
  | heartbeat
  | sensorData
  deriving DecidableEq, Repr

/-- The intervals are in seconds. -/
structure SimulatorConfig where
  deviceId : Text
  heartbeatIntervalSec : Int
  sensorUpdateIntervalSec : Int

def SimulatorConfig.intervalSec (config : SimulatorConfig) : Periodical → Int
  | .heartbeat => config.heartbeatIntervalSec
  | .sensorData => config.sensorUpdateIntervalSec

/-- The variables of the loop, and the TLS connection: its state and the bytes that it took. -/
structure Worker where
  lastHeartbeat : ℕ
  lastSensorData : ℕ
  connected : Bool
  sent : Text

namespace Worker

/-- Behind `start`. -/
def started : Worker := ⟨0, 0, true, []⟩

def last (w : Worker) : Periodical → ℕ
  | .heartbeat => w.lastHeartbeat
  | .sensorData => w.lastSensorData

def setLast (w : Worker) (now : ℕ) : Periodical → Worker
  | .heartbeat => { w with lastHeartbeat := now }
  | .sensorData => { w with lastSensorData := now }

/-- `TlsClient::send`, which writes all of the data or nothing. -/
def send (w : Worker) (takes : Bool) (data : Text) : Worker × Bool :=
  if w.connected && takes then ({ w with sent := w.sent ++ data }, true) else (w, false)

end Worker

/-- One pass: the clock in nanoseconds behind the start of the loop, the readings as a JSON object, the
local time, and whether `SSL_write` takes a message. Both messages of a pass have one timestamp, where the
source reads the clock for each. -/
structure Pass (J : Type) where
  now : ℕ
  readings : J
  timestamp : Text
  takes : Periodical → Bool

/-- `duration_cast` to seconds. -/
def elapsedSec (since now : ℕ) : ℕ := (now - since) / 1000000000

section Loop
variable {J : Type} (lib : JsonLibrary Text J) (text : JsonText J) (config : SimulatorConfig)

def periodical (p : Pass J) : Periodical → ProtocolMessage J
  | .heartbeat => createHeartbeat lib config.deviceId p.timestamp
  | .sensorData => createSensorData config.deviceId p.readings p.timestamp

/-- One `if` of the loop with `sendHeartbeat` or `sendSensorData`, and whether its message was taken. -/
def sendWhenDue (p : Pass J) (w : Worker) (k : Periodical) : Worker × List (ProtocolMessage J × Bool) :=
  if (elapsedSec (w.last k) p.now : Int) ≥ config.intervalSec k then
    let m := periodical lib config p k
    let (w, taken) := w.send (p.takes k) (m.toJSON lib text ++ [newline])
    (w.setLast p.now k, [(m, taken)])
  else (w, [])

/-- One pass of `workerLoop`. -/
def workerPass (w : Worker) (p : Pass J) : Worker × List (ProtocolMessage J × Bool) :=
  let (w, beats) := sendWhenDue lib text config p w .heartbeat
  let (w, readings) := sendWhenDue lib text config p w .sensorData
  (w, beats ++ readings)

def workerMachine : Machine Worker (Pass J) (List (ProtocolMessage J × Bool)) := ⟨workerPass lib text config⟩

abbrev WorkerStep (J : Type) := Step Worker (Pass J) (List (ProtocolMessage J × Bool))

def takenOf (out : List (ProtocolMessage J × Bool)) : List (ProtocolMessage J) := (out.filter (·.2)).map (·.1)

/-- The messages that the connection took. -/
def takenMessages (past : List (WorkerStep J)) : List (ProtocolMessage J) := past.flatMap fun e => takenOf e.output

def Periodical.type : Periodical → MessageType
  | heartbeat => .heartbeat
  | sensorData => .sensorData

def sends (k : Periodical) (out : List (ProtocolMessage J × Bool)) : Bool := out.any fun m => m.1.type = k.type

/-- The times of the passes that send the message, taken or not. -/
def sendTimes (k : Periodical) (past : List (WorkerStep J)) : List ℕ :=
  (past.filter fun e => sends k e.output).map fun e => e.input.now

/-- What a receiver reads in the complete lines of what it has got. -/
def receivedMessages (got : Text) : List (Option (ProtocolMessage J)) :=
  (completeLines newline got).map (ProtocolMessage.fromJSON lib text)

end Loop

/-! ## One pass -/

section Pass
variable {J : Type} {lib : JsonLibrary Text J} {text : JsonText J} {config : SimulatorConfig}
  {w : Worker} {p : Pass J} {k k' : Periodical}

theorem periodical_type : (periodical lib config p k).type = k.type := by
  cases k <;> rfl

/-- The lines of messages. -/
abbrev linesOf (lib : JsonLibrary Text J) (text : JsonText J) (ms : List (ProtocolMessage J)) : Text :=
  ofLines newline (ms.map (ProtocolMessage.toJSON lib text))

theorem linesOf_append (ms ms' : List (ProtocolMessage J)) :
    linesOf lib text (ms ++ ms') = linesOf lib text ms ++ linesOf lib text ms' := by
  simp [linesOf, ofLines]

/-- What a pass adds to the connection, and what it leaves. -/
structure Adds (w w' : Worker) (added : Text) : Prop where
  sent : w'.sent = w.sent ++ added
  connected : w'.connected = w.connected

theorem sendWhenDue_adds : Adds w (sendWhenDue lib text config p w k).1
    (linesOf lib text (takenOf (sendWhenDue lib text config p w k).2)) := by
  unfold sendWhenDue Worker.send
  split
  · split
    · cases k <;> exact ⟨by simp [Worker.setLast, linesOf, ofLines, takenOf], rfl⟩
    · cases k <;> exact ⟨by simp [Worker.setLast, linesOf, ofLines, takenOf], rfl⟩
  · exact ⟨(List.append_nil _).symm, rfl⟩

theorem workerPass_adds : Adds w (workerPass lib text config w p).1
    (linesOf lib text (takenOf (workerPass lib text config w p).2)) := by
  have hfirst := @sendWhenDue_adds J lib text config w p .heartbeat
  have hsecond := @sendWhenDue_adds J lib text config (sendWhenDue lib text config p w .heartbeat).1 p .sensorData
  dsimp only [workerPass]
  rw [takenOf, List.filter_append, List.map_append, linesOf_append]
  exact ⟨by rw [hsecond.sent, hfirst.sent, List.append_assoc]; rfl, hsecond.connected.trans hfirst.connected⟩

theorem last_setLast (w : Worker) (now : ℕ) (k k' : Periodical) :
    (w.setLast now k).last k' = if k' = k then now else w.last k' := by
  cases k <;> cases k' <;> rfl

theorem last_send (takes : Bool) (data : Text) : (w.send takes data).1.last k = w.last k := by
  unfold Worker.send
  split <;> cases k <;> rfl

/-- The interval is over. -/
def Due (config : SimulatorConfig) (k : Periodical) (since now : ℕ) : Prop :=
  config.intervalSec k ≤ (elapsedSec since now : Int)

instance (since now : ℕ) : Decidable (Due config k since now) := inferInstanceAs (Decidable (_ ≤ _))

theorem sendWhenDue_same : sends k (sendWhenDue lib text config p w k).2 = decide (Due config k (w.last k) p.now) ∧
    (sendWhenDue lib text config p w k).1.last k = if Due config k (w.last k) p.now then p.now else w.last k := by
  unfold sendWhenDue Due
  split
  case isTrue hdue => simp [sends, periodical_type, last_setLast, hdue]
  case isFalse hdue => simp [sends, hdue]

theorem sendWhenDue_other (hne : k ≠ k') : sends k (sendWhenDue lib text config p w k').2 = false ∧
    (sendWhenDue lib text config p w k').1.last k = w.last k := by
  have htype : k'.type ≠ k.type := by
    cases k <;> cases k' <;> first | exact absurd rfl hne | decide
  unfold sendWhenDue
  split
  · simp [sends, periodical_type, last_setLast, last_send, hne, htype]
  · simp [sends]

/-- A pass sends a message exactly when its interval is over, and takes the time of it then. -/
theorem workerPass_message (w : Worker) (p : Pass J) (k : Periodical) :
    sends k (workerPass lib text config w p).2 = decide (Due config k (w.last k) p.now) ∧
      (workerPass lib text config w p).1.last k = if Due config k (w.last k) p.now then p.now else w.last k := by
  have hsends : ∀ out out' : List (ProtocolMessage J × Bool),
      sends k (out ++ out') = (sends k out || sends k out') := fun _ _ => List.any_append
  dsimp only [workerPass]
  rw [hsends]
  cases k with
  | heartbeat =>
    have hother := @sendWhenDue_other J lib text config (sendWhenDue lib text config p w .heartbeat).1 p
      .heartbeat .sensorData (by decide)
    rw [hother.1, hother.2, Bool.or_false]
    exact sendWhenDue_same
  | sensorData =>
    have hother := @sendWhenDue_other J lib text config w p .sensorData .heartbeat (by decide)
    rw [hother.1, Bool.false_or, ← hother.2]
    exact sendWhenDue_same

end Pass

/-! ## The loop -/

section Loop
variable {J : Type} {lib : JsonLibrary Text J} {text : JsonText J} {config : SimulatorConfig}

theorem sent_run (w : Worker) (passes : List (Pass J)) :
    ((workerMachine lib text config).run w passes).sent = w.sent ++
      linesOf lib text (takenMessages ((workerMachine lib text config).trace w passes)) := by
  induction passes generalizing w with
  | nil => exact (List.append_nil _).symm
  | cons p passes ih =>
    have hadds := @workerPass_adds J lib text config w p
    have hcons : takenMessages ((workerMachine lib text config).trace w (p :: passes)) =
        takenOf (workerPass lib text config w p).2 ++
          takenMessages ((workerMachine lib text config).trace (workerPass lib text config w p).1 passes) := rfl
    rw [hcons, linesOf_append, ← List.append_assoc, ← hadds.sent]
    exact ih _

/-- The messages of a loop are the firings of a timer that its passes poll. -/
theorem sendTimes_eq_fires (w : Worker) (passes : List (Pass J)) (k : Periodical) :
    sendTimes k ((workerMachine lib text config).trace w passes) =
      fires (fun since now => decide (Due config k since now)) (w.last k) (passes.map (·.now)) := by
  induction passes generalizing w with
  | nil => rfl
  | cons p passes ih =>
    obtain ⟨hsent, htimer⟩ := @workerPass_message J lib text config w p k
    have hcons : sendTimes k ((workerMachine lib text config).trace w (p :: passes)) =
        (if sends k (workerPass lib text config w p).2 = true then [p.now] else []) ++
          sendTimes k ((workerMachine lib text config).trace (workerPass lib text config w p).1 passes) := by
      rw [Machine.trace_cons, sendTimes, List.filter_cons]
      change List.map _ (if sends k (workerPass lib text config w p).2 = true then _ else _) = _
      split <;> rfl
    rw [hcons, ih, htimer, hsent, List.map_cons, fires_cons, poll]
    simp only [decide_eq_true_eq]

theorem due_eq (config : SimulatorConfig) (k : Periodical) :
    (fun since now => decide (Due config k since now)) = truncating 1000000000 (config.intervalSec k).toNat := by
  funext since now
  rw [truncating, decide_eq_decide, Due, elapsedSec, Int.toNat_le]

end Loop

/-- **Device simulator.** What the connection took decodes line by line to the messages it took, and a part
of it to the first ones of them. A message is tried again after at least its interval, and after at most its
interval and the longest gap of the loop, whether it was taken or not. -/
theorem simulator_stream_decodes {J : Type} (lib : JsonLibrary Text J) (text : JsonText J) (config : SimulatorConfig)
    {g : ℕ} (passes : List (Pass J)) (hsteady : Steady g (0 :: passes.map (·.now)))
    (hprinted : ∀ m ∈ takenMessages ((workerMachine lib text config).trace .started passes),
      text.parse (m.toJSON lib text) = some (m.toJson lib) ∧ newline ∉ m.toJSON lib text) :
    let past := (workerMachine lib text config).trace .started passes
    let sent := ((workerMachine lib text config).run .started passes).sent
    receivedMessages lib text sent = (takenMessages past).map some ∧
    (∀ got, got <+: sent → receivedMessages lib text got <+: (takenMessages past).map some) ∧
    ∀ k : Periodical, Periodic ((config.intervalSec k).toNat * 1000000000) g (0 :: sendTimes k past) ∧
      (0 :: passes.map (·.now)).getLast (List.cons_ne_nil _ _) ≤
        (0 :: sendTimes k past).getLast (List.cons_ne_nil _ _) + (config.intervalSec k).toNat * 1000000000 := by
  intro past sent
  have hsent : sent = linesOf lib text (takenMessages past) := by
    rw [show sent = _ from sent_run .started passes]
    rfl
  have hall : receivedMessages lib text sent = (takenMessages past).map some := by
    rw [receivedMessages, hsent, linesOf, completeLines_ofLines, List.map_map]
    · refine List.map_congr_left fun m hm => ?_
      rw [Function.comp_apply, ProtocolMessage.fromJSON, (hprinted m hm).1]
      exact m.fromJson_toJson lib
    · intro line hline
      obtain ⟨m, hm, rfl⟩ := List.mem_map.mp hline
      exact (hprinted m hm).2
  refine ⟨hall, ?_, fun k => ?_⟩
  · rintro got ⟨behind, hgot⟩
    rw [← hall, ← hgot]
    exact (completeLines_mono got behind).map _
  · have htimes : sendTimes k past = fires (truncating 1000000000 (config.intervalSec k).toNat) 0
        (passes.map (·.now)) := by
      rw [show sendTimes k past = _ from sendTimes_eq_fires .started passes k, due_eq]
      cases k <;> rfl
    have hmeasures := @measures_truncating 1000000000 (by decide) (config.intervalSec k).toNat
      ((config.intervalSec k).toNat * 1000000000 + g + 1)
    rw [htimes]
    exact ⟨periodic_fires hmeasures (Nat.lt_succ_self _) (Nat.le_refl 0) (Nat.zero_le _) hsteady,
      last_poll_current hmeasures (Nat.lt_succ_self _) (Nat.le_refl 0) (Nat.zero_le _) hsteady⟩

/-- One heartbeat and its text; nothing else parses. -/
def heartbeatText (deviceId timestamp : Text) : JsonText (Json Text) :=
  let line := literal "\x7b\"device_id\":\"" ++ deviceId ++
    literal "\",\"payload\":\x7b\"status\":\"alive\"\x7d,\"timestamp\":\"" ++ timestamp ++
    literal "\",\"type\":\"HEARTBEAT\"\x7d"
  ⟨fun _ => line, fun s =>
    if s = line then some ((createHeartbeat (Json.library Text) deviceId timestamp).toJson (Json.library Text)) else none⟩

/-- A loop that looks at its clock after five seconds. -/
theorem simulator_stream_decodes_heartbeat :
    let deviceId := literal "TC375-001"
    let timestamp := literal "2025-01-01 00:00:05"
    let text := heartbeatText deviceId timestamp
    let loop := workerMachine (Json.library Text) text ⟨deviceId, 5, 10⟩
    receivedMessages (Json.library Text) text
        (loop.run .started [⟨5000000000, .null, timestamp, fun _ => true⟩]).sent =
      [some (createHeartbeat (Json.library Text) deviceId timestamp)] := by
  intro deviceId timestamp text loop
  have htaken : takenMessages (loop.trace .started [⟨5000000000, .null, timestamp, fun _ => true⟩]) =
      [createHeartbeat (Json.library Text) deviceId timestamp] := by
    simp [takenMessages, loop, workerMachine, workerPass, sendWhenDue, elapsedSec, Worker.last,
      Worker.started, SimulatorConfig.intervalSec, Machine.trace, takenOf, periodical, Worker.send, Worker.setLast]
  have hdecodes := simulator_stream_decodes (g := 5000000000) (Json.library Text) text ⟨deviceId, 5, 10⟩
    [⟨5000000000, .null, timestamp, fun _ => true⟩] (by simp [Steady]) (by
      intro m hm
      rw [htaken, List.mem_singleton] at hm
      rw [hm]
      exact ⟨by simp [text, heartbeatText, ProtocolMessage.toJSON], by decide⟩)
  exact hdecodes.1.trans (congrArg (List.map some) htaken)

end Mcus.Simulator
