import Mcus.Foundations.PolledTimer
import Mcus.Nodes.ConnectionState

/-! # The main loop of the end node

`ecu_run` looks at the tick once and tries to send a heartbeat and the vehicle configuration when their
intervals are over. It does not look whether they were sent. `ecu_get_tick_ms` is left to the platform; its
placeholder returns 0.
-/

namespace Mcus.Nodes
open Doip PolledTimer RateLimit Runs
set_option autoImplicit false

universe u

inductive ECUMessage
  | heartbeat
  | vciInfo
  deriving DecidableEq, Repr

/-- `ECU_HEARTBEAT_INTERVAL_MS` and `ECU_VCI_UPDATE_INTERVAL_MS`. -/
def ECUMessage.intervalMs : ECUMessage → UInt32
  | heartbeat => 10000
  | vciInfo => 60000

structure ECUTimers where
  lastHeartbeatTime : UInt32
  lastVciUpdateTime : UInt32

def ECUTimers.last (timers : ECUTimers) : ECUMessage → UInt32
  | .heartbeat => timers.lastHeartbeatTime
  | .vciInfo => timers.lastVciUpdateTime

def ECUTimers.setLast (timers : ECUTimers) (time : UInt32) : ECUMessage → ECUTimers
  | .heartbeat => { timers with lastHeartbeatTime := time }
  | .vciInfo => { timers with lastVciUpdateTime := time }

theorem ECUTimers.last_setLast (timers : ECUTimers) (time : UInt32) (m m' : ECUMessage) :
    (timers.setLast time m).last m' = if m' = m then time else timers.last m' := by
  cases m <;> cases m' <;> rfl

structure ECULoop (σ : Type u) where
  node : ECUNode
  timers : ECUTimers
  stack : σ

section Loop
variable {σ : Type u} (layer : SocketLayer σ)

def ecuSendVciInfo (ecu : ECUNode) (s : σ) : NodeCall ECUNode σ :=
  if !ecu.zgConnected then ⟨ecu, s, -1⟩ else ⟨ecu, s, 0⟩

def ecuSend (ecu : ECUNode) (s : σ) : ECUMessage → NodeCall ECUNode σ
  | .heartbeat => ecuSendHeartbeat layer ecu s
  | .vciInfo => ecuSendVciInfo ecu s

/-- One `if` of `ecu_run`; the code of what it sends is dropped there. -/
def sendWhenDue (currentTime : UInt32) (ecu : ECULoop σ) (m : ECUMessage) : ECULoop σ × List (ECUMessage × Int) :=
  if currentTime - ecu.timers.last m ≥ m.intervalMs then
    let r := ecuSend layer ecu.node ecu.stack m
    (⟨r.node, ecu.timers.setLast currentTime m, r.stack⟩, [(m, r.code)])
  else (ecu, [])

def ecuRun (currentTime : UInt32) (ecu : ECULoop σ) : ECULoop σ × List (ECUMessage × Int) :=
  let (ecu, beats) := sendWhenDue layer currentTime ecu .heartbeat
  let (ecu, updates) := sendWhenDue layer currentTime ecu .vciInfo
  (ecu, beats ++ updates)

/-- A call of the node, or a pass of its main loop at a real time in milliseconds. -/
inductive ECUEvent
  | call (op : ECUOp)
  | run (time : ℕ)
  deriving DecidableEq, Repr

def ecuLoopStep (getTickMs : ℕ → UInt32) (ecu : ECULoop σ) : ECUEvent → ECULoop σ × List (ECUMessage × Int)
  | .call op =>
    let r := ecuCall layer ecu.node ecu.stack op
    (⟨r.node, ecu.timers, r.stack⟩, [])
  | .run time => ecuRun layer (getTickMs time) ecu

def ecuLoopMachine (getTickMs : ℕ → UInt32) : Machine (ECULoop σ) ECUEvent (List (ECUMessage × Int)) :=
  ⟨ecuLoopStep layer getTickMs⟩

end Loop

/-- The times of the passes. -/
def passTimes (events : List ECUEvent) : List ℕ := events.filterMap fun
  | .run time => some time
  | .call _ => none

def sends (m : ECUMessage) (sent : List (ECUMessage × Int)) : Bool := sent.any fun s => s.1 = m

/-- The times of the passes that try to send the message. -/
def sendTimes {σ : Type u} (m : ECUMessage)
    (past : List (Step (ECULoop σ) ECUEvent (List (ECUMessage × Int)))) : List ℕ :=
  passTimes ((past.filter fun e => sends m e.output).map (·.input))

section Pass
variable {σ : Type u} {layer : SocketLayer σ} {ecu : ECULoop σ} {currentTime : UInt32} {m m' : ECUMessage}

theorem sendWhenDue_same : sends m (sendWhenDue layer currentTime ecu m).2 =
      decide (m.intervalMs ≤ currentTime - ecu.timers.last m) ∧
    (sendWhenDue layer currentTime ecu m).1.timers.last m =
      if m.intervalMs ≤ currentTime - ecu.timers.last m then currentTime else ecu.timers.last m := by
  unfold sendWhenDue
  by_cases hdue : m.intervalMs ≤ currentTime - ecu.timers.last m
  · simp [sends, hdue, ECUTimers.last_setLast]
  · simp [sends, hdue]

theorem sendWhenDue_other (hne : m ≠ m') : sends m (sendWhenDue layer currentTime ecu m').2 = false ∧
    (sendWhenDue layer currentTime ecu m').1.timers.last m = ecu.timers.last m := by
  unfold sendWhenDue
  split
  · simp [sends, hne.symm, hne, ECUTimers.last_setLast]
  · simp [sends]

/-- A pass sends a message exactly when its interval is over, and takes the time of it then. -/
theorem ecuRun_message (layer : SocketLayer σ) (currentTime : UInt32) (ecu : ECULoop σ) (m : ECUMessage) :
    sends m (ecuRun layer currentTime ecu).2 = decide (m.intervalMs ≤ currentTime - ecu.timers.last m) ∧
      (ecuRun layer currentTime ecu).1.timers.last m =
        if m.intervalMs ≤ currentTime - ecu.timers.last m then currentTime else ecu.timers.last m := by
  have hsends : ∀ sent sent', sends m (sent ++ sent') = (sends m sent || sends m sent') :=
    fun _ _ => List.any_append
  dsimp only [ecuRun]
  rw [hsends]
  cases m with
  | heartbeat =>
    have hother := @sendWhenDue_other σ layer (sendWhenDue layer currentTime ecu .heartbeat).1 currentTime
      .heartbeat .vciInfo (by decide)
    rw [hother.1, hother.2, Bool.or_false]
    exact sendWhenDue_same
  | vciInfo =>
    have hother := @sendWhenDue_other σ layer ecu currentTime .vciInfo .heartbeat (by decide)
    rw [hother.1, Bool.false_or, ← hother.2]
    exact sendWhenDue_same

end Pass

/-! ## The messages of a run -/

section Run
variable {σ : Type u} {layer : SocketLayer σ} {ecu : ECULoop σ}

theorem passTimes_cons (event : ECUEvent) (events : List ECUEvent) :
    passTimes (event :: events) = passTimes [event] ++ passTimes events := by
  cases event <;> rfl

theorem sendTimes_cons {m : ECUMessage} {e : Step (ECULoop σ) ECUEvent (List (ECUMessage × Int))}
    {past : List (Step (ECULoop σ) ECUEvent (List (ECUMessage × Int)))} :
    sendTimes m (e :: past) = (if sends m e.output = true then passTimes [e.input] else []) ++ sendTimes m past := by
  rw [sendTimes, List.filter_cons]
  split
  · rw [List.map_cons, passTimes_cons]
    rfl
  · rfl

/-- The messages of a run are the firings of a timer that is polled by the passes. -/
theorem sendTimes_eq_fires {getTickMs : ℕ → UInt32} {m : ECUMessage} {last : ℕ}
    (hlast : ecu.timers.last m = getTickMs last) (events : List ECUEvent) :
    sendTimes m ((ecuLoopMachine layer getTickMs).trace ecu events) =
      fires (fun since now => decide (m.intervalMs ≤ getTickMs now - getTickMs since)) last (passTimes events) := by
  induction events generalizing ecu last with
  | nil => rfl
  | cons event events ih =>
    rw [Machine.trace_cons, passTimes_cons]
    cases event with
    | call op =>
      exact ih hlast
    | run time =>
      obtain ⟨hsent, htimer⟩ := ecuRun_message layer (getTickMs time) ecu m
      change sendTimes m (⟨ecu, .run time, (ecuRun layer (getTickMs time) ecu).2,
        (ecuRun layer (getTickMs time) ecu).1⟩ :: _) = fires _ last (time :: passTimes events)
      rw [sendTimes_cons, fires_cons, poll]
      by_cases hdue : m.intervalMs ≤ getTickMs time - getTickMs last
      · rw [hlast, if_pos hdue] at htimer
        rw [hlast, decide_eq_true hdue] at hsent
        rw [hsent, if_pos (decide_eq_true hdue), if_pos (decide_eq_true hdue)]
        exact congrArg (time :: ·) (ih htimer)
      · rw [hlast, if_neg hdue] at htimer
        rw [hlast, decide_eq_false hdue] at hsent
        rw [hsent, decide_eq_false hdue, if_neg Bool.false_ne_true, if_neg Bool.false_ne_true]
        exact ih htimer

end Run

end Mcus.Nodes
