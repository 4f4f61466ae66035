import Mathlib.Logic.Function.Basic
import Mcus.Doip.Server

/-! # Client sessions of the DoIP server

The message handlers of `doip_server.cpp`, from a message that was parsed to the messages sent back.
Every TCP connection has a `DoIPClientSession`; the registered UDS handler is one for all of them, and
a mutex lets them use it in turns, so messages of several clients are taken one at a time. The handler
is a parameter with a state of its own, and with an argument for whatever else it reads.
-/

namespace Mcus.Doip
open ByteOrder Runs
set_option autoImplicit false

universe u v w

structure DoIPClientSession where
  routingActive : Bool
  sourceAddress : UInt16
  deriving DecidableEq

def DoIPClientSession.init : DoIPClientSession := ⟨false, 0⟩

/-- `UDSHandler`, with its state and its surroundings. -/
abbrev UDSHandler (σ : Type u) (ρ : Type v) := σ → ρ → List UInt8 → σ × List UInt8

structure DoIPServer (ι : Type w) (σ : Type u) where
  sessions : ι → DoIPClientSession
  uds : σ

/-- A message of the client `client`, and what the UDS handler finds when it is called. -/
structure Incoming (ι : Type w) (ρ : Type v) where
  client : ι
  msg : DoIPMessage
  surroundings : ρ

/-- The messages sent to the client, in order, and the requests given to the UDS handler. -/
structure Handled where
  sent : List DoIPMessage
  udsRequests : List (List UInt8)

/-- The address fields of a diagnostic message. -/
def DoIPMessage.source (msg : DoIPMessage) : UInt16 :=
  word16 (msg.payloadData.getD 0 0) (msg.payloadData.getD 1 0)

def DoIPMessage.target (msg : DoIPMessage) : UInt16 :=
  word16 (msg.payloadData.getD 2 0) (msg.payloadData.getD 3 0)

section Handlers
variable {ι : Type w} {σ : Type u} {ρ : Type v} (logicalAddress : UInt16)
  (udsHandler : Option (UDSHandler σ ρ))

def handleRoutingActivationReq (msg : DoIPMessage) (session : DoIPClientSession) :
    DoIPClientSession × DoIPMessage :=
  if msg.payloadData.length < 7 then (session, doIPMessage routingActivationRes [])
  else
    (⟨true, msg.source⟩, doIPMessage routingActivationRes
      (beBytes16 msg.source ++ beBytes16 logicalAddress ++ [0x10] ++ List.replicate 4 0x00))

/-- The call of the registered handler, or the echo that stands in for it. -/
def processUds (s : σ) (surroundings : ρ) (request : List UInt8) : σ × List UInt8 :=
  match udsHandler, request with
  | some handler, request => handler s surroundings request
  | none, [] => (s, [])
  | none, sid :: rest => (s, (sid + 0x40) :: rest)

/-- The session is not looked at. -/
def handleDiagnosticMessage (msg : DoIPMessage) (s : σ) (surroundings : ρ) : σ × Handled :=
  if msg.payloadData.length < 4 then (s, ⟨[doIPMessage diagnosticMessageNegAck []], []⟩)
  else
    let udsRequest := msg.payloadData.drop 4
    let ack := doIPMessage diagnosticMessagePosAck (beBytes16 msg.source ++ beBytes16 msg.target ++ [0x00])
    let (s, udsResponse) := processUds udsHandler s surroundings udsRequest
    (s, ⟨[ack, doIPMessage diagnosticMessage (beBytes16 msg.target ++ beBytes16 msg.source ++ udsResponse)],
      [udsRequest]⟩)

def handleAliveCheckReq (msg : DoIPMessage) : DoIPMessage :=
  if msg.payloadData.length < 2 then doIPMessage aliveCheckRes []
  else doIPMessage aliveCheckRes msg.payloadData

def handleTCPMessage (msg : DoIPMessage) (session : DoIPClientSession) (s : σ) (surroundings : ρ) :
    DoIPClientSession × σ × Handled :=
  if msg.header.payloadType = routingActivationReq then
    let (session, response) := handleRoutingActivationReq logicalAddress msg session
    (session, s, ⟨[response], []⟩)
  else if msg.header.payloadType = diagnosticMessage then
    (session, handleDiagnosticMessage udsHandler msg s surroundings)
  else if msg.header.payloadType = aliveCheckReq then (session, s, ⟨[handleAliveCheckReq msg], []⟩)
  else (session, s, ⟨[], []⟩)

variable [DecidableEq ι]

/-- Messages of any number of clients, one at a time. -/
def serverMachine : Machine (DoIPServer ι σ) (Incoming ι ρ) Handled where
  step server i :=
    let r := handleTCPMessage logicalAddress udsHandler i.msg (server.sessions i.client) server.uds
      i.surroundings
    (⟨Function.update server.sessions i.client r.1, r.2.1⟩, r.2.2)

end Handlers

def DoIPServer.init {ι : Type w} {σ : Type u} (uds : σ) : DoIPServer ι σ := ⟨fun _ => .init, uds⟩

/-! ## What a message does to a session -/

section Step
variable {ι : Type w} {σ : Type u} {ρ : Type v} [DecidableEq ι] {logicalAddress : UInt16}
  {udsHandler : Option (UDSHandler σ ρ)} {server : DoIPServer ι σ} {i : Incoming ι ρ}

/-- The message is an activation request that is accepted. -/
def Activates (msg : DoIPMessage) : Prop :=
  msg.header.payloadType = routingActivationReq ∧ 7 ≤ msg.payloadData.length

instance (msg : DoIPMessage) : Decidable (Activates msg) := inferInstanceAs (Decidable (_ ∧ _))

theorem sessions_step (client : ι) :
    ((serverMachine logicalAddress udsHandler).step server i).1.sessions client =
      if client = i.client ∧ Activates i.msg then ⟨true, i.msg.source⟩ else server.sessions client := by
  have hsession : (handleTCPMessage logicalAddress udsHandler i.msg (server.sessions i.client) server.uds
      i.surroundings).1 = if Activates i.msg then ⟨true, i.msg.source⟩ else server.sessions i.client := by
    unfold handleTCPMessage handleRoutingActivationReq Activates
    by_cases htype : i.msg.header.payloadType = routingActivationReq
    · by_cases hlen : i.msg.payloadData.length < 7
      · simp [htype, hlen]
      · simp [htype, hlen, Nat.le_of_not_lt hlen]
    · simp only [htype, if_false, false_and]
      split
      case isTrue => rfl
      case isFalse => split <;> rfl
  by_cases hclient : client = i.client
  · subst hclient
    simp only [serverMachine, Function.update_self, hsession, true_and]
  · simp only [serverMachine, Function.update_of_ne hclient, hclient, false_and, if_false]

/-- A diagnostic message is given to its handler, whatever the session. -/
theorem step_of_diagnostic (htype : i.msg.header.payloadType = diagnosticMessage) :
    ((serverMachine logicalAddress udsHandler).step server i).1.uds =
        (handleDiagnosticMessage udsHandler i.msg server.uds i.surroundings).1 ∧
      ((serverMachine logicalAddress udsHandler).step server i).2 =
        (handleDiagnosticMessage udsHandler i.msg server.uds i.surroundings).2 := by
  have hnot : diagnosticMessage ≠ routingActivationReq := by decide
  simp only [serverMachine, handleTCPMessage, htype, hnot, if_false, if_true, and_self]

end Step
end Mcus.Doip
