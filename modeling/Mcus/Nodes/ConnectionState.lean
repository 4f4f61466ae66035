import Mcus.Foundations.Runs
import Mcus.Nodes.Node

/-! # What a node believes of its connection

`vmg_connected` and `zg_connected` repeat what the flags of the embedded client say. `ecu_stop` clears its
flag with the connection, `zg_stop` closes the connection and keeps the flag. Neither initialisation looks
at the result of `doip_client_init`, and a client whose address did not parse stores the handle 0.
-/

namespace Mcus.Nodes
open Doip Runs
set_option autoImplicit false

universe u

inductive ZGOp
  | start
  | stop
  | connectToVmg
  | sendHeartbeatToVmg
  deriving DecidableEq, Repr

inductive ECUOp
  | start
  | stop
  | connectToZg
  | discoverZoneGateway
  | sendHeartbeat
  deriving DecidableEq, Repr

section Machines
variable {σ : Type u} (layer : SocketLayer σ)

def zgCall (zg : ZonalGateway) (s : σ) : ZGOp → NodeCall ZonalGateway σ
  | .start => zgStart zg s
  | .stop => zgStop layer zg s
  | .connectToVmg => zgConnectToVmg layer zg s
  | .sendHeartbeatToVmg => zgSendHeartbeatToVmg layer zg s

def ecuCall (ecu : ECUNode) (s : σ) : ECUOp → NodeCall ECUNode σ
  | .start => ecuStart layer ecu s
  | .stop => ecuStop layer ecu s
  | .connectToZg => ecuConnectToZg layer ecu s
  | .discoverZoneGateway => ecuDiscoverZoneGateway layer ecu s
  | .sendHeartbeat => ecuSendHeartbeat layer ecu s

def zgMachine : Machine (ZonalGateway × σ) ZGOp Int where
  step c op :=
    (((zgCall layer c.1 c.2 op).node, (zgCall layer c.1 c.2 op).stack), (zgCall layer c.1 c.2 op).code)

def ecuMachine : Machine (ECUNode × σ) ECUOp Int where
  step c op :=
    (((ecuCall layer c.1 c.2 op).node, (ecuCall layer c.1 c.2 op).stack), (ecuCall layer c.1 c.2 op).code)

end Machines

/-- The node believes in a connection only if its client is connected and activated, and the client is
connected exactly when it has a socket. -/
structure ConnectionState (believed : Bool) (k : Connection) : Prop where
  backed : believed = true → k.isConnected = true ∧ k.routingActive = true
  socket : k.isConnected = true ↔ k.tcpSocket ≠ doipInvalidSocket

theorem connectionState_closed : ConnectionState false .closed :=
  ⟨(fun h => nomatch h), by decide⟩

/-- A node with a client that is not connected does not believe in a connection. -/
theorem ConnectionState.unbelieved {believed : Bool} {k : Connection} (h : ConnectionState believed k)
    (hoff : k.isConnected = false) : believed = false :=
  eq_false_of_ne_true fun hbelieved => absurd (h.backed hbelieved).1 (by simp [hoff])

section Clients
variable {σ : Type u} {layer : SocketLayer σ} {client : DoIPClientContext} {s : σ}

theorem attach_consistent (h : client.connection.Consistent) :
    (attach layer client s).client.connection.Consistent :=
  (doipClientRoutingActivation_effect 0x00).consistent (doipClientConnect_effect.consistent h)

theorem connectionState_activated (h : client.connection.Consistent) {sock : Int}
    (hconnection : (attach layer client s).client.connection =
      { client.connection with tcpSocket := sock, isConnected := true, routingActive := true }) :
    ConnectionState true (attach layer client s).client.connection :=
  ⟨fun _ => by simp [hconnection], (attach_consistent h).connected⟩

end Clients

/-! ## The zonal gateway -/

section Gateway
variable {σ : Type u} {layer : SocketLayer σ} {zg : ZonalGateway} {s : σ}

/-- The client of a stopped gateway is not connected. -/
theorem zgStop_off (layer : SocketLayer σ) (s : σ) (h : zg.vmgClient.connection.Consistent) :
    (zgStop layer zg s).node.vmgClient.connection.isConnected = false := by
  unfold zgStop
  split
  case isTrue => rfl
  case isFalse hnone =>
    refine eq_false_of_ne_true fun hconnected => hnone ?_
    exact h.valid (h.connected.mp hconnected)

theorem zgCall_consistent (h : zg.vmgClient.connection.Consistent) (op : ZGOp) :
    (zgCall layer zg s op).node.vmgClient.connection.Consistent := by
  cases op with
  | start => exact h
  | stop =>
    show (zgStop layer zg s).node.vmgClient.connection.Consistent
    unfold zgStop
    split
    case isTrue => exact Connection.consistent_closed
    case isFalse => exact h
  | connectToVmg =>
    show (zgConnectToVmg layer zg s).node.vmgClient.connection.Consistent
    cases attached layer zg.vmgClient s h with
    | unconnected _ hcode hsame =>
      rw [zgConnectToVmg_unconnected hcode]
      exact hsame ▸ h
    | unactivated _ _ hcode hfails _ =>
      rw [zgConnectToVmg_unactivated hcode hfails]
      exact attach_consistent h
    | activated _ _ hcode hsucceeds _ =>
      rw [zgConnectToVmg_activated hcode hsucceeds]
      exact attach_consistent h
  | sendHeartbeatToVmg =>
    show (zgSendHeartbeatToVmg layer zg s).node.vmgClient.connection.Consistent
    unfold zgSendHeartbeatToVmg
    split
    case isTrue => exact h
    case isFalse => exact (sendDiagnostic_connection layer zg.vmgClient s heartbeat 256) ▸ h

theorem zgCall_state_iff (h : zg.vmgClient.connection.Consistent)
    (hstate : ConnectionState zg.vmgConnected zg.vmgClient.connection) (op : ZGOp) :
    ConnectionState (zgCall layer zg s op).node.vmgConnected (zgCall layer zg s op).node.vmgClient.connection ↔
      (op = .stop → zg.vmgConnected = false) := by
  cases op with
  | start => exact iff_of_true hstate fun hstop => nomatch hstop
  | stop =>
    have hoff := zgStop_off layer s h
    have hflag : (zgStop layer zg s).node.vmgConnected = zg.vmgConnected := by
      unfold zgStop
      split <;> rfl
    show ConnectionState (zgStop layer zg s).node.vmgConnected _ ↔ _
    rw [hflag]
    constructor
    · exact fun hafter _ => hafter.unbelieved hoff
    · intro hflag
      exact ⟨fun hbelieved => absurd hbelieved (by simp [hflag rfl]), (zgCall_consistent h .stop).connected⟩
  | connectToVmg =>
    refine iff_of_true ?_ fun hstop => nomatch hstop
    show ConnectionState (zgConnectToVmg layer zg s).node.vmgConnected
      (zgConnectToVmg layer zg s).node.vmgClient.connection
    cases attached layer zg.vmgClient s h with
    | unconnected _ hcode hsame =>
      rw [zgConnectToVmg_unconnected hcode]
      exact hsame ▸ hstate
    | unactivated hoff _ hcode hfails _ =>
      rw [zgConnectToVmg_unactivated hcode hfails]
      exact ⟨fun hbelieved => absurd hbelieved (by simp [hstate.unbelieved hoff]), (attach_consistent h).connected⟩
    | activated _ _ hcode hsucceeds hconnection =>
      rw [zgConnectToVmg_activated hcode hsucceeds]
      exact connectionState_activated h hconnection
  | sendHeartbeatToVmg =>
    refine iff_of_true ?_ fun hstop => nomatch hstop
    show ConnectionState (zgSendHeartbeatToVmg layer zg s).node.vmgConnected
      (zgSendHeartbeatToVmg layer zg s).node.vmgClient.connection
    unfold zgSendHeartbeatToVmg
    split
    case isTrue => exact hstate
    case isFalse => exact (sendDiagnostic_connection layer zg.vmgClient s heartbeat 256) ▸ hstate

end Gateway

/-! ## The end node -/

section EndNode
variable {σ : Type u} {layer : SocketLayer σ} {ecu : ECUNode} {s : σ}

theorem ecuConnectToZg_state (layer : SocketLayer σ) (s : σ) (h : ecu.zgClient.connection.Consistent)
    (hstate : ConnectionState ecu.zgConnected ecu.zgClient.connection) :
    (ecuConnectToZg layer ecu s).node.zgClient.connection.Consistent ∧
      ConnectionState (ecuConnectToZg layer ecu s).node.zgConnected
        (ecuConnectToZg layer ecu s).node.zgClient.connection := by
  cases attached layer ecu.zgClient s h with
  | unconnected _ hcode hsame =>
    rw [ecuConnectToZg_unconnected hcode]
    exact ⟨hsame ▸ h, hsame ▸ hstate⟩
  | unactivated hoff _ hcode hfails _ =>
    rw [ecuConnectToZg_unactivated hcode hfails]
    exact ⟨Connection.consistent_closed, (hstate.unbelieved hoff) ▸ connectionState_closed⟩
  | activated _ _ hcode hsucceeds hconnection =>
    rw [ecuConnectToZg_activated hcode hsucceeds]
    exact ⟨attach_consistent h, connectionState_activated h hconnection⟩

/-- Every call of the end node keeps the state. -/
theorem ecuCall_state (h : ecu.zgClient.connection.Consistent)
    (hstate : ConnectionState ecu.zgConnected ecu.zgClient.connection) (op : ECUOp) :
    (ecuCall layer ecu s op).node.zgClient.connection.Consistent ∧
      ConnectionState (ecuCall layer ecu s op).node.zgConnected
        (ecuCall layer ecu s op).node.zgClient.connection := by
  cases op with
  | start =>
    have hconnect := ecuConnectToZg_state layer s h hstate
    show (ecuStart layer ecu s).node.zgClient.connection.Consistent ∧
      ConnectionState (ecuStart layer ecu s).node.zgConnected (ecuStart layer ecu s).node.zgClient.connection
    unfold ecuStart
    dsimp only
    split <;> exact hconnect
  | stop =>
    show (ecuStop layer ecu s).node.zgClient.connection.Consistent ∧
      ConnectionState (ecuStop layer ecu s).node.zgConnected (ecuStop layer ecu s).node.zgClient.connection
    unfold ecuStop
    split
    case isTrue => exact ⟨Connection.consistent_closed, connectionState_closed⟩
    case isFalse => exact ⟨h, hstate⟩
  | connectToZg => exact ecuConnectToZg_state layer s h hstate
  | discoverZoneGateway =>
    obtain ⟨sock, hconnection⟩ := doipClientVehicleIdentification_connection layer ecu.zgClient s
    show (doipClientVehicleIdentification layer ecu.zgClient s).client.connection.Consistent ∧
      ConnectionState ecu.zgConnected (doipClientVehicleIdentification layer ecu.zgClient s).client.connection
    rw [hconnection]
    exact ⟨⟨h.connected, h.active, h.valid⟩, ⟨hstate.backed, hstate.socket⟩⟩
  | sendHeartbeat =>
    show (ecuSendHeartbeat layer ecu s).node.zgClient.connection.Consistent ∧ ConnectionState
      (ecuSendHeartbeat layer ecu s).node.zgConnected (ecuSendHeartbeat layer ecu s).node.zgClient.connection
    unfold ecuSendHeartbeat
    split
    case isTrue => exact ⟨h, hstate⟩
    case isFalse =>
      have hsame := sendDiagnostic_connection layer ecu.zgClient s heartbeat 256
      exact ⟨hsame ▸ h, hsame ▸ hstate⟩

end EndNode

/-! ## Whole runs -/

section Init
variable {inetPton : String → Option UInt32} {serverIp : String}

theorem doipClientInit_parsed (hparsed : (inetPton serverIp).isSome)
    (serverPort sourceAddress targetAddress : UInt16) :
    (doipClientInit inetPton serverIp serverPort sourceAddress targetAddress).1.connection = .closed := by
  obtain ⟨ip, hip⟩ := Option.isSome_iff_exists.mp hparsed
  rw [doipClientInit, hip]
  rfl

/-- A client whose address did not parse is not connected and stores the handle 0. -/
theorem doipClientInit_unparsed (hparsed : ¬ (inetPton serverIp).isSome)
    (serverPort sourceAddress targetAddress : UInt16) (believed : Bool) : ¬ ConnectionState believed
      (doipClientInit inetPton serverIp serverPort sourceAddress targetAddress).1.connection := by
  have hzero : (doipClientInit inetPton serverIp serverPort sourceAddress targetAddress).1 = .zero := by
    rw [doipClientInit, Option.not_isSome_iff_eq_none.mp hparsed]
  rw [hzero]
  intro hstate
  exact absurd (hstate.socket.mpr (by decide)) (by decide)

end Init

section Runs
variable {σ : Type u} (layer : SocketLayer σ) (s : σ) (inetPton : String → Option UInt32)

/-- What is claimed of the gateway behind the calls so far. -/
def ZGStateAt (zg : ZonalGateway) (ops : List ZGOp) : Prop :=
  ConnectionState ((zgMachine layer).run (zg, s) ops).1.vmgConnected
    ((zgMachine layer).run (zg, s) ops).1.vmgClient.connection

def ECUStateAt (ecu : ECUNode) (ops : List ECUOp) : Prop :=
  ConnectionState ((ecuMachine layer).run (ecu, s) ops).1.zgConnected
    ((ecuMachine layer).run (ecu, s) ops).1.zgClient.connection

/-- The gateway is not stopped while it believes in a connection. -/
def NotStoppedConnected (_ : List (Step (ZonalGateway × σ) ZGOp Int)) (c : ZonalGateway × σ) (op : ZGOp) : Prop :=
  op = .stop → c.1.vmgConnected = false

variable {layer s inetPton}

theorem zg_consistent_run {zg : ZonalGateway} (hclosed : zg.vmgClient.connection = .closed) (ops : List ZGOp) :
    ((zgMachine layer).run (zg, s) ops).1.vmgClient.connection.Consistent :=
  Machine.induction (M := zgMachine layer) (P := fun _ c => c.1.vmgClient.connection.Consistent)
    (hclosed ▸ Connection.consistent_closed) (fun _ _ op h => zgCall_consistent h op) ops

theorem zg_state_iff (zoneId : UInt8) (vmgIp : String) (vmgPort : UInt16) (ops : List ZGOp) :
    (∀ past, past <+: ops → ZGStateAt layer s (zgInit inetPton zoneId vmgIp vmgPort).1 past) ↔
      (inetPton vmgIp).isSome ∧ (zgMachine layer).Admits NotStoppedConnected
        ((zgInit inetPton zoneId vmgIp vmgPort).1, s) ops := by
  by_cases hparsed : (inetPton vmgIp).isSome
  · have hclosed := doipClientInit_parsed hparsed vmgPort (0x0200 + zoneId.toUInt16) 0x0100
    rw [and_iff_right hparsed]
    refine Machine.admits_iff_forall_prefix ?_ fun past op rest _ _ hpast => ?_
    · show ConnectionState false (doipClientInit inetPton vmgIp vmgPort _ 0x0100).1.connection
      rw [hclosed]
      exact connectionState_closed
    · unfold ZGStateAt
      rw [Machine.run_concat]
      exact zgCall_state_iff (zg_consistent_run hclosed past) hpast op
  · refine iff_of_false (fun hall => ?_) fun h => hparsed h.1
    exact doipClientInit_unparsed hparsed vmgPort (0x0200 + zoneId.toUInt16) 0x0100 false
      (hall [] List.nil_prefix)

theorem ecu_state_run {ecu : ECUNode} (hclosed : ecu.zgClient.connection = .closed)
    (hflag : ecu.zgConnected = false) (ops : List ECUOp) :
    ((ecuMachine layer).run (ecu, s) ops).1.zgClient.connection.Consistent ∧ ECUStateAt layer s ecu ops := by
  refine Machine.induction (M := ecuMachine layer) (s := (ecu, s))
    (P := fun _ c => c.1.zgClient.connection.Consistent ∧ ConnectionState c.1.zgConnected c.1.zgClient.connection)
    ?_ (fun _ c op h => ecuCall_state h.1 h.2 op) ops
  rw [hclosed, hflag]
  exact ⟨Connection.consistent_closed, connectionState_closed⟩

theorem ecu_state_iff (logicalAddr : UInt16) (zgIp : String) (zgPort : UInt16) (ops : List ECUOp) :
    (∀ past, past <+: ops → ECUStateAt layer s (ecuInit inetPton logicalAddr zgIp zgPort).1 past) ↔
      (inetPton zgIp).isSome := by
  constructor
  · intro hall
    by_contra hparsed
    exact doipClientInit_unparsed hparsed zgPort logicalAddr 0x0200 false (hall [] List.nil_prefix)
  · intro hparsed past _
    exact (ecu_state_run (doipClientInit_parsed hparsed zgPort logicalAddr 0x0200) rfl past).2

end Runs

/-- **Connection state of the nodes.** An end node whose gateway address parses is in order in every
state of every run. So is a zonal gateway whose address parses, exactly as long as it is not stopped while
it believes in a connection. -/
theorem nodes_connection_state_iff {σ : Type u} (layer : SocketLayer σ) (s : σ)
    (inetPton : String → Option UInt32) (serverIp : String) (serverPort : UInt16) :
    (∀ zoneId ops, (∀ past, past <+: ops →
        ZGStateAt layer s (zgInit inetPton zoneId serverIp serverPort).1 past) ↔
      (inetPton serverIp).isSome ∧ (zgMachine layer).Admits NotStoppedConnected
        ((zgInit inetPton zoneId serverIp serverPort).1, s) ops) ∧
    (∀ logicalAddr ops, (∀ past, past <+: ops →
        ECUStateAt layer s (ecuInit inetPton logicalAddr serverIp serverPort).1 past) ↔
      (inetPton serverIp).isSome) :=
  ⟨fun zoneId ops => zg_state_iff zoneId serverIp serverPort ops,
    fun logicalAddr ops => ecu_state_iff logicalAddr serverIp serverPort ops⟩

/-- A gateway of zone 1 that was connected and stopped. -/
theorem stopped_gateway_believes :
    ¬ ∀ past, past <+: [ZGOp.connectToVmg, .stop] → ZGStateAt grantingLayer ()
      (zgInit (fun _ => some 0xC0A80101) 1 "192.168.1.1" 13400).1 past := by
  intro hall
  have hunbelieved := ((zg_state_iff 1 "192.168.1.1" 13400 _).mp hall).2 [.connectToVmg] .stop [] rfl rfl
  obtain ⟨hcode, hsucceeds⟩ := attach_of_grants rfl
    (grantingLayer_grants (zgInit (fun _ => some 0xC0A80101) 1 "192.168.1.1" 13400).1.vmgClient)
  have hbelieved := congrArg (·.node.vmgConnected) (zgConnectToVmg_activated hcode hsucceeds)
  exact absurd (hbelieved.symm.trans hunbelieved) (by decide)

end Mcus.Nodes
