import Mcus.Nodes.Node

/-! # Connecting again after a failure

`doip_client_connect` refuses a client that is connected. `ecu_connect_to_zg` disconnects when the routing
activation behind the connection fails; `zg_connect_to_vmg` returns with the connection open, and no later
attempt gets past its first step.
-/

namespace Mcus.Nodes
open Doip Runs
set_option autoImplicit false

universe u

/-- A run of client calls leads to the client from a successful initialisation. -/
def Reached {σ : Type u} (layer : SocketLayer σ) (client : DoIPClientContext) : Prop :=
  ∃ (inetPton : String → Option UInt32) (serverIp : String) (serverPort source target : UInt16)
    (first : DoIPClientContext) (s : σ) (ops : List ClientOp),
    doipClientInit inetPton serverIp serverPort source target = (first, 0) ∧
      ((connectionMachine layer).run (first, s) ops).1 = client

/-- The client is disconnected, without a stream socket and not activated, and an attempt that the socket
layer and the server grant connects it. -/
structure Retryable {σ : Type u} (layer : SocketLayer σ) (client : DoIPClientContext) (attempt : σ → Int) :
    Prop where
  disconnected : client.isConnected = false
  socket : client.tcpSocket = doipInvalidSocket
  inactive : client.routingActive = false
  again : ∀ s, Grants layer client s → attempt s = 0

section Attempts
variable {σ : Type u} {layer : SocketLayer σ} {client : DoIPClientContext} {zg : ZonalGateway} {ecu : ECUNode}
  {s : σ}

theorem Reached.consistent (hreached : Reached layer client) : client.connection.Consistent := by
  obtain ⟨_, _, _, _, _, first, s, ops, hinit, rfl⟩ := hreached
  exact consistent_run (doipClientInit_connection hinit) s ops

theorem zgConnectToVmg_of_grants (hoff : zg.vmgClient.isConnected = false)
    (hgrants : Grants layer zg.vmgClient s) : (zgConnectToVmg layer zg s).code = 0 := by
  obtain ⟨hcode, hsucceeds⟩ := attach_of_grants hoff hgrants
  rw [zgConnectToVmg_activated hcode hsucceeds]

theorem ecuConnectToZg_of_grants (hoff : ecu.zgClient.isConnected = false)
    (hgrants : Grants layer ecu.zgClient s) : (ecuConnectToZg layer ecu s).code = 0 := by
  obtain ⟨hcode, hsucceeds⟩ := attach_of_grants hoff hgrants
  rw [ecuConnectToZg_activated hcode hsucceeds]

/-- A disconnected client without socket and activation, in a node that connects when it is granted. -/
theorem retryable_of_off {attempt : σ → Int} (h : client.connection.Consistent)
    (hoff : client.isConnected = false) (hagain : ∀ s, Grants layer client s → attempt s = 0) :
    Retryable layer client attempt :=
  ⟨hoff, (h.off hoff).1, (h.off hoff).2, hagain⟩

theorem zg_retryable_iff (h : zg.vmgClient.connection.Consistent) (hoff : zg.vmgClient.isConnected = false)
    (hfails : (zgConnectToVmg layer zg s).code ≠ 0) :
    Retryable layer (zgConnectToVmg layer zg s).node.vmgClient
        (fun s' => (zgConnectToVmg layer (zgConnectToVmg layer zg s).node s').code) ↔
      ¬ Connects layer zg.vmgClient s := by
  cases attached layer zg.vmgClient s h with
  | unconnected hnot hcode hsame =>
    have hclient : (zgConnectToVmg layer zg s).node.vmgClient.connection = zg.vmgClient.connection := by
      rw [zgConnectToVmg_unconnected hcode]
      exact hsame
    have hoff' : (zgConnectToVmg layer zg s).node.vmgClient.isConnected = false :=
      (congrArg Connection.isConnected hclient).trans hoff
    refine iff_of_true ?_ (hnot.resolve_left (by simp [hoff]))
    exact retryable_of_off (hclient ▸ h) hoff' fun _ => zgConnectToVmg_of_grants hoff'
  | unactivated _ hconnects hcode hfails hconnection =>
    refine iff_of_false (fun hretry => ?_) (not_not.mpr hconnects)
    have hon := congrArg Connection.isConnected hconnection
    rw [zgConnectToVmg_unactivated hcode hfails] at hretry
    exact Bool.false_ne_true (hretry.disconnected.symm.trans hon)
  | activated _ _ hcode hsucceeds _ =>
    rw [zgConnectToVmg_activated hcode hsucceeds] at hfails
    exact absurd rfl hfails

theorem ecu_retryable (h : ecu.zgClient.connection.Consistent) (hoff : ecu.zgClient.isConnected = false)
    (hfails : (ecuConnectToZg layer ecu s).code ≠ 0) :
    Retryable layer (ecuConnectToZg layer ecu s).node.zgClient
      (fun s' => (ecuConnectToZg layer (ecuConnectToZg layer ecu s).node s').code) := by
  have hconsistent : (ecuConnectToZg layer ecu s).node.zgClient.connection.Consistent ∧
      (ecuConnectToZg layer ecu s).node.zgClient.isConnected = false := by
    cases attached layer ecu.zgClient s h with
    | unconnected _ hcode hsame =>
      rw [ecuConnectToZg_unconnected hcode]
      exact ⟨hsame ▸ h, (congrArg Connection.isConnected hsame).trans hoff⟩
    | unactivated _ _ hcode hfails _ =>
      rw [ecuConnectToZg_unactivated hcode hfails]
      exact ⟨Connection.consistent_closed, rfl⟩
    | activated _ _ hcode hsucceeds _ =>
      rw [ecuConnectToZg_activated hcode hsucceeds] at hfails
      exact absurd rfl hfails
  exact retryable_of_off hconsistent.1 hconsistent.2 fun _ => ecuConnectToZg_of_grants hconsistent.2

end Attempts

/-- **Retry.** A failed attempt of the end node can always be repeated; one of the gateway exactly if it
failed before its socket was connected. -/
theorem failed_attempt_retryable_iff {σ : Type u} (layer : SocketLayer σ) (s : σ) (zg : ZonalGateway)
    (ecu : ECUNode) (hzg : Reached layer zg.vmgClient) (hecu : Reached layer ecu.zgClient)
    (hzgOff : zg.vmgClient.isConnected = false) (hecuOff : ecu.zgClient.isConnected = false) :
    ((zgConnectToVmg layer zg s).code ≠ 0 →
      (Retryable layer (zgConnectToVmg layer zg s).node.vmgClient
          (fun s' => (zgConnectToVmg layer (zgConnectToVmg layer zg s).node s').code) ↔
        ¬ Connects layer zg.vmgClient s)) ∧
    ((ecuConnectToZg layer ecu s).code ≠ 0 →
      Retryable layer (ecuConnectToZg layer ecu s).node.zgClient
        (fun s' => (ecuConnectToZg layer (ecuConnectToZg layer ecu s).node s').code)) :=
  ⟨zg_retryable_iff hzg.consistent hzgOff, ecu_retryable hecu.consistent hecuOff⟩

/-! ## A server that does not answer -/

def freshGateway : ZonalGateway := (zgInit (fun _ => some 0xC0A80101) 1 "192.168.1.1" 13400).1

def freshNode : ECUNode := (ecuInit (fun _ => some 0xC0A80101) 0x0301 "192.168.1.1" 13400).1

theorem freshGateway_reached : Reached silentLayer freshGateway.vmgClient :=
  ⟨fun _ => some 0xC0A80101, "192.168.1.1", 13400, 0x0201, 0x0100, freshGateway.vmgClient, (), [], rfl, rfl⟩

theorem freshNode_reached : Reached silentLayer freshNode.zgClient :=
  ⟨fun _ => some 0xC0A80101, "192.168.1.1", 13400, 0x0301, 0x0200, freshNode.zgClient, (), [], rfl, rfl⟩

theorem failed_attempt_retryable_silent :
    ¬ Retryable silentLayer (zgConnectToVmg silentLayer freshGateway ()).node.vmgClient
        (fun s' => (zgConnectToVmg silentLayer (zgConnectToVmg silentLayer freshGateway ()).node s').code) ∧
      Retryable silentLayer (ecuConnectToZg silentLayer freshNode ()).node.zgClient
        (fun s' => (ecuConnectToZg silentLayer (ecuConnectToZg silentLayer freshNode ()).node s').code) := by
  have hretry := failed_attempt_retryable_iff silentLayer () freshGateway freshNode freshGateway_reached
    freshNode_reached rfl rfl
  have hconnects : Connects silentLayer freshGateway.vmgClient () := ⟨by decide, by decide⟩
  exact ⟨fun h => (hretry.1 (by decide)).mp h hconnects, hretry.2 (by decide)⟩

/-- The routing activation of a gateway is not answered in time. -/
theorem unanswered_activation_blocks : ¬ ∀ zg : ZonalGateway, Reached silentLayer zg.vmgClient →
    zg.vmgClient.isConnected = false → (zgConnectToVmg silentLayer zg ()).code ≠ 0 →
      Retryable silentLayer (zgConnectToVmg silentLayer zg ()).node.vmgClient
        (fun s' => (zgConnectToVmg silentLayer (zgConnectToVmg silentLayer zg ()).node s').code) := by
  intro hall
  have hretry := hall freshGateway freshGateway_reached rfl (by decide)
  exact Bool.false_ne_true (hretry.disconnected.symm.trans (by decide))

end Mcus.Nodes
