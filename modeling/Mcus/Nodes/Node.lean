import Mcus.Doip.ClientResources

/-! # The zonal gateway and the end node as DoIP clients

`zonal_gateway.c` and `ecu_node.c`: the calls that start, stop, connect and use the embedded client.
Identity strings, the zone table, the UDS handler, the timers and the console are left out; `zg_init`
and `ecu_init` return 0 whatever `doip_client_init` returns.
-/

namespace Mcus.Nodes
open Doip ByteOrder
set_option autoImplicit false

universe u

inductive ZGState
  | init
  | discovering
  | connectingVmg
  | ready
  | otaInProgress
  | error
  deriving DecidableEq, Repr

inductive ECUState
  | init
  | discovering
  | connecting
  | ready
  | otaInProgress
  | error
  deriving DecidableEq, Repr

structure ZonalGateway where
  zoneId : UInt8
  logicalAddress : UInt16
  state : ZGState
  vmgClient : DoIPClientContext
  vmgConnected : Bool

structure ECUNode where
  logicalAddress : UInt16
  zgClient : DoIPClientContext
  zgConnected : Bool
  state : ECUState

/-- A call that ended: its return value, 0 for none. -/
structure NodeCall (ν : Type) (σ : Type u) where
  node : ν
  stack : σ
  code : Int

def zgInit (inetPton : String → Option UInt32) (zoneId : UInt8) (vmgIp : String) (vmgPort : UInt16) :
    ZonalGateway × Int :=
  let logicalAddress := 0x0200 + zoneId.toUInt16
  (⟨zoneId, logicalAddress, .init, (doipClientInit inetPton vmgIp vmgPort logicalAddress 0x0100).1, false⟩, 0)

def ecuInit (inetPton : String → Option UInt32) (logicalAddr : UInt16) (zgIp : String) (zgPort : UInt16) :
    ECUNode × Int :=
  (⟨logicalAddr, (doipClientInit inetPton zgIp zgPort logicalAddr 0x0200).1, false, .init⟩, 0)

/-- Tester Present. -/
def heartbeat : List UInt8 := [0x3E, 0x00]

section Calls
variable {σ : Type u} (layer : SocketLayer σ) (zg : ZonalGateway) (ecu : ECUNode) (s : σ)

def zgStart : NodeCall ZonalGateway σ := ⟨{ zg with state := .ready }, s, 0⟩

def zgStop : NodeCall ZonalGateway σ :=
  if 0 ≤ zg.vmgClient.tcpSocket then
    let r := doipClientDisconnect layer zg.vmgClient s
    ⟨{ zg with vmgClient := r.client, state := .init }, r.stack, 0⟩
  else ⟨{ zg with state := .init }, s, 0⟩

def zgConnectToVmg : NodeCall ZonalGateway σ :=
  let r := doipClientConnect layer zg.vmgClient s
  if r.code ≠ 0 then ⟨{ zg with vmgClient := r.client }, r.stack, -1⟩
  else
    let r := doipClientRoutingActivation layer r.client r.stack 0x00
    if r.code ≠ 0 then ⟨{ zg with vmgClient := r.client }, r.stack, -1⟩
    else ⟨{ zg with vmgClient := r.client, vmgConnected := true }, r.stack, 0⟩

def zgSendHeartbeatToVmg : NodeCall ZonalGateway σ :=
  if !zg.vmgConnected then ⟨zg, s, -1⟩
  else
    let r := sendDiagnostic layer zg.vmgClient s heartbeat 256
    ⟨{ zg with vmgClient := r.client }, r.stack, r.code⟩

def ecuConnectToZg : NodeCall ECUNode σ :=
  let r := doipClientConnect layer ecu.zgClient s
  if r.code ≠ 0 then ⟨{ ecu with zgClient := r.client }, r.stack, -1⟩
  else
    let r := doipClientRoutingActivation layer r.client r.stack 0x00
    if r.code ≠ 0 then
      let r := doipClientDisconnect layer r.client r.stack
      ⟨{ ecu with zgClient := r.client }, r.stack, -1⟩
    else ⟨{ ecu with zgClient := r.client, zgConnected := true }, r.stack, 0⟩

def ecuStart : NodeCall ECUNode σ :=
  let r := ecuConnectToZg layer ecu s
  if r.code ≠ 0 then ⟨r.node, r.stack, -1⟩ else ⟨{ r.node with state := .ready }, r.stack, 0⟩

def ecuStop : NodeCall ECUNode σ :=
  if ecu.zgConnected then
    let r := doipClientDisconnect layer ecu.zgClient s
    ⟨{ ecu with zgClient := r.client, zgConnected := false, state := .init }, r.stack, 0⟩
  else ⟨{ ecu with state := .init }, s, 0⟩

def ecuDiscoverZoneGateway : NodeCall ECUNode σ :=
  let r := doipClientVehicleIdentification layer ecu.zgClient s
  ⟨{ ecu with zgClient := r.client }, r.stack, if r.code = 0 then 0 else -1⟩

def ecuSendHeartbeat : NodeCall ECUNode σ :=
  if !ecu.zgConnected then ⟨ecu, s, -1⟩
  else
    let r := sendDiagnostic layer ecu.zgClient s heartbeat 256
    ⟨{ ecu with zgClient := r.client }, r.stack, r.code⟩

end Calls

/-! ## Connecting -/

section Connecting
variable {σ : Type u} (layer : SocketLayer σ) (client : DoIPClientContext) (s : σ)

/-- The routing activation behind the connection. -/
abbrev attach : ClientCall σ :=
  doipClientRoutingActivation layer (doipClientConnect layer client s).client
    (doipClientConnect layer client s).stack 0x00

/-- How far the two calls came that a node makes to connect its client. -/
inductive Attached : Prop
  | unconnected (hfails : client.isConnected = true ∨ ¬ Connects layer client s)
      (hcode : (doipClientConnect layer client s).code = -1)
      (hsame : (doipClientConnect layer client s).client.connection = client.connection)
  | unactivated (hoff : client.isConnected = false) (hconnects : Connects layer client s)
      (hcode : (doipClientConnect layer client s).code = 0) (hfails : (attach layer client s).code = -1)
      (hconnection : (attach layer client s).client.connection = { client.connection with
        tcpSocket := (doipSocketTcpCreate layer s).2, isConnected := true })
  | activated (hoff : client.isConnected = false) (hconnects : Connects layer client s)
      (hcode : (doipClientConnect layer client s).code = 0) (hsucceeds : (attach layer client s).code = 0)
      (hconnection : (attach layer client s).client.connection = { client.connection with
        tcpSocket := (doipSocketTcpCreate layer s).2, isConnected := true, routingActive := true })

theorem attached (hconsistent : client.connection.Consistent) : Attached layer client s := by
  by_cases hconnects : client.isConnected = false ∧ Connects layer client s
  · obtain ⟨hoff, hconnects⟩ := hconnects
    have hconnect := doipClientConnect_of_connects hoff hconnects
    have hcode : (doipClientConnect layer client s).code = 0 := congrArg ClientCall.code hconnect
    have hconnection : (doipClientConnect layer client s).client.connection = { client.connection with
        tcpSocket := (doipSocketTcpCreate layer s).2, isConnected := true } := by rw [hconnect]; rfl
    obtain ⟨-, ⟨hsucceeds, -, hactive⟩ | ⟨hfails, hsame⟩⟩ := doipClientRoutingActivation_result layer
      (doipClientConnect layer client s).client (doipClientConnect layer client s).stack 0x00
    · exact .activated hoff hconnects hcode hsucceeds (by rw [hactive, hconnection])
    · exact .unactivated hoff hconnects hcode hfails (hsame.trans hconnection)
  · have hfails : client.isConnected = true ∨ ¬ Connects layer client s := by
      by_cases hon : client.isConnected = true
      · exact Or.inl hon
      · exact Or.inr fun h => hconnects ⟨eq_false_of_ne_true hon, h⟩
    obtain ⟨hcode, hsame⟩ := doipClientConnect_of_not_connects hconsistent hfails
    exact .unconnected hfails hcode hsame

end Connecting

section Codes
variable {σ : Type u} {layer : SocketLayer σ} {zg : ZonalGateway} {ecu : ECUNode} {s : σ}

theorem zgConnectToVmg_unconnected (hcode : (doipClientConnect layer zg.vmgClient s).code = -1) :
    zgConnectToVmg layer zg s = ⟨{ zg with vmgClient := (doipClientConnect layer zg.vmgClient s).client },
      (doipClientConnect layer zg.vmgClient s).stack, -1⟩ := by
  rw [zgConnectToVmg, hcode]
  rfl

theorem zgConnectToVmg_unactivated (hcode : (doipClientConnect layer zg.vmgClient s).code = 0)
    (hfails : (attach layer zg.vmgClient s).code = -1) : zgConnectToVmg layer zg s =
      ⟨{ zg with vmgClient := (attach layer zg.vmgClient s).client },
        (attach layer zg.vmgClient s).stack, -1⟩ := by
  simp only [zgConnectToVmg, hcode, hfails]
  rfl

theorem zgConnectToVmg_activated (hcode : (doipClientConnect layer zg.vmgClient s).code = 0)
    (hsucceeds : (attach layer zg.vmgClient s).code = 0) : zgConnectToVmg layer zg s =
      ⟨{ zg with vmgClient := (attach layer zg.vmgClient s).client, vmgConnected := true },
        (attach layer zg.vmgClient s).stack, 0⟩ := by
  simp only [zgConnectToVmg, hcode, hsucceeds]
  rfl

theorem ecuConnectToZg_unconnected (hcode : (doipClientConnect layer ecu.zgClient s).code = -1) :
    ecuConnectToZg layer ecu s = ⟨{ ecu with zgClient := (doipClientConnect layer ecu.zgClient s).client },
      (doipClientConnect layer ecu.zgClient s).stack, -1⟩ := by
  rw [ecuConnectToZg, hcode]
  rfl

/-- The end node disconnects where the gateway keeps the connection. -/
theorem ecuConnectToZg_unactivated (hcode : (doipClientConnect layer ecu.zgClient s).code = 0)
    (hfails : (attach layer ecu.zgClient s).code = -1) : ecuConnectToZg layer ecu s =
      ⟨{ ecu with zgClient := (doipClientDisconnect layer (attach layer ecu.zgClient s).client
          (attach layer ecu.zgClient s).stack).client },
        (doipClientDisconnect layer (attach layer ecu.zgClient s).client
          (attach layer ecu.zgClient s).stack).stack, -1⟩ := by
  simp only [ecuConnectToZg, hcode, hfails]
  rfl

theorem ecuConnectToZg_activated (hcode : (doipClientConnect layer ecu.zgClient s).code = 0)
    (hsucceeds : (attach layer ecu.zgClient s).code = 0) : ecuConnectToZg layer ecu s =
      ⟨{ ecu with zgClient := (attach layer ecu.zgClient s).client, zgConnected := true },
        (attach layer ecu.zgClient s).stack, 0⟩ := by
  simp only [ecuConnectToZg, hcode, hsucceeds]
  rfl

end Codes

/-! ## A connection that is granted -/

/-- `doip_build_routing_activation_req` with the default activation. -/
def activationRequest (sourceAddress : UInt16) : List UInt8 :=
  wire routingActivationReq (beBytes16 sourceAddress ++ [0x00, 0, 0, 0, 0])

section Granted
variable {σ : Type u} (layer : SocketLayer σ) (client : DoIPClientContext) (s : σ)

/-- The socket takes the request, and what it receives is an answer that accepts it. -/
def Answers : Prop :=
  0 ≤ (layer.stream.send s (activationRequest client.sourceAddress)).2 ∧
    ∃ s' payload, 9 ≤ payload.length ∧ 8 + payload.length ≤ doipMaxResponseSize ∧
      payload.getD 4 0 = doipRaResSuccess ∧
      layer.stream.recv (layer.stream.send s (activationRequest client.sourceAddress)).1 doipMaxResponseSize =
        (s', .bytes (wire routingActivationRes payload))

/-- The socket calls of a connection attempt and its routing activation succeed. -/
structure Grants : Prop where
  connects : Connects layer client s
  answers : Answers layer client (doipSocketTcpConnect layer (doipSocketTcpCreate layer s).1
    (doipSocketTcpCreate layer s).2 client.serverIp client.serverPort).1

variable {layer client s}

theorem doipBuildRoutingActivationReq_eq (sourceAddress : UInt16) :
    doipBuildRoutingActivationReq sourceAddress 0x00 doipMaxResponseSize =
      ⟨15, activationRequest sourceAddress⟩ := by
  have hlen : (beBytes16 sourceAddress ++ [0x00, 0, 0, 0, 0]).length = 7 := rfl
  rw [doipBuildRoutingActivationReq, doipHtons, leBytes16_swap16]
  exact doipBuildMessage_wire routingActivationReq (by rw [hlen]; decide) (by rw [hlen]; decide)

theorem acceptReceived_activation {payload : List UInt8} (rest : List UInt8) (hlen : 9 ≤ payload.length)
    (hmax : 8 + payload.length ≤ doipMaxResponseSize) (hcode : payload.getD 4 0 = doipRaResSuccess) :
    ∃ response, (acceptReceived (wire routingActivationRes payload ++ rest)
        (wire routingActivationRes payload).length).bind takeRoutingActivation = some response ∧
      response.responseCode = doipRaResSuccess := by
  have h4096 : doipMaxResponseSize = 4096 := rfl
  have hsize : payload.length < 2 ^ 32 - 8 := by omega
  have hne : payload ≠ [] := List.ne_nil_of_length_pos (by omega)
  have hshort : ¬ payload.length < 9 := by omega
  have hfour : (payload ++ rest).getD 4 0 = payload.getD 4 0 := List.getD_append _ _ _ _ (by omega)
  rw [acceptReceived_wire routingActivationRes rest hsize, if_neg hne]
  simp only [Option.bind_some, takeRoutingActivation, ne_eq, not_true_eq_false, if_false,
    doipParseRoutingActivationRes, lengthOf_toNat hsize, hshort, hfour, hcode]
  exact ⟨_, rfl, rfl⟩

theorem doipClientRoutingActivation_of_answers (hon : client.isConnected = true)
    (hsock : client.tcpSocket ≠ doipInvalidSocket) (hanswers : Answers layer client s) :
    (doipClientRoutingActivation layer client s 0x00).code = 0 := by
  obtain ⟨hsent, s', payload, hlen, hmax, hcode, hrecv⟩ := hanswers
  obtain ⟨response, htaken, hsuccess⟩ := acceptReceived_activation
    (client.rxBuffer.drop (wire routingActivationRes payload).length) hlen hmax hcode
  have hreceived : receiveMessage layer.stream client.toDoIPClient
      (layer.stream.send s (activationRequest client.sourceAddress)).1 = ⟨_, s', acceptReceived _ _⟩ :=
    receiveMessage_bytes hsock (wire_ne_nil _ _) hrecv
  have htake : (activationRequest client.sourceAddress).take (15 : UInt32).toNat =
      activationRequest client.sourceAddress := rfl
  have hbuilt : ¬ (15 : UInt32) = 0 := by decide
  simp only [doipClientRoutingActivation, hon, Bool.not_true, Bool.false_eq_true, if_false,
    doipBuildRoutingActivationReq_eq, hbuilt, doipSocketTcpSend, if_neg hsock, htake,
    if_neg (Int.not_lt.mpr hsent), hreceived, DoIPClient.received_rxBuffer, htaken, hsuccess, if_true]

/-- A client that is not connected is connected and activated. -/
theorem attach_of_grants (hoff : client.isConnected = false) (hgrants : Grants layer client s) :
    (doipClientConnect layer client s).code = 0 ∧ (attach layer client s).code = 0 := by
  have hconnect := doipClientConnect_of_connects hoff hgrants.connects
  unfold attach
  rw [hconnect]
  exact ⟨rfl, doipClientRoutingActivation_of_answers rfl hgrants.connects.1 hgrants.answers⟩

end Granted

/-- A layer with a server that accepts every activation. -/
def grantingLayer : SocketLayer Unit :=
  let answer := wire routingActivationRes [0x02, 0x01, 0x01, 0x00, 0x10, 0, 0, 0, 0]
  { silentLayer with
    stream := {
      send := fun _ data => ((), data.length)
      recv := fun _ cap => ((), if answer.length ≤ cap then .bytes answer else .error)
      recv_le := by
        intro _ cap data h
        split at h
        case isTrue hfits =>
          cases h
          exact hfits
        case isFalse => cases h } }

theorem grantingLayer_grants (client : DoIPClientContext) : Grants grantingLayer client () where
  connects := ⟨by decide, rfl⟩
  answers := ⟨Int.natCast_nonneg _, (), [0x02, 0x01, 0x01, 0x00, 0x10, 0, 0, 0, 0], by decide, by decide,
    by decide, rfl⟩

end Mcus.Nodes
