import Mcus.Doip.Client
import Mcus.Foundations.Handles

/-! # Connecting and disconnecting the DoIP client

The other calls of `doip_client.c`, over the sockets of `doip_socket_lwip.c`. The socket layer is a
parameter with a state of its own, which decides what every call returns; socket options and
timeouts, whose results nobody reads, are left to it. A call lists the handles it got from the layer and
gave back. `ConnectionEffect` says what a call can do to the two sockets and the two flags.
-/

namespace Mcus.Doip
open ByteOrder Handles
set_option autoImplicit false

universe u

abbrev doipDefaultPort : UInt16 := 13400

abbrev doipRaResSuccess : UInt8 := 0x10

/-- The calls of the socket layer. `datagram` broadcasts to a port and receives what is sent back;
`socket` and `connect` are negative on error. -/
structure SocketLayer (σ : Type u) where
  stream : TcpStack σ
  datagram : UInt16 → TcpStack σ
  tcpSocket : σ → σ × Int
  udpSocket : σ → σ × Int
  connect : σ → Int → UInt32 → UInt16 → σ × Int
  close : σ → Int → σ

/-- `DoIPClient_t` with the fields that only the calls of this module use. -/
structure DoIPClientContext extends DoIPClient where
  udpSocket : Int
  serverIp : UInt32
  serverPort : UInt16
  vin : List UInt8
  entityAddress : UInt16

/-- A call that ended: its return value, 0 for none, and the handles it opened and closed. -/
structure ClientCall (σ : Type u) where
  client : DoIPClientContext
  stack : σ
  code : Int
  handles : List (HandleEvent Int)

/-- The client behind `memset`. -/
def DoIPClientContext.zero : DoIPClientContext where
  tcpSocket := 0
  sourceAddress := 0
  targetAddress := 0
  isConnected := false
  routingActive := false
  rxBuffer := List.replicate doipMaxResponseSize 0
  udpSocket := 0
  serverIp := 0
  serverPort := 0
  vin := List.replicate (doipVinLength + 1) 0
  entityAddress := 0

/-- The client and the return value; `inetPton` parses a dotted address. -/
def doipClientInit (inetPton : String → Option UInt32) (serverIp : String) (serverPort : UInt16)
    (sourceAddress targetAddress : UInt16) : DoIPClientContext × Int :=
  match inetPton serverIp with
  | none => (.zero, -1)
  | some ip =>
    ({ DoIPClientContext.zero with
        serverIp := ip
        serverPort := if serverPort = 0 then doipDefaultPort else serverPort
        sourceAddress := sourceAddress
        targetAddress := targetAddress
        tcpSocket := doipInvalidSocket
        udpSocket := doipInvalidSocket
        isConnected := false
        routingActive := false }, 0)

section Sockets
variable {σ : Type u} (layer : SocketLayer σ) (s : σ)

def validOrInvalid (sock : Int) : Int := if sock < 0 then doipInvalidSocket else sock

def doipSocketTcpCreate : σ × Int := ((layer.tcpSocket s).1, validOrInvalid (layer.tcpSocket s).2)

def doipSocketUdpCreate : σ × Int := ((layer.udpSocket s).1, validOrInvalid (layer.udpSocket s).2)

def doipSocketTcpConnect (sock : Int) (ip : UInt32) (port : UInt16) : σ × Int :=
  if sock = doipInvalidSocket then (s, -1)
  else
    let (s, code) := layer.connect s sock ip port
    (s, if code < 0 then -1 else 0)

/-- The state behind the call, and what it closed. -/
def doipSocketClose (sock : Int) : σ × List (HandleEvent Int) :=
  if sock = doipInvalidSocket then (s, []) else (layer.close s sock, [.closed sock])

def doipSocketUdpBroadcast (sock : Int) (data : List UInt8) (port : UInt16) : σ × Int :=
  doipSocketTcpSend (layer.datagram port) s sock data

def doipSocketUdpRecv (sock : Int) (port : UInt16) (buf : List UInt8) (cap : ℕ) : σ × Int × List UInt8 :=
  doipSocketTcpRecv (layer.datagram port) s sock buf cap

end Sockets

section Calls
variable {σ : Type u} (layer : SocketLayer σ) (client : DoIPClientContext) (s : σ)

def doipClientConnect : ClientCall σ :=
  if client.isConnected then ⟨client, s, -1, []⟩
  else
    let (s, sock) := doipSocketTcpCreate layer s
    let client := { client with tcpSocket := sock }
    if sock = doipInvalidSocket then ⟨client, s, -1, []⟩
    else
      let (s, code) := doipSocketTcpConnect layer s sock client.serverIp client.serverPort
      if code ≠ 0 then
        let (s, closed) := doipSocketClose layer s sock
        ⟨{ client with tcpSocket := doipInvalidSocket }, s, -1, .opened sock :: closed⟩
      else ⟨{ client with isConnected := true }, s, 0, [.opened sock]⟩

/-- Closing no socket changes nothing, so the two tests of the source are those of `doipSocketClose`. -/
def doipClientDisconnect : ClientCall σ :=
  let (s, tcpClosed) := doipSocketClose layer s client.tcpSocket
  let (s, udpClosed) := doipSocketClose layer s client.udpSocket
  ⟨{ client with
      tcpSocket := doipInvalidSocket
      udpSocket := doipInvalidSocket
      isConnected := false
      routingActive := false }, s, 0, tcpClosed ++ udpClosed⟩

/-- The check and the parse behind the receive of `doip_client_vehicle_identification`. -/
def takeVehicleId (message : ReceivedMessage) : Option DoIPVehicleIdRes :=
  if message.header.payloadType ≠ vehicleIdentificationRes then none
  else doipParseVehicleIdRes message.payload message.header.payloadLength.toNat

/-- `doip_client_vehicle_identification` with a socket, behind the given handles. -/
def identifyVehicle (handles : List (HandleEvent Int)) : ClientCall σ :=
  let msg := doipBuildVehicleIdReq doipMaxResponseSize
  if msg.length = 0 then ⟨client, s, -1, handles⟩
  else
    let (s, sent) := doipSocketUdpBroadcast layer s client.udpSocket (msg.bytes.take msg.length.toNat)
      client.serverPort
    if sent < 0 then ⟨client, s, -1, handles⟩
    else
      let (s, recvLen, rxBuffer) := doipSocketUdpRecv layer s client.udpSocket client.serverPort
        client.rxBuffer doipMaxResponseSize
      let client := { client with rxBuffer := rxBuffer }
      if recvLen ≤ 0 then ⟨client, s, -1, handles⟩
      else
        match (acceptReceived rxBuffer recvLen.toNat).bind takeVehicleId with
        | none => ⟨client, s, -1, handles⟩
        | some response =>
          ⟨{ client with vin := response.vin ++ [0], entityAddress := response.logicalAddress }, s, 0, handles⟩

def doipClientVehicleIdentification : ClientCall σ :=
  if client.udpSocket = doipInvalidSocket then
    let (s, sock) := doipSocketUdpCreate layer s
    let client := { client with udpSocket := sock }
    if sock = doipInvalidSocket then ⟨client, s, -1, []⟩
    else identifyVehicle layer client s [.opened sock]
  else identifyVehicle layer client s []

/-- The check and the parse behind the receive of `doip_client_routing_activation`. -/
def takeRoutingActivation (message : ReceivedMessage) : Option DoIPRoutingActivationRes :=
  if message.header.payloadType ≠ routingActivationRes then none
  else doipParseRoutingActivationRes message.payload message.header.payloadLength.toNat

def doipClientRoutingActivation (activationType : UInt8) : ClientCall σ :=
  if !client.isConnected then ⟨client, s, -1, []⟩
  else
    let msg := doipBuildRoutingActivationReq client.sourceAddress activationType doipMaxResponseSize
    if msg.length = 0 then ⟨client, s, -1, []⟩
    else
      let (s, sent) := doipSocketTcpSend layer.stream s client.tcpSocket (msg.bytes.take msg.length.toNat)
      if sent < 0 then ⟨client, s, -1, []⟩
      else
        let received := receiveMessage layer.stream client.toDoIPClient s
        let client := { client with toDoIPClient := received.client }
        match received.result.bind takeRoutingActivation with
        | none => ⟨client, received.stack, -1, []⟩
        | some response =>
          if response.responseCode = doipRaResSuccess then
            ⟨{ client with routingActive := true }, received.stack, 0, []⟩
          else ⟨client, received.stack, -1, []⟩

/-- `doip_client_send_diagnostic` on the whole client; the answer is left to its own module. -/
def sendDiagnostic (udsRequest : List UInt8) (respCap : ℕ) : ClientCall σ :=
  let r := doipClientSendDiagnostic layer.stream client.toDoIPClient s udsRequest respCap
  ⟨{ client with toDoIPClient := r.client }, r.stack, if r.result.isSome then 0 else -1, []⟩

def doipClientAliveCheckResponse (sourceAddress : UInt16) : ClientCall σ :=
  if !client.isConnected then ⟨client, s, -1, []⟩
  else
    let msg := doipBuildMessage aliveCheckRes (leBytes16 (doipHtons sourceAddress)) 2 doipMaxResponseSize
    if msg.length = 0 then ⟨client, s, -1, []⟩
    else
      let (s, sent) := doipSocketTcpSend layer.stream s client.tcpSocket (msg.bytes.take msg.length.toNat)
      if sent < 0 then ⟨client, s, -1, []⟩ else ⟨client, s, 0, []⟩

end Calls

/-! ## What a call can do to the connection -/

/-- The sockets and the flags of a client. -/
structure Connection where
  tcpSocket : Int
  udpSocket : Int
  isConnected : Bool
  routingActive : Bool
  deriving DecidableEq, Repr

def DoIPClientContext.connection (client : DoIPClientContext) : Connection :=
  ⟨client.tcpSocket, client.udpSocket, client.isConnected, client.routingActive⟩

def Connection.closed : Connection := ⟨doipInvalidSocket, doipInvalidSocket, false, false⟩

/-- What is closed for a stored handle. -/
def closings (sock : Int) : List (HandleEvent Int) := if sock = doipInvalidSocket then [] else [.closed sock]

inductive ConnectionEffect (k : Connection) : Connection → List (HandleEvent Int) → Prop
  | kept : ConnectionEffect k k []
  | activated (hconnected : k.isConnected = true) :
      ConnectionEffect k { k with routingActive := true } []
  | noSocket (hconnected : k.isConnected = false) :
      ConnectionEffect k { k with tcpSocket := doipInvalidSocket } []
  | refused (sock : Int) (hconnected : k.isConnected = false) (hsock : 0 ≤ sock) :
      ConnectionEffect k { k with tcpSocket := doipInvalidSocket } [.opened sock, .closed sock]
  | connected (sock : Int) (hconnected : k.isConnected = false) (hsock : 0 ≤ sock) :
      ConnectionEffect k { k with tcpSocket := sock, isConnected := true } [.opened sock]
  | listening (sock : Int) (hnone : k.udpSocket = doipInvalidSocket) (hsock : 0 ≤ sock) :
      ConnectionEffect k { k with udpSocket := sock } [.opened sock]
  | disconnected : ConnectionEffect k .closed (closings k.tcpSocket ++ closings k.udpSocket)

abbrev ClientCall.HasEffect {σ : Type u} (r : ClientCall σ) (client : DoIPClientContext) : Prop :=
  ConnectionEffect client.connection r.client.connection r.handles

section Effects
variable {σ : Type u} {layer : SocketLayer σ} {client : DoIPClientContext} {s : σ}

/-- A receive changes the client in its buffer alone. -/
theorem receiveMessage_client (tcp : TcpStack σ) (client : DoIPClient) (s : σ) :
    ∃ rxBuffer, (receiveMessage tcp client s).client = { client with rxBuffer := rxBuffer } := by
  unfold receiveMessage
  dsimp only
  split
  · exact ⟨_, rfl⟩
  · exact ⟨_, rfl⟩

theorem receiveResponse_client (tcp : TcpStack σ) (client : DoIPClient) (s : σ) (respCap : ℕ) :
    ∃ rxBuffer, (receiveResponse tcp client s respCap).client = { client with rxBuffer := rxBuffer } := by
  obtain ⟨rxBuffer, hclient⟩ := receiveMessage_client tcp client s
  unfold receiveResponse
  dsimp only
  split
  · exact ⟨rxBuffer, hclient⟩
  · exact ⟨rxBuffer, hclient⟩

theorem receiveDiagnostic_client (tcp : TcpStack σ) (client : DoIPClient) (s : σ) (respCap : ℕ) :
    ∃ rxBuffer, (receiveDiagnostic tcp client s respCap).client = { client with rxBuffer := rxBuffer } := by
  obtain ⟨rxBuffer, hclient⟩ := receiveMessage_client tcp client s
  unfold receiveDiagnostic
  dsimp only
  split
  case h_1 => exact ⟨rxBuffer, hclient⟩
  case h_2 =>
    split_ifs
    · obtain ⟨rxBuffer', hclient'⟩ := receiveResponse_client tcp (receiveMessage tcp client s).client
        (receiveMessage tcp client s).stack respCap
      exact ⟨rxBuffer', by rw [hclient', hclient]⟩
    · exact ⟨rxBuffer, hclient⟩
    · exact ⟨rxBuffer, hclient⟩

theorem doipClientSendDiagnostic_client (tcp : TcpStack σ) (client : DoIPClient) (s : σ)
    (udsRequest : List UInt8) (respCap : ℕ) : ∃ rxBuffer,
      (doipClientSendDiagnostic tcp client s udsRequest respCap).client = { client with rxBuffer := rxBuffer } := by
  unfold doipClientSendDiagnostic
  dsimp only
  split_ifs
  · exact ⟨client.rxBuffer, rfl⟩
  · exact ⟨client.rxBuffer, rfl⟩
  · exact ⟨client.rxBuffer, rfl⟩
  · exact receiveDiagnostic_client tcp client _ respCap

theorem validOrInvalid_nonneg {sock : Int} (hsock : validOrInvalid sock ≠ doipInvalidSocket) :
    0 ≤ validOrInvalid sock := by
  unfold validOrInvalid at hsock ⊢
  split at hsock
  · exact absurd rfl hsock
  · omega

theorem doipClientConnect_effect : (doipClientConnect layer client s).HasEffect client := by
  unfold doipClientConnect ClientCall.HasEffect
  split
  case isTrue => exact .kept
  case isFalse hconnected =>
    have hoff : client.connection.isConnected = false := eq_false_of_ne_true hconnected
    dsimp only
    split
    case isTrue hsock =>
      rw [hsock]
      exact .noSocket hoff
    case isFalse hsock =>
      split
      case isTrue =>
        rw [doipSocketClose, if_neg hsock]
        exact .refused _ hoff (validOrInvalid_nonneg hsock)
      case isFalse => exact .connected _ hoff (validOrInvalid_nonneg hsock)

theorem doipSocketClose_handles (sock : Int) : (doipSocketClose layer s sock).2 = closings sock := by
  unfold doipSocketClose closings
  split <;> rfl

theorem doipClientDisconnect_effect : (doipClientDisconnect layer client s).HasEffect client := by
  unfold doipClientDisconnect ClientCall.HasEffect
  dsimp only
  rw [doipSocketClose_handles, doipSocketClose_handles]
  exact .disconnected

theorem identifyVehicle_connection (layer : SocketLayer σ) (client : DoIPClientContext) (s : σ)
    (handles : List (HandleEvent Int)) :
    (identifyVehicle layer client s handles).client.connection = client.connection ∧
      (identifyVehicle layer client s handles).handles = handles := by
  unfold identifyVehicle
  dsimp only
  split_ifs
  · exact ⟨rfl, rfl⟩
  · exact ⟨rfl, rfl⟩
  · exact ⟨rfl, rfl⟩
  · split
    · exact ⟨rfl, rfl⟩
    · exact ⟨rfl, rfl⟩

theorem doipClientVehicleIdentification_effect :
    (doipClientVehicleIdentification layer client s).HasEffect client := by
  unfold doipClientVehicleIdentification ClientCall.HasEffect
  split
  case isTrue hnone =>
    dsimp only
    split
    case isTrue hsock =>
      have hsame : ({ client with udpSocket := (doipSocketUdpCreate layer s).2 } : DoIPClientContext).connection =
          client.connection := by rw [hsock, ← hnone]
      rw [hsame]
      exact .kept
    case isFalse hsock =>
      obtain ⟨hconnection, hhandles⟩ := identifyVehicle_connection layer
        { client with udpSocket := (doipSocketUdpCreate layer s).2 } (doipSocketUdpCreate layer s).1
        [.opened (doipSocketUdpCreate layer s).2]
      rw [hconnection, hhandles]
      exact .listening _ hnone (validOrInvalid_nonneg hsock)
  case isFalse =>
    obtain ⟨hconnection, hhandles⟩ := identifyVehicle_connection layer client s []
    rw [hconnection, hhandles]
    exact .kept

/-- Identification touches no more of the connection than the datagram socket. -/
theorem doipClientVehicleIdentification_connection (layer : SocketLayer σ) (client : DoIPClientContext)
    (s : σ) : ∃ sock, (doipClientVehicleIdentification layer client s).client.connection =
      { client.connection with udpSocket := sock } := by
  unfold doipClientVehicleIdentification
  split
  case isTrue =>
    dsimp only
    split
    case isTrue => exact ⟨_, rfl⟩
    case isFalse => exact ⟨_, (identifyVehicle_connection layer _ _ _).1⟩
  case isFalse => exact ⟨client.udpSocket, (identifyVehicle_connection layer _ _ _).1⟩

/-- What `doip_client_routing_activation` returns and does to the connection. -/
theorem doipClientRoutingActivation_result (layer : SocketLayer σ) (client : DoIPClientContext) (s : σ)
    (activationType : UInt8) :
    (doipClientRoutingActivation layer client s activationType).handles = [] ∧
      (((doipClientRoutingActivation layer client s activationType).code = 0 ∧ client.isConnected = true ∧
          (doipClientRoutingActivation layer client s activationType).client.connection =
            { client.connection with routingActive := true }) ∨
        ((doipClientRoutingActivation layer client s activationType).code = -1 ∧
          (doipClientRoutingActivation layer client s activationType).client.connection =
            client.connection)) := by
  unfold doipClientRoutingActivation
  split
  case isTrue => exact ⟨rfl, Or.inr ⟨rfl, rfl⟩⟩
  case isFalse hconnected =>
    have hon : client.isConnected = true := by simpa using hconnected
    dsimp only
    split_ifs
    · exact ⟨rfl, Or.inr ⟨rfl, rfl⟩⟩
    · exact ⟨rfl, Or.inr ⟨rfl, rfl⟩⟩
    · generalize (doipSocketTcpSend layer.stream s client.tcpSocket _).1 = sent
      obtain ⟨rxBuffer, hclient⟩ := receiveMessage_client layer.stream client.toDoIPClient sent
      rw [hclient]
      split
      · exact ⟨rfl, Or.inr ⟨rfl, rfl⟩⟩
      · split
        · exact ⟨rfl, Or.inl ⟨rfl, hon, rfl⟩⟩
        · exact ⟨rfl, Or.inr ⟨rfl, rfl⟩⟩

theorem doipClientRoutingActivation_effect (activationType : UInt8) :
    (doipClientRoutingActivation layer client s activationType).HasEffect client := by
  obtain ⟨hhandles, hresult⟩ := doipClientRoutingActivation_result layer client s activationType
  unfold ClientCall.HasEffect
  rcases hresult with ⟨-, hon, hconnection⟩ | ⟨-, hconnection⟩
  · rw [hhandles, hconnection]
    exact .activated hon
  · rw [hhandles, hconnection]
    exact .kept

theorem sendDiagnostic_connection (layer : SocketLayer σ) (client : DoIPClientContext) (s : σ)
    (udsRequest : List UInt8) (respCap : ℕ) :
    (sendDiagnostic layer client s udsRequest respCap).client.connection = client.connection := by
  obtain ⟨rxBuffer, hclient⟩ :=
    doipClientSendDiagnostic_client layer.stream client.toDoIPClient s udsRequest respCap
  unfold sendDiagnostic
  dsimp only
  rw [hclient]
  rfl

theorem sendDiagnostic_effect (udsRequest : List UInt8) (respCap : ℕ) :
    (sendDiagnostic layer client s udsRequest respCap).HasEffect client := by
  unfold ClientCall.HasEffect
  rw [sendDiagnostic_connection]
  exact .kept

theorem doipClientAliveCheckResponse_effect (sourceAddress : UInt16) :
    (doipClientAliveCheckResponse layer client s sourceAddress).HasEffect client := by
  unfold doipClientAliveCheckResponse ClientCall.HasEffect
  dsimp only
  split_ifs <;> exact .kept

end Effects

/-! ## Flags and sockets agree -/

/-- The client is connected exactly when it has a stream socket, and activated only when connected. -/
structure Connection.Consistent (k : Connection) : Prop where
  connected : k.isConnected = true ↔ k.tcpSocket ≠ doipInvalidSocket
  active : k.routingActive = true → k.isConnected = true
  valid : k.tcpSocket ≠ doipInvalidSocket → 0 ≤ k.tcpSocket

theorem Connection.consistent_closed : Connection.closed.Consistent :=
  ⟨by decide, by decide, fun h => absurd rfl h⟩

theorem ne_invalid {sock : Int} (hsock : 0 ≤ sock) : sock ≠ doipInvalidSocket := by
  intro h
  rw [h] at hsock
  exact absurd hsock (by decide)

/-- A client that is not connected has no socket and no activation. -/
theorem Connection.Consistent.off {k : Connection} (h : k.Consistent) (hoff : k.isConnected = false) :
    k.tcpSocket = doipInvalidSocket ∧ k.routingActive = false := by
  constructor
  · by_contra hsock
    exact absurd (h.connected.mpr hsock) (by simp [hoff])
  · exact eq_false_of_ne_true fun hactive => absurd (h.active hactive) (by simp [hoff])

theorem ConnectionEffect.consistent {k k' : Connection} {handles : List (HandleEvent Int)}
    (heffect : ConnectionEffect k k' handles) (h : k.Consistent) : k'.Consistent := by
  cases heffect with
  | kept => exact h
  | activated hconnected => exact ⟨h.connected, fun _ => hconnected, h.valid⟩
  | noSocket hconnected =>
    have hsame : { k with tcpSocket := doipInvalidSocket } = k := by rw [← (h.off hconnected).1]
    rw [hsame]
    exact h
  | refused _ hconnected _ =>
    have hsame : { k with tcpSocket := doipInvalidSocket } = k := by rw [← (h.off hconnected).1]
    rw [hsame]
    exact h
  | connected sock _ hsock =>
    exact ⟨iff_of_true rfl (ne_invalid hsock), fun _ => rfl, fun _ => hsock⟩
  | listening => exact ⟨h.connected, h.active, h.valid⟩
  | disconnected => exact Connection.consistent_closed

/-! ## What the return values say -/

section Codes
variable {σ : Type u} {layer : SocketLayer σ} {client : DoIPClientContext} {s : σ}

/-- The socket of `doip_client_connect` is created and connected. -/
def Connects (layer : SocketLayer σ) (client : DoIPClientContext) (s : σ) : Prop :=
  (doipSocketTcpCreate layer s).2 ≠ doipInvalidSocket ∧
    (doipSocketTcpConnect layer (doipSocketTcpCreate layer s).1 (doipSocketTcpCreate layer s).2
      client.serverIp client.serverPort).2 = 0

theorem doipClientConnect_of_connects (hoff : client.isConnected = false) (hconnects : Connects layer client s) :
    doipClientConnect layer client s =
      ⟨{ client with tcpSocket := (doipSocketTcpCreate layer s).2, isConnected := true },
        (doipSocketTcpConnect layer (doipSocketTcpCreate layer s).1 (doipSocketTcpCreate layer s).2
          client.serverIp client.serverPort).1, 0, [.opened (doipSocketTcpCreate layer s).2]⟩ := by
  simp only [doipClientConnect, hoff, Bool.false_eq_true, if_false, if_neg hconnects.1, hconnects.2,
    ne_eq, not_true_eq_false]

/-- A call that does not connect returns -1 and leaves the sockets and flags as they are. -/
theorem doipClientConnect_of_not_connects (hconsistent : client.connection.Consistent)
    (hfails : client.isConnected = true ∨ ¬ Connects layer client s) :
    (doipClientConnect layer client s).code = -1 ∧
      (doipClientConnect layer client s).client.connection = client.connection := by
  unfold doipClientConnect
  split
  case isTrue => exact ⟨rfl, rfl⟩
  case isFalse hoff =>
    have hnone : client.tcpSocket = doipInvalidSocket :=
      (hconsistent.off (eq_false_of_ne_true hoff)).1
    have hsame : ({ client with tcpSocket := doipInvalidSocket } : DoIPClientContext).connection =
        client.connection := by rw [← hnone]
    dsimp only
    split
    case isTrue hsock => exact ⟨rfl, by rw [hsock]; exact hsame⟩
    case isFalse hsock =>
      have hcode : (doipSocketTcpConnect layer (doipSocketTcpCreate layer s).1 (doipSocketTcpCreate layer s).2
          client.serverIp client.serverPort).2 ≠ 0 := fun hzero =>
        (hfails.resolve_left hoff) ⟨hsock, hzero⟩
      rw [if_pos hcode]
      exact ⟨rfl, hsame⟩

end Codes
end Mcus.Doip
