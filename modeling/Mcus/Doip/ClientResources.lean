import Mcus.Doip.ClientConnection

/-! # The sockets of the DoIP client

Runs of one client over any socket layer. The flags of the client agree with its handles whatever the
layer returns. If the layer never issues a handle that is still open, then every socket that a run ever
opened is stored in the client or was closed exactly once, and nothing else was closed.
-/

namespace Mcus.Doip
open ByteOrder Handles Runs
set_option autoImplicit false

universe u

inductive ClientOp
  | connect
  | disconnect
  | vehicleIdentification
  | routingActivation (activationType : UInt8)
  | sendDiagnostic (udsRequest : List UInt8) (respCap : ℕ)
  | aliveCheckResponse (sourceAddress : UInt16)
  deriving DecidableEq, Repr

section Run
variable {σ : Type u} (layer : SocketLayer σ)

def clientCall (client : DoIPClientContext) (s : σ) : ClientOp → ClientCall σ
  | .connect => doipClientConnect layer client s
  | .disconnect => doipClientDisconnect layer client s
  | .vehicleIdentification => doipClientVehicleIdentification layer client s
  | .routingActivation activationType => doipClientRoutingActivation layer client s activationType
  | .sendDiagnostic udsRequest respCap => sendDiagnostic layer client s udsRequest respCap
  | .aliveCheckResponse sourceAddress => doipClientAliveCheckResponse layer client s sourceAddress

/-- What a call shows: its return value, and the handles it opened and closed. -/
structure CallOutcome where
  code : Int
  handles : List (HandleEvent Int)

def connectionMachine : Machine (DoIPClientContext × σ) ClientOp CallOutcome where
  step c op :=
    let r := clientCall layer c.1 c.2 op
    ((r.client, r.stack), ⟨r.code, r.handles⟩)

/-- The handles of a history, in order. -/
def handleLog (past : List (Step (DoIPClientContext × σ) ClientOp CallOutcome)) : List (HandleEvent Int) :=
  past.flatMap (·.output.handles)

variable {layer}

theorem handleLog_concat (past : List (Step (DoIPClientContext × σ) ClientOp CallOutcome))
    (e : Step (DoIPClientContext × σ) ClientOp CallOutcome) :
    handleLog (past ++ [e]) = handleLog past ++ e.output.handles := by simp [handleLog]

theorem clientCall_effect (client : DoIPClientContext) (s : σ) (op : ClientOp) :
    (clientCall layer client s op).HasEffect client := by
  cases op with
  | connect => exact doipClientConnect_effect
  | disconnect => exact doipClientDisconnect_effect
  | vehicleIdentification => exact doipClientVehicleIdentification_effect
  | routingActivation activationType => exact doipClientRoutingActivation_effect activationType
  | sendDiagnostic udsRequest respCap => exact sendDiagnostic_effect udsRequest respCap
  | aliveCheckResponse sourceAddress => exact doipClientAliveCheckResponse_effect sourceAddress

theorem doipClientInit_connection {inetPton : String → Option UInt32} {serverIp : String}
    {serverPort sourceAddress targetAddress : UInt16} {client : DoIPClientContext}
    (hinit : doipClientInit inetPton serverIp serverPort sourceAddress targetAddress = (client, 0)) :
    client.connection = .closed := by
  unfold doipClientInit at hinit
  split at hinit
  case h_1 => cases hinit
  case h_2 =>
    obtain ⟨rfl, -⟩ := Prod.mk.inj hinit
    rfl

/-- Flags and sockets agree in every state that a run from a successful initialisation reaches. -/
theorem consistent_run {client : DoIPClientContext} (hclosed : client.connection = .closed) (s : σ)
    (ops : List ClientOp) : ((connectionMachine layer).run (client, s) ops).1.connection.Consistent :=
  Machine.induction (M := connectionMachine layer) (P := fun _ c => c.1.connection.Consistent)
    (hclosed ▸ Connection.consistent_closed)
    (fun _ c op h => (clientCall_effect c.1 c.2 op).consistent h) ops

end Run

/-! ## Stored or closed -/

/-- The open handles are those that the client stores. -/
structure Accounted (log : List (HandleEvent Int)) (k : Connection) : Prop where
  consistent : k.Consistent
  distinct : k.tcpSocket = k.udpSocket → k.tcpSocket = doipInvalidSocket
  open_iff : ∀ sock, IsOpen log sock ↔ sock ≠ doipInvalidSocket ∧ (sock = k.tcpSocket ∨ sock = k.udpSocket)
  closes : ClosesOpen log

theorem accounted_closed : Accounted [] .closed where
  consistent := Connection.consistent_closed
  distinct := fun _ => rfl
  open_iff sock := by
    refine iff_of_false not_isOpen_nil ?_
    rintro ⟨hvalid, hsock | hsock⟩ <;> exact hvalid hsock
  closes := closesOpen_nil

section Accounted
variable {log : List (HandleEvent Int)} {k k' : Connection} {handles : List (HandleEvent Int)}

/-- A stored handle is closed. -/
theorem closesOpen_closings {sock : Int} (hcloses : ClosesOpen log)
    (hopen : sock ≠ doipInvalidSocket → IsOpen log sock) : ClosesOpen (log ++ closings sock) := by
  unfold closings
  split
  case isTrue => simpa using hcloses
  case isFalse hsock => exact hcloses.closed (hopen hsock)

theorem isOpen_closings {sock h : Int} :
    IsOpen (log ++ closings sock) h ↔ (sock = doipInvalidSocket ∨ h ≠ sock) ∧ IsOpen log h := by
  unfold closings
  split
  case isTrue hsock => simp [hsock]
  case isFalse hsock => rw [isOpen_closed, or_iff_right hsock]

/-- A handle that fills an empty slot is stored beside the other slot's. -/
theorem stored_opened {sock other kept : Int} (hsock : sock ≠ doipInvalidSocket) :
    (other = sock ∨ other ≠ doipInvalidSocket ∧ (other = doipInvalidSocket ∨ other = kept)) ↔
      other ≠ doipInvalidSocket ∧ (other = sock ∨ other = kept) := by
  constructor
  · rintro (rfl | ⟨hvalid, hother⟩)
    · exact ⟨hsock, Or.inl rfl⟩
    · exact ⟨hvalid, Or.inr (hother.resolve_left hvalid)⟩
  · rintro ⟨hvalid, rfl | hother⟩
    · exact Or.inl rfl
    · exact Or.inr ⟨hvalid, Or.inr hother⟩

theorem accounted_step (heffect : ConnectionEffect k k' handles) (h : Accounted log k)
    (hfresh : NeverReissued (log ++ handles)) : Accounted (log ++ handles) k' := by
  have hconsistent := heffect.consistent h.consistent
  cases heffect with
  | kept => rwa [List.append_nil]
  | activated =>
    rw [List.append_nil]
    exact ⟨hconsistent, h.distinct, h.open_iff, h.closes⟩
  | noSocket hoff =>
    have hnone := (h.consistent.off hoff).1
    rw [List.append_nil]
    refine ⟨hconsistent, fun _ => rfl, fun sock => ?_, h.closes⟩
    rw [h.open_iff, hnone]
  | refused sock hoff hsock =>
    have hnone := (h.consistent.off hoff).1
    have hsplit : log ++ [HandleEvent.opened sock, .closed sock] = log ++ [.opened sock] ++ [.closed sock] :=
      (List.append_assoc log [.opened sock] [.closed sock]).symm
    rw [hsplit] at hfresh ⊢
    have hnew := (neverReissued_concat.mp hfresh.of_append).2 sock rfl
    refine ⟨hconsistent, fun _ => rfl, fun other => ?_, ?_⟩
    · rw [isOpen_closed, isOpen_opened, and_or_left, ne_eq, not_and_self_iff, false_or]
      have hkeep : other ≠ sock ∧ IsOpen log other ↔ IsOpen log other :=
        and_iff_right_of_imp fun hopen hsame => hnew (hsame ▸ hopen)
      rw [hkeep, h.open_iff, hnone]
    · exact (h.closes.opened sock).closed (isOpen_opened.mpr (Or.inl rfl))
  | connected sock hoff hsock =>
    have hnone := (h.consistent.off hoff).1
    have hnew := (neverReissued_concat.mp hfresh).2 sock rfl
    refine ⟨hconsistent, fun hsame => ?_, fun other => ?_, h.closes.opened sock⟩
    · exact absurd ((h.open_iff sock).mpr ⟨ne_invalid hsock, Or.inr hsame⟩) hnew
    · rw [isOpen_opened, h.open_iff, hnone]
      exact stored_opened (ne_invalid hsock)
  | listening sock hnone hsock =>
    have hnew := (neverReissued_concat.mp hfresh).2 sock rfl
    refine ⟨hconsistent, fun hsame => ?_, fun other => ?_, h.closes.opened sock⟩
    · by_contra hvalid
      exact hnew ((h.open_iff sock).mpr ⟨ne_invalid hsock, Or.inl (Eq.symm hsame)⟩)
    · rw [isOpen_opened, h.open_iff, hnone, @or_comm (other = k.tcpSocket), @or_comm (other = k.tcpSocket)]
      exact stored_opened (ne_invalid hsock)
  | disconnected =>
    have htcp : k.tcpSocket ≠ doipInvalidSocket → IsOpen log k.tcpSocket :=
      fun hvalid => (h.open_iff _).mpr ⟨hvalid, Or.inl rfl⟩
    have hudp : k.udpSocket ≠ doipInvalidSocket → IsOpen (log ++ closings k.tcpSocket) k.udpSocket := by
      intro hvalid
      refine isOpen_closings.mpr ⟨or_iff_not_imp_right.mpr fun hsame => ?_,
        (h.open_iff _).mpr ⟨hvalid, Or.inr rfl⟩⟩
      exact h.distinct (not_not.mp hsame).symm
    rw [← List.append_assoc]
    refine ⟨hconsistent, fun _ => rfl, fun other => ?_,
      closesOpen_closings (closesOpen_closings h.closes htcp) hudp⟩
    rw [isOpen_closings, isOpen_closings, h.open_iff]
    refine iff_of_false ?_ fun hstored => hstored.2.elim hstored.1 hstored.1
    rintro ⟨hudp, htcp, hvalid, rfl | rfl⟩
    · exact htcp.elim hvalid fun hother => hother rfl
    · exact hudp.elim hvalid fun hother => hother rfl

end Accounted

/-! ## The run -/

/-- What a run keeps: the flags agree with the handles, and every socket ever created is stored or was
closed exactly once, and was open when it was closed. -/
structure ResourcesKept (log : List (HandleEvent Int)) (client : DoIPClientContext) : Prop where
  connected : client.isConnected = true ↔ client.tcpSocket ≠ doipInvalidSocket
  valid : client.tcpSocket ≠ doipInvalidSocket → IsOpen log client.tcpSocket
  active : client.routingActive = true → client.isConnected = true
  created : ∀ before sock after, log = before ++ .opened sock :: after →
    timesClosed sock after = 1 ∨ (timesClosed sock after = 0 ∧ .opened sock ∉ after ∧
      (sock = client.tcpSocket ∨ sock = client.udpSocket))
  closed : ClosesOpen log

theorem Accounted.resourcesKept {log : List (HandleEvent Int)} {client : DoIPClientContext}
    (h : Accounted log client.connection) (hfresh : NeverReissued log) : ResourcesKept log client where
  connected := h.consistent.connected
  valid hvalid := (h.open_iff _).mpr ⟨hvalid, Or.inl rfl⟩
  active := h.consistent.active
  created before sock after hlog := by
    refine (closed_once_or_open hfresh h.closes hlog).imp_right ?_
    rintro ⟨hzero, hreopened, hopen⟩
    exact ⟨hzero, hreopened, ((h.open_iff sock).mp hopen).2⟩
  closed := h.closes

section Run
universe v
variable {σ : Type v} {layer : SocketLayer σ}

theorem accounted_run {client : DoIPClientContext} (hclosed : client.connection = .closed) (s : σ)
    (ops : List ClientOp) :
    NeverReissued (handleLog ((connectionMachine layer).trace (client, s) ops)) →
      Accounted (handleLog ((connectionMachine layer).trace (client, s) ops))
        ((connectionMachine layer).run (client, s) ops).1.connection := by
  refine Machine.induction (M := connectionMachine layer)
    (P := fun past c => NeverReissued (handleLog past) → Accounted (handleLog past) c.1.connection)
    (fun _ => hclosed ▸ accounted_closed) ?_ ops
  intro past c op ih hfresh
  rw [handleLog_concat] at hfresh ⊢
  exact accounted_step (clientCall_effect c.1 c.2 op) (ih hfresh.of_append) hfresh

/-- **Client resources.** Over any socket layer that never issues a handle which is still open, every
run of a client that was initialised keeps its sockets. -/
theorem client_resources (layer : SocketLayer σ) (s : σ) {inetPton : String → Option UInt32}
    {serverIp : String} {serverPort sourceAddress targetAddress : UInt16} {client : DoIPClientContext}
    (hinit : doipClientInit inetPton serverIp serverPort sourceAddress targetAddress = (client, 0))
    (ops : List ClientOp)
    (hfresh : NeverReissued (handleLog ((connectionMachine layer).trace (client, s) ops))) :
    ResourcesKept (handleLog ((connectionMachine layer).trace (client, s) ops))
      ((connectionMachine layer).run (client, s) ops).1 :=
  (accounted_run (doipClientInit_connection hinit) s ops hfresh).resourcesKept hfresh

end Run

/-- A layer that reuses two handles, and on which nothing ever arrives. -/
def silentLayer : SocketLayer Unit where
  stream := ⟨fun _ data => ((), data.length), fun _ _ => ((), .timeout), fun _ _ _ h => nomatch h⟩
  datagram _ := ⟨fun _ data => ((), data.length), fun _ _ => ((), .timeout), fun _ _ _ h => nomatch h⟩
  tcpSocket _ := ((), 3)
  udpSocket _ := ((), 4)
  connect _ _ _ _ := ((), 0)
  close _ _ := ()

/-- Both sockets opened and closed, and a second connection under the first handle. -/
theorem client_resources_reconnect :
    ResourcesKept [.opened 3, .opened 4, .closed 3, .closed 4, .opened 3]
      ((connectionMachine silentLayer).run
        ((doipClientInit (fun _ => some 0x0A00000A) "10.0.0.10" 0 0x0E00 0x0100).1, ())
        [.connect, .vehicleIdentification, .disconnect, .connect]).1 := by
  have hinit : doipClientInit (fun _ => some 0x0A00000A) "10.0.0.10" 0 0x0E00 0x0100 =
      ((doipClientInit (fun _ => some 0x0A00000A) "10.0.0.10" 0 0x0E00 0x0100).1, 0) := rfl
  have hlog : handleLog ((connectionMachine silentLayer).trace
      ((doipClientInit (fun _ => some 0x0A00000A) "10.0.0.10" 0 0x0E00 0x0100).1, ())
      [.connect, .vehicleIdentification, .disconnect, .connect]) =
        [.opened 3, .opened 4, .closed 3, .closed 4, .opened 3] := by decide +kernel
  have hkept := client_resources silentLayer () hinit [.connect, .vehicleIdentification, .disconnect, .connect]
  rw [hlog] at hkept
  apply hkept
  show NeverReissued ([] ++ [HandleEvent.opened (3 : Int)] ++ [HandleEvent.opened (4 : Int)] ++
    [HandleEvent.closed (3 : Int)] ++ [HandleEvent.closed (4 : Int)] ++ [HandleEvent.opened (3 : Int)])
  simp only [neverReissued_concat, neverReissued_nil, isOpen_opened, isOpen_closed, not_isOpen_nil]
  simp

end Mcus.Doip
