import Mcus.Doip.ActivationAnswer
import Mcus.Doip.TlsSegments

/-! # A session of the simulator's client with the mbedTLS server

`TC375_DoIP_Client` and `DoIPHandler` over one TLS connection, in any order of their steps. The client waits
for an answer behind an activation request only, and reads whatever comes first. The server answers every
message it can, so echoes stay in the connection until another activation reads them. mbedTLS is a channel in
each direction, which is taken to keep records: a write is one record, and a read returns the front record as
far as it fits.
-/

namespace Mcus.Doip
open ByteOrder CString RecordLayer Runs
set_option autoImplicit false

universe v

/-! ## The client -/

namespace TC375DoipClient

/-- The packet of `send_diagnostic_message`. -/
def sendDiagnosticMessage (client : TC375DoipClient) (data : List UInt8) : Option (List UInt8) :=
  if !client.routingActivated then none
  else some (frame diagnosticMessage (UInt32.ofNat (4 + data.length))
    (beBytes16 client.sourceAddress ++ [0x00, 0x01] ++ data))

/-- `send_routing_activation` behind its read; `buf` is what `response` holds at first. -/
def acceptActivation (client : TC375DoipClient) (buf : CharArray 256) (read : ReadResult UInt8) :
    TC375DoipClient × Bool :=
  if read.ret < 8 then (client, false)
  else
    let response := filled buf read.data
    if typeField response = routingActivationRes then
      let resultCode := response.getD 12 0
      if resultCode = 0x10 then ({ client with routingActivated := true }, true)
      else (client, false)
    else (client, false)

theorem sendRoutingActivation_eq {σ : Type v} (ssl : RecordStack σ UInt8) (s : σ) {client : TC375DoipClient}
    {mbedtlsSslWrite : List UInt8 → Int} (hasks : client.Asks mbedtlsSslWrite) (buf : CharArray 256) :
    client.sendRoutingActivation ssl s mbedtlsSslWrite buf =
      ((ssl.read s 256).1, client.acceptActivation buf (ssl.read s 256).2) := by
  obtain ⟨hconnected, hwritten⟩ := hasks
  unfold sendRoutingActivation acceptActivation
  rw [hconnected, Bool.not_true, if_neg Bool.false_ne_true, if_neg (Int.not_lt.mpr hwritten)]
  dsimp only
  split
  · rfl
  · split
    · split <;> rfl
    · rfl

end TC375DoipClient

/-- What the client says. -/
inductive ClientMessage
  | activation
  | diagnostic (data : List UInt8)
  deriving DecidableEq, Repr

namespace ClientMessage

def packet (sourceAddress : UInt16) : ClientMessage → List UInt8
  | activation => frame routingActivationReq 7 (activationRequest sourceAddress)
  | diagnostic data => wire diagnosticMessage (beBytes16 sourceAddress ++ [0x00, 0x01] ++ data)

/-- What an activated server answers. -/
def reply (sourceAddress : UInt16) : ClientMessage → Option (List UInt8)
  | activation => some (wire routingActivationRes
      (beBytes16 sourceAddress ++ [0x00, 0x01, 0x10, 0x00, 0x00, 0x00, 0x00]))
  | diagnostic data =>
    if data = [] then none else some (wire diagnosticMessage ([0x00, 0x01] ++ beBytes16 sourceAddress ++ data))

theorem diagnostic_ne (data : List UInt8) : diagnostic data ≠ activation := by
  intro h
  cases h

end ClientMessage

/-! ## The connection -/

/-- Both ends, and the state of mbedTLS in each direction. -/
structure EchoLink (σ : Type v) where
  client : TC375DoipClient
  waiting : Bool
  toServer : σ
  server : DoIPHandler
  toClient : σ

/-- Behind the handshake. -/
def EchoLink.opened {σ : Type v} (sourceAddress : UInt16) (memory : List UInt8) (toServer toClient : σ) :
    EchoLink σ := ⟨⟨sourceAddress, true, false⟩, false, toServer, .init memory, toClient⟩

inductive LinkEvent
  | activate
  | diagnose (data : List UInt8)
  | serve
  | receive (buf : CharArray 256)

/-- What the client says, what the server writes, what the client reads and what its call returns. -/
structure LinkOutput where
  said : Option ClientMessage := none
  written : Option (List UInt8) := none
  read : Option (List UInt8) := none
  returned : Option Bool := none

/-- A call of a client that waits, a read from an empty connection and one behind the server's loop do not
happen. The server does not look at what its write returns. -/
def linkStep {σ : Type v} (tls : Channel σ UInt8) (s : EchoLink σ) : LinkEvent → EchoLink σ × LinkOutput
  | .activate =>
    if s.waiting then (s, {})
    else if !s.client.connected then (s, { returned := some false })
    else
      let (toServer, ret) := tls.write s.toServer
        (frame routingActivationReq 7 (activationRequest s.client.sourceAddress))
      if ret < 0 then ({ s with toServer := toServer }, { returned := some false })
      else ({ s with toServer := toServer, waiting := true }, { said := some .activation })
  | .diagnose data =>
    if s.waiting then (s, {})
    else
      match s.client.sendDiagnosticMessage data with
      | none => (s, { returned := some false })
      | some packet =>
        let (toServer, ret) := tls.write s.toServer packet
        if ret > 0 then
          ({ s with toServer := toServer }, { said := some (.diagnostic data), returned := some true })
        else ({ s with toServer := toServer }, { returned := some false })
  | .serve =>
    if s.server.status ≠ .running ∨ tls.records s.toServer = [] then (s, {})
    else
      let (toServer, read) := tls.read s.toServer 4096
      let (server, reply) := s.server.handle read.data
      ({ s with toServer := toServer, server := server, toClient := tls.writeAny s.toClient reply.written },
        { written := reply.written })
  | .receive buf =>
    if !s.waiting || (tls.records s.toClient).isEmpty then (s, {})
    else
      let (toClient, read) := tls.read s.toClient 256
      let (client, activated) := s.client.acceptActivation buf read
      ({ s with client := client, waiting := false, toClient := toClient },
        { read := some read.data, returned := some activated })

def echoMachine {σ : Type v} (tls : Channel σ UInt8) : Machine (EchoLink σ) LinkEvent LinkOutput :=
  ⟨linkStep tls⟩

abbrev LinkStep (σ : Type v) := Step (EchoLink σ) LinkEvent LinkOutput

section Histories
variable {σ : Type v}

def said (past : List (LinkStep σ)) : List ClientMessage := past.filterMap fun e => e.output.said
def writes (past : List (LinkStep σ)) : List (List UInt8) := past.filterMap fun e => e.output.written
def reads (past : List (LinkStep σ)) : List (List UInt8) := past.filterMap fun e => e.output.read

end Histories

/-! ## One message -/

namespace ClientMessage

/-- The message fits the buffers of both sides. -/
def Fits : ClientMessage → Prop
  | activation => True
  | diagnostic data => data.length ≤ 4084

variable {m : ClientMessage} {sourceAddress : UInt16}

theorem packet_activation : activation.packet sourceAddress =
    wire routingActivationReq (activationRequest sourceAddress) := by
  have hlen : (activationRequest sourceAddress).length = 7 := rfl
  rw [packet, wire, hlen]
  rfl

theorem wellFormed_packet (sourceAddress : UInt16) (hfits : m.Fits) : WellFormed (m.packet sourceAddress) := by
  cases m with
  | activation =>
    have hlen : (activationRequest sourceAddress).length = 7 := rfl
    rw [packet_activation]
    exact wellFormed_wire (Or.inl rfl) (by omega)
  | diagnostic data =>
    refine wellFormed_wire (Or.inr rfl) ?_
    have hfits : data.length ≤ 4084 := hfits
    simp only [beBytes16, List.length_append, List.length_cons, List.length_nil]
    omega

theorem packet_length (sourceAddress : UInt16) (hfits : m.Fits) : 8 ≤ (m.packet sourceAddress).length ∧
    (m.packet sourceAddress).length ≤ 4096 := by
  have hformed := wellFormed_packet sourceAddress hfits
  have hdeclared := hformed.declared
  exact ⟨by omega, hformed.fits⟩

theorem calls_activation (activated : Bool) : Calls activated (activation.packet sourceAddress) :=
  ⟨by rw [packet, frame_length]; omega, rfl, Or.inl ⟨typeField_frame _ _ _, by rw [packet, lengthField_frame]; decide⟩⟩

theorem lengthField_diagnostic (sourceAddress : UInt16) {data : List UInt8} (hfits : data.length ≤ 4084) :
    (lengthField ((diagnostic data).packet sourceAddress)).toNat = 4 + data.length := by
  have hlen : (beBytes16 sourceAddress ++ [0x00, 0x01] ++ data).length = 4 + data.length := by
    simp only [beBytes16, List.length_append, List.length_cons, List.length_nil]
  rw [packet, wire, lengthField_frame, lengthOf_toNat (by omega), hlen]

theorem calls_diagnostic_iff {data : List UInt8} (hfits : data.length ≤ 4084) :
    Calls true ((diagnostic data).packet sourceAddress) ↔ data ≠ [] := by
  have htype : typeField ((diagnostic data).packet sourceAddress) = diagnosticMessage := typeField_frame _ _ _
  rw [Calls, htype, lengthField_diagnostic sourceAddress hfits, ← List.length_pos_iff]
  constructor
  · rintro ⟨-, -, ⟨h, -⟩ | ⟨-, -, h⟩⟩
    · exact absurd h diagnostic_ne_activation
    · omega
  · intro hne
    exact ⟨by rw [packet, wire, frame_length]; omega, rfl, Or.inr ⟨rfl, rfl, by omega⟩⟩

theorem answer_activation : answer (activation.packet sourceAddress) = wire routingActivationRes
    (beBytes16 sourceAddress ++ [0x00, 0x01, 0x10, 0x00, 0x00, 0x00, 0x00]) := by
  have htype : typeField (activation.packet sourceAddress) = routingActivationReq := typeField_frame _ _ _
  have hword : word16 (((activation.packet sourceAddress).drop 8).getD 0 0)
      (((activation.packet sourceAddress).drop 8).getD 1 0) = sourceAddress := word16_bytes sourceAddress
  rw [answer, if_pos htype, hword]
  rfl

theorem answer_diagnostic {data : List UInt8} (hfits : data.length ≤ 4084) :
    answer ((diagnostic data).packet sourceAddress) =
      wire diagnosticMessage ([0x00, 0x01] ++ beBytes16 sourceAddress ++ data) := by
  have htype : typeField ((diagnostic data).packet sourceAddress) ≠ routingActivationReq := by
    rw [packet, wire, typeField_frame]
    exact diagnostic_ne_activation
  have hlength := lengthField_diagnostic sourceAddress hfits
  have h4 : (4 : UInt32).toNat = 4 := rfl
  have hfour : (4 : UInt32) ≤ lengthField ((diagnostic data).packet sourceAddress) :=
    UInt32.le_iff_toNat_le.mpr (by omega)
  have hdiag : (lengthField ((diagnostic data).packet sourceAddress) - 4).toNat = data.length := by
    rw [UInt32.toNat_sub_of_le _ _ hfour]
    omega
  have hsum : 4 + (lengthField ((diagnostic data).packet sourceAddress) - 4) =
      UInt32.ofNat ([0x00, 0x01] ++ beBytes16 sourceAddress ++ data).length := by
    apply UInt32.toNat_inj.mp
    have hlen : ([0x00, 0x01] ++ beBytes16 sourceAddress ++ data).length = 4 + data.length := by
      simp only [beBytes16, List.length_append, List.length_cons, List.length_nil]
    rw [UInt32.toNat_add, hdiag, lengthOf_toNat (by omega), hlen, h4]
    omega
  have hdata : (((diagnostic data).packet sourceAddress).drop 8).drop 4 = data := rfl
  rw [answer, if_neg htype, DoIPHandler.echo, hdata, hdiag, hsum, List.take_length]
  rfl

/-- Every activation is answered. -/
theorem count_activation_le (sourceAddress : UInt16) (messages : List ClientMessage) :
    messages.count activation ≤ (messages.filterMap (reply sourceAddress)).length := by
  induction messages with
  | nil => exact Nat.le_refl 0
  | cons m messages ih =>
    cases m with
    | activation =>
      have hcons : (activation :: messages).filterMap (reply sourceAddress) =
          wire routingActivationRes (beBytes16 sourceAddress ++ [0x00, 0x01, 0x10, 0x00, 0x00, 0x00, 0x00]) ::
            messages.filterMap (reply sourceAddress) := rfl
      rw [List.count_cons_self, hcons, List.length_cons]
      omega
    | diagnostic data =>
      have hne := diagnostic_ne data
      rw [List.count_cons_of_ne hne, List.filterMap_cons]
      split
      · exact ih
      · rw [List.length_cons]
        omega

end ClientMessage

section Serve
open ClientMessage
variable {h : DoIPHandler} {m : ClientMessage} {sourceAddress : UInt16}

theorem dispatched_packet (hrunning : h.status = .running) (hfits : m.Fits) :
    Dispatched h (m.packet sourceAddress) := by
  obtain ⟨hlow, hhigh⟩ := packet_length sourceAddress hfits
  have hall : (m.packet sourceAddress).take 4096 = m.packet sourceAddress := List.take_of_length_le hhigh
  refine ⟨hrunning, hall.symm ▸ hlow, ?_⟩
  rw [hall]
  exact (wellFormed_packet sourceAddress hfits).version.1

/-- The server takes the address of an activation and keeps it otherwise. -/
theorem sourceAddress_handle (sourceAddress : UInt16) (hrunning : h.status = .running) (hfits : m.Fits) :
    (h.handle (m.packet sourceAddress)).1.sourceAddress =
      if m = activation then sourceAddress else h.sourceAddress := by
  have hall : (m.packet sourceAddress).take 4096 = m.packet sourceAddress :=
    List.take_of_length_le (packet_length sourceAddress hfits).2
  rw [handle_of_dispatched (dispatched_packet hrunning hfits), hall]
  dsimp only
  cases m with
  | activation =>
    have htype : typeField (activation.packet sourceAddress) = routingActivationReq := typeField_frame _ _ _
    have hlength : lengthField (activation.packet sourceAddress) = 7 := lengthField_frame _ _ _
    have hseven : ¬ (7 : UInt32) < 7 := by decide
    rw [if_pos htype, if_pos rfl, hlength, DoIPHandler.handleRoutingActivation, if_neg hseven]
    exact word16_bytes sourceAddress
  | diagnostic data =>
    have htype : typeField ((diagnostic data).packet sourceAddress) = diagnosticMessage := typeField_frame _ _ _
    rw [htype, if_neg diagnostic_ne_activation, if_pos rfl, if_neg (diagnostic_ne data),
      DoIPHandler.handleDiagnosticMessage]
    repeat' split
    all_goals rfl

/-- A message in a read of its own is answered as it should be. -/
theorem handle_packet (sourceAddress : UInt16) (hrunning : h.status = .running) (hfits : m.Fits)
    (hactive : m ≠ activation → h.activated = true) :
    (h.handle (m.packet sourceAddress)).2.written = m.reply sourceAddress ∧
      (h.handle (m.packet sourceAddress)).1.status = .running ∧
      (h.handle (m.packet sourceAddress)).1.activated = true := by
  obtain ⟨hwritten, hstatus, hactivated⟩ := handle_frame hrunning (wellFormed_packet sourceAddress hfits)
  refine ⟨?_, hstatus, ?_⟩
  · rw [hwritten]
    cases m with
    | activation => rw [if_pos (calls_activation _), answer_activation, reply]
    | diagnostic data =>
      rw [hactive (diagnostic_ne data), reply]
      by_cases hdata : data = []
      · rw [if_neg (mt (calls_diagnostic_iff hfits).mp (not_not.mpr hdata)), if_pos hdata]
      · rw [if_pos ((calls_diagnostic_iff hfits).mpr hdata), if_neg hdata, answer_diagnostic hfits]
  · rw [hactivated]
    cases m with
    | activation =>
      have htype : typeField (activation.packet sourceAddress) = routingActivationReq := typeField_frame _ _ _
      rw [activatedBy_eq (wellFormed_packet sourceAddress hfits), decide_eq_true (calls_activation _), decide_eq_true htype,
        Bool.and_true, Bool.or_true]
    | diagnostic data => rw [hactive (diagnostic_ne data), activatedBy, Bool.true_or]

end Serve

/-! ## Any order of the steps -/

section Session
variable {σ : Type v}

/-- Client and server agree: the server has served the first messages of the client and the others are under
way, in order. -/
structure Agreement (tls : Channel σ UInt8) (sourceAddress : UInt16) (past : List (LinkStep σ)) (s : EchoLink σ)
    (served pending : List ClientMessage) : Prop where
  said : said past = served ++ pending
  flight : tls.records s.toServer = pending.map (ClientMessage.packet sourceAddress)
  answered : writes past = served.filterMap (ClientMessage.reply sourceAddress)
  delivered : (writes past).flatten = (reads past).flatten ++ tls.unread s.toClient
  fits : ∀ m ∈ served ++ pending, m.Fits
  running : s.server.status = .running
  address : s.client.sourceAddress = sourceAddress
  connected : s.client.connected = true
  active : .activation ∈ served → s.server.activated = true ∧ s.server.sourceAddress = sourceAddress
  activated : s.client.routingActivated = true → .activation ∈ served
  diagnosed : ∀ data, .diagnostic data ∈ served ++ pending → .activation ∈ served
  nonempty : ∀ record ∈ tls.records s.toClient, record ≠ []
  awaited : (Doip.said past).count .activation = (reads past).length + if s.waiting then 1 else 0
  left : (writes past).length ≤ (reads past).length + (tls.records s.toClient).length

section Steps
variable {tls : Channel σ UInt8} {sourceAddress : UInt16} {past : List (LinkStep σ)} {s : EchoLink σ}
  {served pending : List ClientMessage}

theorem said_concat (past : List (LinkStep σ)) (e : LinkStep σ) :
    said (past ++ [e]) = said past ++ e.output.said.toList := by
  rw [said, List.filterMap_append]
  cases hout : e.output.said <;> simp [said, hout]

theorem writes_concat (past : List (LinkStep σ)) (e : LinkStep σ) :
    writes (past ++ [e]) = writes past ++ e.output.written.toList := by
  rw [writes, List.filterMap_append]
  cases hout : e.output.written <;> simp [writes, hout]

theorem reads_concat (past : List (LinkStep σ)) (e : LinkStep σ) :
    reads (past ++ [e]) = reads past ++ e.output.read.toList := by
  rw [reads, List.filterMap_append]
  cases hout : e.output.read <;> simp [reads, hout]

/-- Neither end does anything. -/
theorem Agreement.idle (h : Agreement tls sourceAddress past s served pending) (event : LinkEvent)
    (returned : Option Bool) :
    Agreement tls sourceAddress (past ++ [⟨s, event, { returned := returned }, s⟩]) s served pending where
  said := by rw [said_concat, h.said, Option.toList_none, List.append_nil]
  flight := h.flight
  answered := by rw [writes_concat, h.answered, Option.toList_none, List.append_nil]
  delivered := by
    rw [writes_concat, reads_concat, Option.toList_none, List.append_nil, List.append_nil]
    exact h.delivered
  fits := h.fits
  running := h.running
  address := h.address
  connected := h.connected
  active := h.active
  activated := h.activated
  diagnosed := h.diagnosed
  nonempty := h.nonempty
  awaited := by
    rw [said_concat, reads_concat, Option.toList_none, Option.toList_none, List.append_nil, List.append_nil]
    exact h.awaited
  left := by
    rw [writes_concat, reads_concat, Option.toList_none, List.append_nil, List.append_nil]
    exact h.left

/-- The client writes a message. -/
theorem Agreement.say (h : Agreement tls sourceAddress past s served pending) (event : LinkEvent)
    {m : ClientMessage} {toServer : σ} (hfits : m.Fits) (hready : s.waiting = false)
    (hactive : m ≠ .activation → .activation ∈ served) {returned : Option Bool}
    (hwritten : tls.records toServer = tls.records s.toServer ++ [m.packet sourceAddress]) :
    let s' := { s with toServer := toServer, waiting := decide (m = .activation) }
    Agreement tls sourceAddress (past ++ [⟨s, event, { said := some m, returned := returned }, s'⟩]) s'
      served (pending ++ [m]) := by
  have hmem : ∀ m', m' ∈ served ++ (pending ++ [m]) → m' ∈ served ++ pending ∨ m' = m := by
    intro m' hm'
    rwa [← List.append_assoc, List.mem_append, List.mem_singleton] at hm'
  refine { h with said := ?_, flight := ?_, answered := ?_, delivered := ?_, fits := ?_, diagnosed := ?_,
                  awaited := ?_, left := ?_ }
  · rw [said_concat, h.said, Option.toList_some, List.append_assoc]
  · rw [hwritten, h.flight, List.map_append]
    rfl
  · rw [writes_concat, h.answered, Option.toList_none, List.append_nil]
  · rw [writes_concat, reads_concat, Option.toList_none, List.append_nil, List.append_nil]
    exact h.delivered
  · intro m' hm'
    rcases hmem m' hm' with hm' | rfl
    · exact h.fits m' hm'
    · exact hfits
  · intro data hm'
    rcases hmem _ hm' with hm' | rfl
    · exact h.diagnosed data hm'
    · exact hactive (ClientMessage.diagnostic_ne data)
  · have hawaited := h.awaited
    rw [hready] at hawaited
    rw [said_concat, reads_concat, Option.toList_some, Option.toList_none, List.append_nil, List.count_append, hawaited]
    by_cases hm : m = .activation <;> simp [hm]
  · rw [writes_concat, reads_concat, Option.toList_none, List.append_nil, List.append_nil]
    exact h.left

theorem reply_length (sourceAddress : UInt16) {m : ClientMessage} {reply : List UInt8}
    (hreply : reply ∈ (m.reply sourceAddress).toList) :
    reply ≠ [] ∧ (reply.length = 17 ∨ ∃ data, m = .diagnostic data ∧ reply.length = 12 + data.length) := by
  rw [Option.mem_toList] at hreply
  cases m with
  | activation =>
    cases hreply
    exact ⟨List.cons_ne_nil _ _, Or.inl (frame_length _ _ _)⟩
  | diagnostic data =>
    rw [ClientMessage.reply] at hreply
    split at hreply
    · cases hreply
    · cases hreply
      refine ⟨List.cons_ne_nil _ _, Or.inr ⟨data, rfl, ?_⟩⟩
      rw [wire, frame_length]
      simp only [beBytes16, List.length_append, List.length_cons, List.length_nil]
      omega

theorem reply_fits (sourceAddress : UInt16) {m : ClientMessage} (hfits : m.Fits) {reply : List UInt8}
    (hreply : reply ∈ (m.reply sourceAddress).toList) : reply ≠ [] ∧ reply.length ≤ 4096 := by
  obtain ⟨hne, hlen | ⟨data, rfl, hlen⟩⟩ := reply_length sourceAddress hreply
  · exact ⟨hne, by omega⟩
  · have hfits : data.length ≤ 4084 := hfits
    exact ⟨hne, by omega⟩

/-- The server handles the first message that is under way. -/
theorem Agreement.serve {m : ClientMessage} {toServer toClient : σ}
    (h : Agreement tls sourceAddress past s served (m :: pending)) (event : LinkEvent)
    (hleft : tls.records toServer = pending.map (ClientMessage.packet sourceAddress))
    (hwritten : tls.records toClient = tls.records s.toClient ++ (m.reply sourceAddress).toList) :
    let s' := { s with toServer := toServer,
                       server := (s.server.handle (m.packet sourceAddress)).1,
                       toClient := toClient }
    Agreement tls sourceAddress (past ++ [⟨s, event, { written := m.reply sourceAddress }, s'⟩]) s'
      (served ++ [m]) pending := by
  intro s'
  have hfits : m.Fits := h.fits m (by simp)
  have hknown : m ≠ .activation → .activation ∈ served := by
    intro hm
    cases m with
    | activation => exact absurd rfl hm
    | diagnostic data => exact h.diagnosed data (by simp)
  obtain ⟨-, hrunning, hactivated⟩ := handle_packet sourceAddress h.running hfits
    fun hm => (h.active (hknown hm)).1
  have haddress := sourceAddress_handle sourceAddress h.running hfits
  refine { said := ?_, flight := hleft, answered := ?_, delivered := ?_, fits := ?_, running := hrunning,
           address := h.address, connected := h.connected, active := ?_, activated := ?_, diagnosed := ?_,
           nonempty := ?_, awaited := ?_, left := ?_ }
  · rw [said_concat, h.said, Option.toList_none, List.append_nil, List.append_assoc]
    rfl
  · rw [writes_concat, h.answered, List.filterMap_append]
    cases hr : m.reply sourceAddress <;> simp [hr]
  · rw [writes_concat, reads_concat, Option.toList_none, List.append_nil, List.flatten_append, h.delivered,
      RecordStack.unread, RecordStack.unread, hwritten, List.flatten_append, List.append_assoc]
  · intro m' hm'
    exact h.fits m' (by simpa using hm')
  · intro hmem
    refine ⟨hactivated, ?_⟩
    rw [haddress]
    split
    · rfl
    · rename_i hm
      exact (h.active (hknown hm)).2
  · intro hclient
    exact List.mem_append_left _ (h.activated hclient)
  · intro data hm'
    exact List.mem_append_left _ (h.diagnosed data (by simpa using hm'))
  · intro record hrecord
    rw [hwritten] at hrecord
    rcases List.mem_append.mp hrecord with hrecord | hrecord
    · exact h.nonempty record hrecord
    · exact (reply_fits sourceAddress hfits hrecord).1
  · rw [said_concat, reads_concat, Option.toList_none, Option.toList_none, List.append_nil, List.append_nil]
    exact h.awaited
  · have hlengths := h.left
    rw [writes_concat, reads_concat, Option.toList_none, List.append_nil, List.length_append, hwritten,
      List.length_append]
    dsimp only
    omega

theorem acceptActivation_client (client : TC375DoipClient) (buf : CharArray 256) (read : ReadResult UInt8) :
    (client.acceptActivation buf read).1.sourceAddress = client.sourceAddress ∧
      (client.acceptActivation buf read).1.connected = client.connected := by
  unfold TC375DoipClient.acceptActivation
  dsimp only
  repeat' split
  all_goals exact ⟨rfl, rfl⟩

/-- The client reads from what the server has written. -/
theorem Agreement.receive {record : List UInt8} {records : List (List UInt8)} {toClient : σ}
    (h : Agreement tls sourceAddress past s served pending) (event : LinkEvent) (hwaiting : s.waiting = true)
    (hrecords : tls.records s.toClient = record :: records) (buf : CharArray 256)
    (hleft : tls.records toClient = if 256 < record.length then record.drop 256 :: records else records) :
    let accepted := s.client.acceptActivation buf (.elements (record.take 256))
    let s' := { s with client := accepted.1, waiting := false, toClient := toClient }
    Agreement tls sourceAddress
      (past ++ [⟨s, event, { read := some (record.take 256), returned := some accepted.2 }, s'⟩])
      s' served pending := by
  intro accepted s'
  obtain ⟨haddress, hconnected⟩ := acceptActivation_client s.client buf (.elements (record.take 256))
  have hflat : tls.unread s.toClient = record.take 256 ++ tls.unread toClient := by
    rw [RecordStack.unread, RecordStack.unread, hrecords, hleft]
    split
    · rw [List.flatten_cons, List.flatten_cons, ← List.append_assoc, List.take_append_drop]
    · rw [List.flatten_cons, List.take_of_length_le (by omega)]
  have hlen : (tls.records s.toClient).length ≤ (tls.records toClient).length + 1 := by
    rw [hrecords, hleft]
    split <;> simp
  have hanswered : .activation ∈ served := by
    have hne := h.nonempty record (by rw [hrecords]; exact List.mem_cons_self)
    have hwritten : writes past ≠ [] := by
      intro hnil
      have hdelivered := h.delivered
      rw [hnil, RecordStack.unread, hrecords, List.flatten_nil, List.flatten_cons] at hdelivered
      exact hne (List.append_eq_nil_iff.mp (List.append_eq_nil_iff.mp hdelivered.symm).2).1
    obtain ⟨m, hm⟩ := List.exists_mem_of_ne_nil served fun hnil => hwritten (by rw [h.answered, hnil]; rfl)
    cases m with
    | activation => exact hm
    | diagnostic data => exact h.diagnosed data (List.mem_append_left _ hm)
  refine { h with said := ?_, answered := ?_, delivered := ?_, address := haddress.trans h.address,
                  connected := hconnected.trans h.connected, activated := fun _ => hanswered,
                  nonempty := ?_, awaited := ?_, left := ?_ }
  · rw [said_concat, h.said, Option.toList_none, List.append_nil]
  · rw [writes_concat, h.answered, Option.toList_none, List.append_nil]
  · rw [writes_concat, reads_concat, Option.toList_none, List.append_nil, h.delivered, hflat, List.flatten_append]
    simp [s']
  · intro rest hrest
    have hall : ∀ r ∈ record :: records, r ≠ [] := hrecords ▸ h.nonempty
    rw [hleft] at hrest
    split at hrest
    · rename_i hlong
      rcases List.mem_cons.mp hrest with rfl | hrest
      · exact List.ne_nil_of_length_pos (by rw [List.length_drop]; omega)
      · exact hall rest (List.mem_cons_of_mem _ hrest)
    · exact hall rest (List.mem_cons_of_mem _ hrest)
  · have hawaited := h.awaited
    rw [hwaiting] at hawaited
    rw [said_concat, reads_concat, Option.toList_none, List.append_nil, hawaited]
    simp [s']
  · have hlengths := h.left
    rw [writes_concat, reads_concat, Option.toList_none, List.append_nil, Option.toList_some, List.length_append,
      List.length_singleton]
    change _ ≤ _ + (tls.records toClient).length
    omega

/-- What a step can do to two ends that agree. -/
inductive LinkEffect (tls : Channel σ UInt8) (sourceAddress : UInt16) (s : EchoLink σ)
    (pending : List ClientMessage) (event : LinkEvent) : EchoLink σ → LinkOutput → Prop
  | idle (returned : Option Bool) : LinkEffect tls sourceAddress s pending event s { returned := returned }
  | say (m : ClientMessage) (returned : Option Bool) (toServer : σ) (hready : s.waiting = false)
      (hactive : m ≠ .activation → s.client.routingActivated = true)
      (hsaid : ∀ data, m = .diagnostic data → event = .diagnose data)
      (hwritten : tls.records toServer = tls.records s.toServer ++ [m.packet sourceAddress]) :
      LinkEffect tls sourceAddress s pending event
        { s with toServer := toServer, waiting := decide (m = .activation) }
        { said := some m, returned := returned }
  | serve (m : ClientMessage) (rest : List ClientMessage) (toServer toClient : σ) (hpending : pending = m :: rest)
      (hleft : tls.records toServer = rest.map (ClientMessage.packet sourceAddress))
      (hwritten : tls.records toClient = tls.records s.toClient ++ (m.reply sourceAddress).toList) :
      LinkEffect tls sourceAddress s pending event
        { s with toServer := toServer,
                 server := (s.server.handle (m.packet sourceAddress)).1,
                 toClient := toClient }
        { written := m.reply sourceAddress }
  | receive (buf : CharArray 256) (record : List UInt8) (records : List (List UInt8)) (toClient : σ)
      (hwaiting : s.waiting = true) (hrecords : tls.records s.toClient = record :: records)
      (hleft : tls.records toClient = if 256 < record.length then record.drop 256 :: records else records) :
      LinkEffect tls sourceAddress s pending event
        { s with client := (s.client.acceptActivation buf (.elements (record.take 256))).1,
                 waiting := false, toClient := toClient }
        { read := some (record.take 256),
          returned := some (s.client.acceptActivation buf (.elements (record.take 256))).2 }

theorem effect_of_step {event : LinkEvent} {s' : EchoLink σ} {out : LinkOutput}
    (hstep : linkStep tls s event = (s', out)) (heffect : LinkEffect tls sourceAddress s pending event s' out) :
    ∃ s' out, (echoMachine tls).stepAt s event = ⟨s, event, out, s'⟩ ∧
      LinkEffect tls sourceAddress s pending event s' out := by
  have hstep : (echoMachine tls).step s event = (s', out) := hstep
  refine ⟨s', out, ?_, heffect⟩
  rw [Machine.stepAt, hstep]

/-- A message goes out whole. -/
theorem write_packet (htls : tls.KeepsRecords 4096) (sourceAddress : UInt16) (toServer : σ) {m : ClientMessage}
    (hfits : m.Fits) :
    tls.records (tls.write toServer (m.packet sourceAddress)).1 =
        tls.records toServer ++ [m.packet sourceAddress] ∧
      0 < (tls.write toServer (m.packet sourceAddress)).2 := by
  obtain ⟨hlow, hhigh⟩ := ClientMessage.packet_length sourceAddress hfits
  obtain ⟨hrecords, hret⟩ := htls.write toServer (m.packet sourceAddress)
    (List.ne_nil_of_length_pos (by omega)) hhigh
  exact ⟨hrecords, by rw [hret]; omega⟩

/-- A message comes in whole. -/
theorem read_packet (htls : tls.KeepsRecords 4096) {toServer : σ} {m : ClientMessage} (hfits : m.Fits)
    {records : List (List UInt8)} (hrecords : tls.records toServer = m.packet sourceAddress :: records) :
    (tls.read toServer 4096).2 = .elements (m.packet sourceAddress) ∧
      tls.records (tls.read toServer 4096).1 = records := by
  have hhigh := (ClientMessage.packet_length sourceAddress hfits).2
  have hread := htls.read toServer 4096 _ _ (by decide) hrecords
  have hleft := htls.records_read (n := 4096) (by decide) hrecords
  rw [List.take_of_length_le hhigh] at hread
  rw [if_neg (Nat.not_lt.mpr hhigh)] at hleft
  exact ⟨hread, hleft⟩

theorem Agreement.effect (htls : tls.KeepsRecords 4096) (h : Agreement tls sourceAddress past s served pending)
    {event : LinkEvent} (hfits : ∀ data, event = .diagnose data → data.length ≤ 4084) :
    ∃ s' out, (echoMachine tls).stepAt s event = ⟨s, event, out, s'⟩ ∧
      LinkEffect tls sourceAddress s pending event s' out := by
  cases event with
  | activate =>
    by_cases hwaiting : s.waiting = true
    · exact effect_of_step (if_pos hwaiting) (.idle none)
    · obtain ⟨hwritten, hret⟩ := write_packet htls sourceAddress s.toServer (m := .activation) trivial
      refine effect_of_step ?_ (.say .activation none _ (eq_false_of_ne_true hwaiting) (absurd rfl)
        (fun _ h => absurd h.symm (ClientMessage.diagnostic_ne _)) hwritten)
      rw [linkStep, if_neg hwaiting, h.connected, Bool.not_true, if_neg Bool.false_ne_true, h.address]
      exact if_neg (Int.not_lt.mpr (Int.le_of_lt hret))
  | diagnose data =>
    by_cases hwaiting : s.waiting = true
    · exact effect_of_step (if_pos hwaiting) (.idle none)
    · have hready := eq_false_of_ne_true hwaiting
      cases hactive : s.client.routingActivated with
      | false =>
        refine effect_of_step ?_ (.idle (some false))
        rw [linkStep, if_neg hwaiting, TC375DoipClient.sendDiagnosticMessage, hactive]
        rfl
      | true =>
        have hlen : (beBytes16 sourceAddress ++ [0x00, 0x01] ++ data).length = 4 + data.length := by
          simp only [beBytes16, List.length_append, List.length_cons, List.length_nil]
        obtain ⟨hwritten, hret⟩ := write_packet htls sourceAddress s.toServer (m := .diagnostic data)
          (hfits data rfl)
        refine effect_of_step ?_ (.say (.diagnostic data) (some true) _ hready (fun _ => hactive) ?_ hwritten)
        · rw [ClientMessage.packet, wire, hlen] at hret ⊢
          rw [linkStep, if_neg hwaiting, TC375DoipClient.sendDiagnosticMessage, hactive, h.address,
            decide_eq_false (ClientMessage.diagnostic_ne data), ← hready]
          exact if_pos hret
        · rintro _ ⟨⟩
          rfl
  | serve =>
    cases pending with
    | nil => exact effect_of_step (if_pos (Or.inr h.flight)) (.idle none)
    | cons m pending =>
      have hm : m.Fits := h.fits m (by simp)
      have hactive : m ≠ .activation → s.server.activated = true := by
        intro hne
        cases m with
        | activation => exact absurd rfl hne
        | diagnostic data => exact (h.active (h.diagnosed data (by simp))).1
      have hwritten := (handle_packet sourceAddress h.running hm hactive).1
      obtain ⟨hread, hleft⟩ := read_packet htls hm h.flight
      have hanswer := htls.records_writeAny s.toClient fun d hd => reply_fits sourceAddress hm hd
      have hbusy : ¬ (s.server.status ≠ .running ∨ tls.records s.toServer = []) := by
        rw [h.running, h.flight]
        simp
      refine effect_of_step ?_ (.serve m pending _ _ rfl hleft hanswer)
      rw [linkStep, if_neg hbusy]
      dsimp only
      rw [hread, ReadResult.data, hwritten]
  | receive buf =>
    by_cases hwaiting : s.waiting = true
    · cases hrecords : tls.records s.toClient with
      | nil =>
        refine effect_of_step ?_ (.idle none)
        rw [linkStep, hrecords, List.isEmpty_nil, Bool.or_true, if_pos rfl]
      | cons record records =>
        have hread : (tls.read s.toClient 256).2 = .elements (record.take 256) :=
          htls.read s.toClient 256 record records (by decide) hrecords
        have hleft := htls.records_read (n := 256) (by decide) hrecords
        have hbusy : ¬ (!s.waiting || (tls.records s.toClient).isEmpty) = true := by
          rw [hwaiting, hrecords]
          exact Bool.false_ne_true
        refine effect_of_step ?_ (.receive buf record records _ hwaiting hrecords hleft)
        rw [linkStep, if_neg hbusy]
        dsimp only
        rw [hread]
        rfl
    · refine effect_of_step ?_ (.idle none)
      rw [linkStep, eq_false_of_ne_true hwaiting, Bool.not_false, Bool.true_or, if_pos rfl]

/-- Any step keeps the agreement. -/
theorem Agreement.step (htls : tls.KeepsRecords 4096) (h : Agreement tls sourceAddress past s served pending)
    {event : LinkEvent} (hfits : ∀ data, event = .diagnose data → data.length ≤ 4084) :
    ∃ served' pending', Agreement tls sourceAddress (past ++ [(echoMachine tls).stepAt s event])
      ((echoMachine tls).stepAt s event).post served' pending' := by
  obtain ⟨s', out, hstep, heffect⟩ := h.effect htls hfits
  rw [hstep]
  cases heffect with
  | idle returned => exact ⟨served, pending, h.idle event returned⟩
  | say m returned toServer hready hactive hsaid hwritten =>
    have hm : m.Fits := by
      cases m with
      | activation => exact trivial
      | diagnostic data => exact hfits data (hsaid data rfl)
    exact ⟨served, pending ++ [m], h.say event hm hready (fun hne => h.activated (hactive hne)) hwritten⟩
  | serve m rest toServer toClient hpending hleft hwritten =>
    subst hpending
    exact ⟨served ++ [m], rest, h.serve event hleft hwritten⟩
  | receive buf record records toClient hwaiting hrecords hleft =>
    exact ⟨served, pending, h.receive event hwaiting hrecords buf hleft⟩

end Steps

/-- What both ends may rely on, whatever the order of the steps. -/
structure InSession (tls : Channel σ UInt8) (sourceAddress : UInt16) (past : List (LinkStep σ))
    (s : EchoLink σ) : Prop where
  /-- No message is lost, doubled or overtaken on its way to the server, and each is answered once, itself,
  unless it carries no data. -/
  served : ∃ served pending, said past = served ++ pending ∧
    tls.records s.toServer = pending.map (ClientMessage.packet sourceAddress) ∧
    writes past = served.filterMap (ClientMessage.reply sourceAddress)
  /-- Nor is an answer on its way back. -/
  delivered : (writes past).flatten = (reads past).flatten ++ tls.unread s.toClient
  /-- A client that takes its routing for active talks to a server that has activated it. -/
  activated : s.client.routingActivated = true →
    s.server.activated = true ∧ s.server.sourceAddress = sourceAddress
  contained : s.server.status = .running
  /-- A client that waits does not wait for ever. -/
  progress : s.waiting = true → tls.records s.toServer ≠ [] ∨ tls.records s.toClient ≠ []

variable {tls : Channel σ UInt8}

theorem Agreement.inSession {sourceAddress : UInt16} {past : List (LinkStep σ)} {s : EchoLink σ}
    {served pending : List ClientMessage} (h : Agreement tls sourceAddress past s served pending) :
    InSession tls sourceAddress past s where
  served := ⟨served, pending, h.said, h.flight, h.answered⟩
  delivered := h.delivered
  activated hactive := h.active (h.activated hactive)
  contained := h.running
  progress := by
    intro hwaiting
    by_contra hstuck
    obtain ⟨hserver, hclient⟩ := not_or.mp hstuck
    rw [not_not] at hserver hclient
    have hpending : pending = [] := List.map_eq_nil_iff.mp (h.flight.symm.trans hserver)
    have hawaited := h.awaited
    have hleft := h.left
    have hanswers := ClientMessage.count_activation_le sourceAddress served
    rw [h.said, hpending, List.append_nil, hwaiting, if_pos rfl] at hawaited
    rw [h.answered, hclient, List.length_nil] at hleft
    omega

/-- Nothing is under way at first. -/
theorem agreement_opened (sourceAddress : UInt16) (memory : List UInt8) {toServer toClient : σ}
    (hserver : tls.records toServer = []) (hclient : tls.records toClient = []) :
    Agreement tls sourceAddress [] (.opened sourceAddress memory toServer toClient) [] [] where
  said := rfl
  flight := hserver
  answered := rfl
  delivered := (congrArg List.flatten hclient).symm
  fits := fun _ hm => absurd hm List.not_mem_nil
  running := rfl
  address := rfl
  connected := rfl
  active := fun hm => absurd hm List.not_mem_nil
  activated := fun h => absurd h Bool.false_ne_true
  diagnosed := fun _ hm => absurd hm List.not_mem_nil
  nonempty := fun record hrecord => absurd (hclient ▸ hrecord : record ∈ []) List.not_mem_nil
  awaited := rfl
  left := Nat.zero_le _

/-- **Session.** Over channels that keep records, in any order of the steps of client and server, the server
serves the messages in the order in which they were said and answers each that carries data once, the answers
come back in order, the two sides agree on the activation, and an activation that waits is answered. -/
theorem echo_session_agrees (htls : tls.KeepsRecords 4096) (sourceAddress : UInt16) (memory : List UInt8)
    {toServer toClient : σ} (hserver : tls.records toServer = []) (hclient : tls.records toClient = [])
    (events : List LinkEvent) (hfits : ∀ data, .diagnose data ∈ events → data.length ≤ 4084) :
    InSession tls sourceAddress
      ((echoMachine tls).trace (.opened sourceAddress memory toServer toClient) events)
      ((echoMachine tls).run (.opened sourceAddress memory toServer toClient) events) := by
  suffices h : ∃ served pending, Agreement tls sourceAddress
      ((echoMachine tls).trace (.opened sourceAddress memory toServer toClient) events)
      ((echoMachine tls).run (.opened sourceAddress memory toServer toClient) events) served pending by
    obtain ⟨served, pending, h⟩ := h
    exact h.inSession
  induction events using List.reverseRecOn with
  | nil => exact ⟨[], [], agreement_opened sourceAddress memory hserver hclient⟩
  | append_singleton events event ih =>
    obtain ⟨served, pending, h⟩ := ih fun data hdata => hfits data (List.mem_append_left _ hdata)
    rw [Machine.trace_concat, Machine.run_concat, ← Machine.stepAt_post]
    refine h.step htls fun data hevent => hfits data ?_
    rw [hevent]
    exact List.mem_append_right _ (List.mem_singleton_self _)

end Session

/-- A connection over channels that keep the records whole, with nothing written yet. -/
def openedWhole : EchoLink (Cut UInt8) :=
  .opened 0x0E80 [] ⟨[], fun _ h => absurd h List.not_mem_nil⟩ ⟨[], fun _ h => absurd h List.not_mem_nil⟩

/-- The client asks, the server answers, the client reads, and a diagnostic message follows. -/
theorem echo_session_agrees_diagnostic : InSession (wholeChannel UInt8) 0x0E80
    ((echoMachine (wholeChannel UInt8)).trace openedWhole
      [.activate, .serve, .receive (constBuffer 256 0), .diagnose [0x10, 0x01]])
    ((echoMachine (wholeChannel UInt8)).run openedWhole
      [.activate, .serve, .receive (constBuffer 256 0), .diagnose [0x10, 0x01]]) :=
  echo_session_agrees (wholeChannel_keepsRecords 4096) 0x0E80 [] rfl rfl _ (by simp)

/-! ## What an activation reads -/

section Whole
open ClientMessage
variable {σ : Type v}

/-- What the activations returned that read an answer. -/
def activationResults (past : List (LinkStep σ)) : List Bool :=
  past.filterMap fun e => e.output.read.bind fun _ => e.output.returned

/-- Answers are read whole. -/
structure ReadWhole (tls : Channel σ UInt8) (past : List (LinkStep σ)) (s : EchoLink σ) : Prop where
  split : writes past = reads past ++ tls.records s.toClient
  short : ∀ record ∈ tls.records s.toClient, record.length ≤ 256
  results : activationResults past = (reads past).map fun record => decide (typeField record = routingActivationRes)
  said : ∀ data, .diagnostic data ∈ Doip.said past → data.length ≤ 244

variable {tls : Channel σ UInt8} {sourceAddress : UInt16} {past : List (LinkStep σ)} {s : EchoLink σ}
  {served pending : List ClientMessage} {m : ClientMessage} {record : List UInt8}

theorem typeField_reply (hreply : m.reply sourceAddress = some record) : 8 ≤ record.length ∧
    decide (typeField record = routingActivationRes) = decide (m = activation) := by
  cases m with
  | activation =>
    cases hreply
    refine ⟨by rw [wire, frame_length]; omega, ?_⟩
    rw [wire, typeField_frame, decide_eq_true rfl, decide_eq_true rfl]
  | diagnostic data =>
    rw [reply] at hreply
    split at hreply
    · cases hreply
    · cases hreply
      have hne : diagnosticMessage ≠ routingActivationRes := by decide
      refine ⟨by rw [wire, frame_length]; omega, ?_⟩
      rw [wire, typeField_frame, decide_eq_false hne, decide_eq_false (diagnostic_ne data)]

theorem acceptActivation_reply (client : TC375DoipClient) (buf : CharArray 256)
    (hreply : m.reply sourceAddress = some record) : (client.acceptActivation buf (.elements record)).2 =
      decide (typeField record = routingActivationRes) := by
  obtain ⟨hlen, htype⟩ := typeField_reply hreply
  have hsame : typeField (filled buf record) = typeField record := typeField_append _ hlen
  have hret : ¬ (ReadResult.elements record).ret < 8 := by
    simp only [ReadResult.ret]
    omega
  rw [TC375DoipClient.acceptActivation, if_neg hret]
  simp only [ReadResult.data, hsame]
  by_cases hactivation : typeField record = routingActivationRes
  · rw [decide_eq_true hactivation] at htype ⊢
    obtain rfl : m = activation := of_decide_eq_true htype.symm
    cases hreply
    rw [if_pos hactivation]
    have hcode := @filled_getD_of_lt 256 buf (wire routingActivationRes
      (beBytes16 sourceAddress ++ [0x00, 0x01, 0x10, 0x00, 0x00, 0x00, 0x00])) 12 (by
        rw [wire, frame_length]
        exact (by decide : 12 < 8 + 9))
    exact congrArg Prod.snd (if_pos hcode)
  · rw [if_neg hactivation, decide_eq_false hactivation]

theorem results_concat (past : List (LinkStep σ)) (e : LinkStep σ) : activationResults (past ++ [e]) =
    activationResults past ++ (e.output.read.bind fun _ => e.output.returned).toList := by
  rw [activationResults, List.filterMap_append]
  cases hout : e.output.read.bind fun _ => e.output.returned <;> simp [activationResults, hout]

/-- A step that neither writes nor reads. -/
theorem ReadWhole.split_silent (h : ReadWhole tls past s) {e : LinkStep σ} (hwritten : e.output.written = none)
    (hread : e.output.read = none) : writes (past ++ [e]) = reads (past ++ [e]) ++ tls.records s.toClient := by
  rw [writes_concat, reads_concat, hwritten, hread, Option.toList_none, List.append_nil, List.append_nil]
  exact h.split

theorem ReadWhole.results_silent (h : ReadWhole tls past s) {e : LinkStep σ} (hread : e.output.read = none) :
    activationResults (past ++ [e]) =
      (reads (past ++ [e])).map fun record => decide (typeField record = routingActivationRes) := by
  rw [results_concat, reads_concat, hread, Option.bind_none, Option.toList_none, Option.toList_none, List.append_nil,
    List.append_nil]
  exact h.results

theorem ReadWhole.step (htls : tls.KeepsRecords 4096) (h : ReadWhole tls past s)
    (hagrees : Agreement tls sourceAddress past s served pending) {event : LinkEvent}
    (hshort : ∀ data, event = .diagnose data → data.length ≤ 244) :
    ReadWhole tls (past ++ [(echoMachine tls).stepAt s event]) ((echoMachine tls).stepAt s event).post := by
  obtain ⟨s', out, hstep, heffect⟩ := hagrees.effect htls fun data hdata => (hshort data hdata).trans (by decide)
  rw [hstep]
  cases heffect with
  | idle returned =>
    refine ⟨h.split_silent rfl rfl, h.short, h.results_silent rfl, ?_⟩
    · rw [said_concat, Option.toList_none, List.append_nil]
      exact h.said
  | say m returned toServer _ _ hsaid =>
    refine ⟨h.split_silent rfl rfl, h.short, h.results_silent rfl, ?_⟩
    · intro data hdata
      rw [said_concat, Option.toList_some] at hdata
      rcases List.mem_append.mp hdata with hdata | hdata
      · exact h.said data hdata
      · exact hshort data (hsaid data (List.mem_singleton.mp hdata).symm)
  | serve m rest toServer toClient hpending _ hwritten =>
    refine ⟨?_, ?_, h.results_silent rfl, ?_⟩
    · rw [writes_concat, reads_concat, Option.toList_none, List.append_nil, h.split, hwritten, List.append_assoc]
    · intro record hrecord
      rw [hwritten] at hrecord
      rcases List.mem_append.mp hrecord with hrecord | hrecord
      · exact h.short record hrecord
      · obtain ⟨-, hlen | ⟨data, rfl, hlen⟩⟩ := reply_length sourceAddress hrecord
        · omega
        · have hsaid : .diagnostic data ∈ Doip.said past := by
            rw [hagrees.said, hpending]
            simp
          have hdata := h.said data hsaid
          omega
    · rw [said_concat, Option.toList_none, List.append_nil]
      exact h.said
  | receive buf record records toClient hwaiting hrecords hleft =>
    have hshort : record.length ≤ 256 := h.short record (by rw [hrecords]; exact List.mem_cons_self)
    rw [if_neg (Nat.not_lt.mpr hshort)] at hleft
    have hwritten : record ∈ writes past := by
      rw [h.split, hrecords]
      simp
    rw [hagrees.answered] at hwritten
    obtain ⟨m, -, hreply⟩ := List.mem_filterMap.mp hwritten
    rw [List.take_of_length_le hshort]
    refine ⟨?_, ?_, ?_, ?_⟩
    · rw [writes_concat, reads_concat, Option.toList_none, List.append_nil, h.split, hrecords, Option.toList_some,
        List.append_assoc, hleft]
      rfl
    · intro r hr
      rw [hleft] at hr
      exact h.short r (by rw [hrecords]; exact List.mem_cons_of_mem _ hr)
    · rw [results_concat, reads_concat, Option.toList_some, List.map_append, h.results, Option.bind_some,
        acceptActivation_reply s.client buf hreply]
      rfl
    · rw [said_concat, Option.toList_none, List.append_nil]
      exact h.said

theorem types_of_replies (messages : List ClientMessage) :
    (messages.filterMap (reply sourceAddress)).map (fun record => decide (typeField record = routingActivationRes)) =
      (messages.filter fun m => (m.reply sourceAddress).isSome).map fun m => decide (m = activation) := by
  induction messages with
  | nil => rfl
  | cons m messages ih =>
    cases hreply : m.reply sourceAddress with
    | none => simp [hreply, ih]
    | some record => simp [hreply, ih, (typeField_reply hreply).2]

/-- **Unread echoes.** Over channels that keep records, with echoes that fit one read, an activation returns
what the oldest answer says that nobody has read: the `k`-th of them succeeds exactly if the `k`-th message that
was answered is an activation. -/
theorem activations_read_oldest (htls : tls.KeepsRecords 4096) (sourceAddress : UInt16) (memory : List UInt8)
    {toServer toClient : σ} (hserver : tls.records toServer = []) (hclient : tls.records toClient = [])
    (events : List LinkEvent) (hshort : ∀ data, .diagnose data ∈ events → data.length ≤ 244) :
    let past := (echoMachine tls).trace (.opened sourceAddress memory toServer toClient) events
    ∃ served pending, said past = served ++ pending ∧ activationResults past =
      ((served.filter fun m => (m.reply sourceAddress).isSome).take (reads past).length).map
        fun m => decide (m = .activation) := by
  intro past
  suffices h : ∃ served pending, Agreement tls sourceAddress past
      ((echoMachine tls).run (.opened sourceAddress memory toServer toClient) events) served pending ∧
      ReadWhole tls past ((echoMachine tls).run (.opened sourceAddress memory toServer toClient) events) by
    obtain ⟨served, pending, hagrees, hwhole⟩ := h
    refine ⟨served, pending, hagrees.said, ?_⟩
    have hreads : reads past = (writes past).take (reads past).length := by
      rw [hwhole.split, List.take_left]
    rw [hwhole.results, List.map_take, ← types_of_replies, ← hagrees.answered, ← List.map_take, ← hreads]
  induction events using List.reverseRecOn with
  | nil =>
    refine ⟨[], [], agreement_opened sourceAddress memory hserver hclient, ?_⟩
    exact ⟨hclient.symm, fun _ h => absurd (hclient ▸ h : _ ∈ []) List.not_mem_nil, rfl,
      fun _ h => absurd h List.not_mem_nil⟩
  | append_singleton events event ih =>
    obtain ⟨served, pending, hagrees, hwhole⟩ := ih fun data hdata => hshort data (List.mem_append_left _ hdata)
    have hevent : ∀ data, event = .diagnose data → data.length ≤ 244 := fun data hevent =>
      hshort data (by rw [hevent]; exact List.mem_append_right _ (List.mem_singleton_self _))
    obtain ⟨served', pending', hagrees'⟩ := hagrees.step htls fun data h => (hevent data h).trans (by decide)
    have hwhole' := hwhole.step htls hagrees hevent
    refine ⟨served', pending', ?_⟩
    rw [show past = _ from Machine.trace_concat _ _ _ _, Machine.run_concat, ← Machine.stepAt_post]
    exact ⟨hagrees', hwhole'⟩

end Whole

/-- An activation behind the echo of a diagnostic message. -/
def repeatedActivation : List LinkEvent :=
  [.activate, .serve, .receive (constBuffer 256 0), .diagnose [0x10, 0x01], .serve, .activate, .serve,
    .receive (constBuffer 256 0)]

theorem activations_read_oldest_repeated :
    let past := (echoMachine (wholeChannel UInt8)).trace openedWhole repeatedActivation
    ∃ served pending, said past = served ++ pending ∧ activationResults past =
      ((served.filter fun m => (m.reply 0x0E80).isSome).take (reads past).length).map
        fun m => decide (m = .activation) :=
  activations_read_oldest (wholeChannel_keepsRecords 4096) 0x0E80 [] rfl rfl repeatedActivation
    (by simp [repeatedActivation])

example : activationResults ((echoMachine (wholeChannel UInt8)).trace openedWhole repeatedActivation) =
    [true, false] := by decide +kernel

end Mcus.Doip
