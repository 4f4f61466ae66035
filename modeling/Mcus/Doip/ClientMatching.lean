import Mcus.Doip.ClientStream
import Mcus.Foundations.Runs

/-! # Late answers

A receive that times out leaves the answer on the connection, and the call returns without it. The
next call takes the first response it comes upon, which is still the one of the earlier request.
-/

namespace Mcus.Doip
open ByteOrder Runs
set_option autoImplicit false

/-- The acknowledge and the response to one request, each short enough for one receive. -/
structure ServerAnswer where
  ackPayload : List UInt8
  uds : List UInt8
  ackFits : ackPayload.length + 8 ≤ doipMaxResponseSize
  udsFits : uds.length + 12 ≤ doipMaxResponseSize

/-- A connection on which messages wait in order; each receive is told whether the next one is late. -/
structure Fifo where
  pending : List (List UInt8)
  late : List Bool

/-- The server answers what is sent, and a receive brings one message, unless it is late. -/
def fifoStack (entity tester : UInt16) (answer : ServerAnswer) : TcpStack Fifo where
  send c data :=
    ({ c with pending := c.pending ++
      [wire diagnosticMessagePosAck answer.ackPayload, diagnosticResponse entity tester answer.uds] },
      data.length)
  recv c cap :=
    if c.late.getD 0 false then ({ c with late := c.late.tail }, .timeout)
    else (⟨(segmentStack.recv c.pending cap).1, c.late.tail⟩, (segmentStack.recv c.pending cap).2)
  recv_le := by
    intro c cap data h
    split at h
    case isTrue => cases h
    case isFalse => exact segmentStack.recv_le _ _ _ h

/-- A call of `doip_client_send_diagnostic`, the answer of the server to its request, and which of its
receives time out on a late message. The request lies in a 32-bit memory. -/
structure Call where
  udsRequest : List UInt8
  respCap : ℕ
  answer : ServerAnswer
  late : List Bool
  sized : udsRequest.length + 12 < 2 ^ 32

structure ClientConnection where
  client : DoIPClient
  pending : List (List UInt8)

/-- Calls of one client, one behind the other. -/
def clientMachine : Machine ClientConnection Call (Option DiagnosticAnswer) where
  step c call :=
    let r := doipClientSendDiagnostic (fifoStack c.client.targetAddress c.client.sourceAddress call.answer)
      c.client ⟨c.pending, call.late⟩ call.udsRequest call.respCap
    (⟨r.client, r.stack.pending⟩, r.result)

/-- What the call returns is the server's answer to its own request. -/
def Matches (call : Call) (result : Option DiagnosticAnswer) : Prop :=
  ∀ answer, result = some answer → answer = ⟨call.answer.uds, call.answer.uds.length⟩

/-- The UDS data of the first response that waits. -/
def firstWaiting (pending : List (List UInt8)) : Option (List UInt8) :=
  (pending.find? fun data => typeField data == diagnosticMessage).map (·.drop 12)

/-- The receives of a call that has something waiting do not all bring a message. -/
def TimesOut (pending : List (List UInt8)) (late : List Bool) : Prop :=
  late.getD 0 false = true ∨
    typeField (pending.headD []) = diagnosticMessagePosAck ∧ late.getD 1 false = true

/-- Nothing waits that would be taken for the answer: a response of an earlier request is not got in
time, does not fit the buffer of the caller, or says the same; or the call sends no request. -/
def NothingStale (c : ClientConnection) (call : Call) : Prop :=
  ∀ uds, firstWaiting c.pending = some uds → Ready c.client call.udsRequest →
    TimesOut c.pending call.late ∨ call.respCap < uds.length ∨ uds = call.answer.uds

/-! ## One call -/

section Step
variable {client : DoIPClient} {answer : ServerAnswer} {pending : List (List UInt8)} {late : List Bool}
  {entity tester : UInt16} {data : List UInt8}

theorem fifoStack_send (c : Fifo) (data : List UInt8) :
    ((fifoStack entity tester answer).send c data).1 = { c with pending := c.pending ++
      [wire diagnosticMessagePosAck answer.ackPayload, diagnosticResponse entity tester answer.uds] } ∧
      0 ≤ ((fifoStack entity tester answer).send c data).2 :=
  ⟨rfl, Int.natCast_nonneg _⟩

theorem fifoStack_recv_late (hlate : late.getD 0 false = true) :
    (fifoStack entity tester answer).recv ⟨pending, late⟩ doipMaxResponseSize =
      (⟨pending, late.tail⟩, .timeout) := if_pos hlate

theorem fifoStack_recv_cons (hlate : ¬ late.getD 0 false = true)
    (hsize : data.length ≤ doipMaxResponseSize) :
    (fifoStack entity tester answer).recv ⟨data :: pending, late⟩ doipMaxResponseSize =
      (⟨pending, late.tail⟩, .bytes data) := by
  have hrecv : segmentStack.recv (data :: pending) doipMaxResponseSize = (pending, .bytes data) :=
    if_pos hsize
  refine (if_neg hlate).trans ?_
  rw [hrecv]

theorem fifoStack_recv_nil :
    (fifoStack entity tester answer).recv ⟨[], late⟩ doipMaxResponseSize = (⟨[], late.tail⟩, .timeout) :=
  ite_self _

end Step

/-! ## What waits on the connection -/

/-- A response whose acknowledge was taken, perhaps, and whole answers behind it. -/
structure Waiting where
  first : Option ServerAnswer
  answers : List ServerAnswer

def ServerAnswer.messages (entity tester : UInt16) (answer : ServerAnswer) : List (List UInt8) :=
  [wire diagnosticMessagePosAck answer.ackPayload, diagnosticResponse entity tester answer.uds]

def Waiting.bytes (entity tester : UInt16) (w : Waiting) : List (List UInt8) :=
  (w.first.map fun answer => diagnosticResponse entity tester answer.uds).toList ++
    w.answers.flatMap (·.messages entity tester)

def stored (respCap : ℕ) (answer : ServerAnswer) : Option DiagnosticAnswer :=
  if respCap < answer.uds.length then none else some ⟨answer.uds, answer.uds.length⟩

/-- The receives of a call, on what waits. -/
def Waiting.receive (respCap : ℕ) (late : List Bool) (w : Waiting) : Waiting × Option DiagnosticAnswer :=
  if late.getD 0 false then (w, none)
  else
    match w.first, w.answers with
    | some answer, answers => (⟨none, answers⟩, stored respCap answer)
    | none, [] => (⟨none, []⟩, none)
    | none, answer :: answers =>
      if late.getD 1 false then (⟨some answer, answers⟩, none)
      else (⟨none, answers⟩, stored respCap answer)

theorem ServerAnswer.sizes (entity tester : UInt16) (answer : ServerAnswer) :
    (wire diagnosticMessagePosAck answer.ackPayload).length ≤ doipMaxResponseSize ∧
      (diagnosticResponse entity tester answer.uds).length ≤ doipMaxResponseSize ∧
      answer.ackPayload.length < 2 ^ 32 - 8 ∧ answer.uds.length < 2 ^ 32 - 12 := by
  have hmax : doipMaxResponseSize = 4096 := rfl
  have hack := answer.ackFits
  have huds := answer.udsFits
  have hwire : (wire diagnosticMessagePosAck answer.ackPayload).length = 8 + answer.ackPayload.length :=
    frame_length _ _ _
  have hresponse := diagnosticResponse_length entity tester answer.uds
  omega

/-- The client does with the bytes what is said of the messages. -/
theorem receiveDiagnostic_waiting {client : DoIPClient} (hsock : client.tcpSocket ≠ doipInvalidSocket)
    (answer : ServerAnswer) (late : List Bool) (respCap : ℕ) (w : Waiting) :
    ∃ buf late', receiveDiagnostic (fifoStack client.targetAddress client.sourceAddress answer) client
        ⟨w.bytes client.targetAddress client.sourceAddress, late⟩ respCap =
      ⟨{ client with rxBuffer := buf },
        ⟨(w.receive respCap late).1.bytes client.targetAddress client.sourceAddress, late'⟩,
        (w.receive respCap late).2⟩ := by
  unfold Waiting.receive
  by_cases hlate : late.getD 0 false = true
  · rw [if_pos hlate]
    exact ⟨_, _, receiveDiagnostic_fails respCap (receiveMessage_timeout hsock (fifoStack_recv_late hlate))⟩
  rw [if_neg hlate]
  obtain ⟨first, answers⟩ := w
  cases first with
  | some a =>
    obtain ⟨-, hsize, -, hlen⟩ := a.sizes client.targetAddress client.sourceAddress
    exact ⟨_, _, receiveDiagnostic_of_response respCap hsock hlen (fifoStack_recv_cons hlate hsize)⟩
  | none =>
    cases answers with
    | nil => exact ⟨_, _, receiveDiagnostic_fails respCap (receiveMessage_timeout hsock fifoStack_recv_nil)⟩
    | cons a answers =>
      obtain ⟨hackSize, hsize, hack, hlen⟩ := a.sizes client.targetAddress client.sourceAddress
      have hrecv : (fifoStack client.targetAddress client.sourceAddress answer).recv
          ⟨(Waiting.mk none (a :: answers)).bytes client.targetAddress client.sourceAddress, late⟩
          doipMaxResponseSize =
        (⟨(Waiting.mk (some a) answers).bytes client.targetAddress client.sourceAddress, late.tail⟩,
          .bytes (wire diagnosticMessagePosAck a.ackPayload)) := fifoStack_recv_cons hlate hackSize
      have hfirst := receiveDiagnostic_of_acknowledge respCap hsock hack hrecv
      have hsock' : (client.received (wire diagnosticMessagePosAck a.ackPayload)).tcpSocket ≠
          doipInvalidSocket := hsock
      have hshift : late.tail.getD 0 false = late.getD 1 false := by cases late <;> rfl
      by_cases hlate' : late.getD 1 false = true
      · simp only [hlate', if_true]
        exact ⟨_, _, hfirst.trans (receiveResponse_fails respCap
          (receiveMessage_timeout hsock' (fifoStack_recv_late (hshift.trans hlate'))))⟩
      · simp only [hlate']
        exact ⟨_, _, hfirst.trans (receiveResponse_of_response respCap hsock' hlen
          (fifoStack_recv_cons (hshift ▸ hlate') hsize))⟩

/-! ## Calls in a run -/

/-- The server has answered one more request. -/
def Waiting.enqueue (w : Waiting) (answer : ServerAnswer) : Waiting := ⟨w.first, w.answers ++ [answer]⟩

section Run
variable {c : ClientConnection} {call : Call} {w : Waiting}
  {past : List (Step ClientConnection Call (Option DiagnosticAnswer))}

/-- Whole answers wait on the connection, and perhaps a response before them. -/
def WaitsFor (c : ClientConnection) (w : Waiting) : Prop :=
  c.pending = w.bytes c.client.targetAddress c.client.sourceAddress

theorem step_ready (hw : WaitsFor c w) (hready : Ready c.client call.udsRequest) :
    WaitsFor (clientMachine.step c call).1
        ((w.enqueue call.answer).receive call.respCap call.late).1 ∧
      (clientMachine.step c call).2 = ((w.enqueue call.answer).receive call.respCap call.late).2 := by
  have hpending : c.pending ++ [wire diagnosticMessagePosAck call.answer.ackPayload,
      diagnosticResponse c.client.targetAddress c.client.sourceAddress call.answer.uds] =
        (w.enqueue call.answer).bytes c.client.targetAddress c.client.sourceAddress := by
    rw [hw]
    simp [Waiting.bytes, Waiting.enqueue, ServerAnswer.messages]
  have hsent := doipClientSendDiagnostic_ready hready call.respCap
    (@fifoStack_send call.answer c.client.targetAddress c.client.sourceAddress ⟨c.pending, call.late⟩)
  rw [hpending] at hsent
  obtain ⟨buf, late', hreceive⟩ := receiveDiagnostic_waiting hready.socket call.answer call.late call.respCap
    (w.enqueue call.answer)
  simp only [WaitsFor, clientMachine, hsent, hreceive, and_self]

theorem step_not_ready (hready : ¬ Ready c.client call.udsRequest) :
    clientMachine.step c call = (c, none) := by
  simp only [clientMachine, doipClientSendDiagnostic_not_ready hready _ call.sized]

theorem stored_matches_iff (respCap : ℕ) (waiting own : ServerAnswer) :
    (∀ answer, stored respCap waiting = some answer → answer = ⟨own.uds, own.uds.length⟩) ↔
      respCap < waiting.uds.length ∨ waiting.uds = own.uds := by
  unfold stored
  by_cases hroom : respCap < waiting.uds.length
  · simp [hroom]
  · simp only [hroom, if_false, false_or, Option.some.injEq, forall_eq', DiagnosticAnswer.mk.injEq]
    exact ⟨fun h => h.1, fun h => ⟨h, by rw [h]⟩⟩

theorem firstWaiting_response (entity tester : UInt16) (waiting : ServerAnswer)
    (answers : List ServerAnswer) :
    firstWaiting ((Waiting.mk (some waiting) answers).bytes entity tester) = some waiting.uds := by
  have htype : typeField (diagnosticResponse entity tester waiting.uds) = diagnosticMessage :=
    typeField_frame _ _ _
  have hdrop : (diagnosticResponse entity tester waiting.uds).drop 12 = waiting.uds := rfl
  simp [firstWaiting, Waiting.bytes, htype, hdrop]

theorem firstWaiting_answer (entity tester : UInt16) (waiting : ServerAnswer)
    (answers : List ServerAnswer) :
    firstWaiting ((Waiting.mk none (waiting :: answers)).bytes entity tester) = some waiting.uds := by
  have hack : typeField (wire diagnosticMessagePosAck waiting.ackPayload) = diagnosticMessagePosAck :=
    typeField_frame _ _ _
  have hne : diagnosticMessagePosAck ≠ diagnosticMessage := by decide
  have htype : typeField (diagnosticResponse entity tester waiting.uds) = diagnosticMessage :=
    typeField_frame _ _ _
  have hdrop : (diagnosticResponse entity tester waiting.uds).drop 12 = waiting.uds := rfl
  simp [firstWaiting, Waiting.bytes, ServerAnswer.messages, hack, hne, htype, hdrop]

theorem answer_matches_iff {late : List Bool} (respCap : ℕ) (waiting own : ServerAnswer)
    (answers : List ServerAnswer) (hlate : ¬ late.getD 0 false = true) :
    (∀ answer, ((Waiting.mk none (waiting :: answers)).receive respCap late).2 = some answer →
        answer = ⟨own.uds, own.uds.length⟩) ↔
      late.getD 1 false = true ∨ respCap < waiting.uds.length ∨ waiting.uds = own.uds := by
  rw [Waiting.receive, if_neg hlate, ← stored_matches_iff]
  by_cases hlate' : late.getD 1 false = true
  · simp only [hlate', if_true, true_or, iff_true]
    exact fun _ h => absurd h (Option.some_ne_none _).symm
  · simp only [hlate', Bool.false_eq_true, if_false, false_or]

theorem timesOut_response (entity tester : UInt16) (waiting : ServerAnswer) (answers : List ServerAnswer)
    {late : List Bool} (hlate : ¬ late.getD 0 false = true) :
    ¬ TimesOut ((Waiting.mk (some waiting) answers).bytes entity tester) late := by
  have htype : typeField (diagnosticResponse entity tester waiting.uds) = diagnosticMessage :=
    typeField_frame _ _ _
  rintro (h | ⟨hack, -⟩)
  · exact hlate h
  · exact absurd (htype.symm.trans hack) (by decide)

theorem timesOut_answer (entity tester : UInt16) (waiting : ServerAnswer) (answers : List ServerAnswer)
    {late : List Bool} (hlate : ¬ late.getD 0 false = true) :
    TimesOut ((Waiting.mk none (waiting :: answers)).bytes entity tester) late ↔
      late.getD 1 false = true := by
  have hack : typeField (wire diagnosticMessagePosAck waiting.ackPayload) = diagnosticMessagePosAck :=
    typeField_frame _ _ _
  constructor
  · rintro (h | ⟨-, h⟩)
    · exact absurd h hlate
    · exact h
  · exact fun h => Or.inr ⟨hack, h⟩

theorem matches_iff (hw : WaitsFor c w) :
    Matches call (clientMachine.step c call).2 ↔ NothingStale c call := by
  unfold Matches NothingStale
  by_cases hready : Ready c.client call.udsRequest
  · rw [(step_ready hw hready).2, hw]
    simp only [hready, forall_true_left]
    by_cases hlate : call.late.getD 0 false = true
    · rw [Waiting.receive, if_pos hlate]
      exact iff_of_true (fun _ h => absurd h (by simp)) fun _ _ => Or.inl (Or.inl hlate)
    obtain ⟨first, answers⟩ := w
    cases first with
    | some waiting =>
      have hreceive : (((Waiting.mk (some waiting) answers).enqueue call.answer).receive call.respCap
          call.late).2 = stored call.respCap waiting := by
        rw [Waiting.receive, if_neg hlate]
        rfl
      rw [hreceive, stored_matches_iff, firstWaiting_response]
      simp only [Option.some.injEq, forall_eq', timesOut_response _ _ waiting answers hlate, false_or]
    | none =>
      cases answers with
      | nil =>
        refine iff_of_true ?_ fun _ h => absurd h (by simp [firstWaiting, Waiting.bytes])
        exact (answer_matches_iff call.respCap call.answer call.answer [] hlate).mpr (Or.inr (Or.inr rfl))
      | cons waiting answers =>
        rw [firstWaiting_answer]
        simp only [Option.some.injEq, forall_eq', timesOut_answer _ _ waiting answers hlate]
        exact answer_matches_iff call.respCap waiting call.answer (answers ++ [call.answer]) hlate
  · rw [step_not_ready hready]
    simp [hready]

theorem waits_step (call : Call) (hw : ∃ w, WaitsFor c w) :
    ∃ w, WaitsFor (clientMachine.step c call).1 w := by
  obtain ⟨w, hw⟩ := hw
  by_cases hready : Ready c.client call.udsRequest
  · exact ⟨_, (step_ready hw hready).1⟩
  · rw [step_not_ready hready]
    exact ⟨w, hw⟩

end Run

/-- **Requests and responses.** In a run of calls over a connection that keeps the order, every call
that returns an answer returns the one to its own request exactly when no call comes upon a response
of an earlier one that it would take and that says something else. -/
theorem matching_iff (client : DoIPClient) (calls : List Call) :
    clientMachine.Admits (fun _ c call => Matches call (clientMachine.step c call).2) ⟨client, []⟩ calls ↔
      clientMachine.Admits (fun _ c call => NothingStale c call) ⟨client, []⟩ calls := by
  have hinit : WaitsFor ⟨client, []⟩ ⟨none, []⟩ := rfl
  apply Machine.admits_iff_of_invariant (P := fun _ c => ∃ w, WaitsFor c w)
  · exact ⟨_, hinit⟩
  · rintro past c call ⟨w, hw⟩
    exact matches_iff hw
  · intro past c call hw _
    exact waits_step call hw

/-- The first call asks whether the entity is there and times out, and the second one reads a data
identifier. -/
theorem late_answer_is_taken :
    ¬ clientMachine.Admits (fun _ c call => Matches call (clientMachine.step c call).2)
      ⟨activatedClient, []⟩
      [⟨[0x3E, 0x00], 256, ⟨[0x01, 0x00, 0x0E, 0x00, 0x00], [0x7E, 0x00], by decide, by decide⟩, [true],
          by decide⟩,
        ⟨[0x22, 0xF1, 0x95], 256, ⟨[0x01, 0x00, 0x0E, 0x00, 0x00], [0x62, 0xF1, 0x95, 0x31], by decide,
          by decide⟩, [], by decide⟩] := by
  intro h
  have hmatches := h [_] _ [] rfl ⟨[0x7E, 0x00], 2⟩ (by decide)
  exact absurd hmatches (by decide)

end Mcus.Doip
