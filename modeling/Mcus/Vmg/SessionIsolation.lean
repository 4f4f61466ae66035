import Mcus.Doip.Sessions
import Mcus.Vmg.UdsService

/-! # Clients of one UDS handler

The gateway registers one handler, and its security state has no session: an unlock, a default
session and a failed key count for every client. The answer to a client is compared with the one it
would have got alone, from the run of its own messages.
-/

namespace Mcus.Vmg
open ByteOrder Runs Mcus.Doip
set_option autoImplicit false

universe w
variable {ι : Type w} [DecidableEq ι] (logicalAddress : UInt16) (data : EcuData)

/-- The server with the one handler registered. -/
abbrev gateway : Machine (DoIPServer ι UDSServiceHandler) (Incoming ι RandomSeed) Handled :=
  serverMachine logicalAddress (some UDSServiceHandler.processRequest)

abbrev GatewayStep (ι : Type w) := Step (DoIPServer ι UDSServiceHandler) (Incoming ι RandomSeed) Handled

abbrev initial : DoIPServer ι UDSServiceHandler := .init (.construct data)

/-- The gateway as it were with the messages of one client only. -/
def alone (client : ι) (past : List (GatewayStep ι)) : DoIPServer ι UDSServiceHandler :=
  (gateway logicalAddress).runAlone (·.client) client (initial data) past

def udsRequest (msg : DoIPMessage) : List UInt8 := msg.payloadData.drop 4

/-- A diagnostic message is among the messages sent, and begins with a positive answer. -/
def AnswersPositively (sid : UInt8) (handled : Handled) : Prop :=
  ∃ msg ∈ handled.sent, msg.header.payloadType = diagnosticMessage ∧
    (udsRequest msg).head? = some (sid + 0x40)

instance (sid : UInt8) (handled : Handled) : Decidable (AnswersPositively sid handled) :=
  inferInstanceAs (Decidable (∃ msg ∈ handled.sent, _ ∧ _))

/-- A diagnostic message of the kind, answered positively. -/
def Succeeds (sid : UInt8) (kind : List UInt8 → Prop) (msg : DoIPMessage) (handled : Handled) : Prop :=
  msg.header.payloadType = diagnosticMessage ∧ kind (udsRequest msg) ∧ AnswersPositively sid handled

instance (sid : UInt8) (kind : List UInt8 → Prop) [DecidablePred kind] (msg : DoIPMessage)
    (handled : Handled) : Decidable (Succeeds sid kind msg handled) :=
  inferInstanceAs (Decidable (_ ∧ _ ∧ _))

def Writes (request : List UInt8) : Prop := request.getD 0 0 = Sid.writeDataByIdentifier

instance : DecidablePred Writes := fun _ => inferInstanceAs (Decidable (_ = _))
instance : DecidablePred UDSServiceHandler.SendsKey := fun _ => inferInstanceAs (Decidable (_ ∧ _))
instance : DecidablePred UDSServiceHandler.EntersDefault := fun _ => inferInstanceAs (Decidable (_ ∧ _))

/-- A SendKey that was accepted. -/
def acceptsKey (e : GatewayStep ι) : Bool :=
  decide (Succeeds Sid.securityAccess UDSServiceHandler.SendsKey e.input.msg e.output)

/-- The default session was entered. -/
def entersDefault (e : GatewayStep ι) : Bool :=
  decide (Succeeds Sid.diagnosticSessionControl UDSServiceHandler.EntersDefault e.input.msg e.output)

/-- Sessions that have nothing to do with each other: a write needs a key of the same client, and
every answer is the one that the client would get alone. -/
structure Isolated (past : List (GatewayStep ι)) (i : Incoming ι RandomSeed) (handled : Handled) :
    Prop where
  write : Succeeds Sid.writeDataByIdentifier Writes i.msg handled →
    ∃ e ∈ past, e.input.client = i.client ∧ acceptsKey e = true
  answers : handled.sent = ((gateway logicalAddress).step (alone logicalAddress data i.client past) i).2.sent

/-- Sessions that share the security state: a write needs a key of any client behind the last entry
of any client into the default session, and an answer is the one that the client would get alone
exactly when the shared security state agrees with its own on what the request reads. -/
structure SharesSecurity (past : List (GatewayStep ι)) (server : DoIPServer ι UDSServiceHandler)
    (i : Incoming ι RandomSeed) (handled : Handled) : Prop where
  write : Succeeds Sid.writeDataByIdentifier Writes i.msg handled →
    MarkedSince entersDefault acceptsKey past
  answers : handled.sent =
      ((gateway logicalAddress).step (alone logicalAddress data i.client past) i).2.sent ↔
    (i.msg.header.payloadType = diagnosticMessage →
      server.uds.ReadsAlike (alone logicalAddress data i.client past).uds (udsRequest i.msg))

/-! ## A message at the gateway -/

section Step
variable {logicalAddress data} {server other : DoIPServer ι UDSServiceHandler} {i : Incoming ι RandomSeed}
  {past : List (GatewayStep ι)}

theorem uds_of_diagnostic (htype : i.msg.header.payloadType = diagnosticMessage) :
    ((gateway logicalAddress).step server i).1.uds =
      (server.uds.processRequest i.surroundings (udsRequest i.msg)).1 := by
  rw [(step_of_diagnostic htype).1, handleDiagnosticMessage]
  by_cases hlen : i.msg.payloadData.length < 4
  · have hempty : udsRequest i.msg = [] := List.drop_eq_nil_of_le hlen.le
    rw [if_pos hlen, hempty]
    rfl
  · rw [if_neg hlen]
    rfl

theorem uds_of_other (htype : i.msg.header.payloadType ≠ diagnosticMessage) :
    ((gateway logicalAddress).step server i).1.uds = server.uds := by
  simp only [serverMachine, handleTCPMessage, htype, if_false]
  split_ifs <;> rfl

theorem sent_of_diagnostic (htype : i.msg.header.payloadType = diagnosticMessage)
    (hlen : 4 ≤ i.msg.payloadData.length) :
    ((gateway logicalAddress).step server i).2.sent =
      [doIPMessage diagnosticMessagePosAck (beBytes16 i.msg.source ++ beBytes16 i.msg.target ++ [0x00]),
        doIPMessage diagnosticMessage (beBytes16 i.msg.target ++ beBytes16 i.msg.source ++
          (server.uds.processRequest i.surroundings (udsRequest i.msg)).2)] := by
  rw [(step_of_diagnostic htype).2, handleDiagnosticMessage, if_neg (Nat.not_lt.mpr hlen)]
  rfl

theorem sent_of_short (htype : i.msg.header.payloadType = diagnosticMessage)
    (hlen : i.msg.payloadData.length < 4) :
    ((gateway logicalAddress).step server i).2.sent = [doIPMessage diagnosticMessageNegAck []] := by
  rw [(step_of_diagnostic htype).2, handleDiagnosticMessage, if_pos hlen]

theorem sent_of_other (htype : i.msg.header.payloadType ≠ diagnosticMessage) :
    ((gateway logicalAddress).step server i).2.sent = ((gateway logicalAddress).step other i).2.sent := by
  simp only [serverMachine, handleTCPMessage, htype, if_false, handleRoutingActivationReq]
  split_ifs <;> rfl

theorem answersPositively_iff {sid : UInt8} (htype : i.msg.header.payloadType = diagnosticMessage)
    (hlen : 4 ≤ i.msg.payloadData.length) :
    AnswersPositively sid ((gateway logicalAddress).step server i).2 ↔
      (server.uds.processRequest i.surroundings (udsRequest i.msg)).2.head? = some (sid + 0x40) := by
  have hack : diagnosticMessagePosAck ≠ diagnosticMessage := by decide
  unfold AnswersPositively
  rw [sent_of_diagnostic htype hlen]
  simp [doIPMessage, udsRequest, beBytes16, hack, List.head?_eq_getElem?]

theorem succeeds_iff {sid : UInt8} {kind : List UInt8 → Prop} (hempty : ¬ kind []) :
    Succeeds sid kind i.msg ((gateway logicalAddress).step server i).2 ↔
      i.msg.header.payloadType = diagnosticMessage ∧ kind (udsRequest i.msg) ∧
        (server.uds.processRequest i.surroundings (udsRequest i.msg)).2.head? = some (sid + 0x40) := by
  refine and_congr_right fun htype => and_congr_right fun hkind => answersPositively_iff htype ?_
  by_contra hlen
  have hnil : udsRequest i.msg = [] := List.drop_eq_nil_of_le (Nat.le_of_not_le hlen)
  rw [hnil] at hkind
  exact hempty hkind

theorem acceptsKey_iff :
    acceptsKey ((gateway logicalAddress).stepAt server i) = true ↔
      i.msg.header.payloadType = diagnosticMessage ∧
        UDSServiceHandler.SendsKey (udsRequest i.msg) ∧ server.uds.Fits (udsRequest i.msg) := by
  unfold acceptsKey
  rw [decide_eq_true_iff]
  refine (succeeds_iff (by decide)).trans (and_congr_right fun _ => and_congr_right fun hsends => ?_)
  exact UDSServiceHandler.key_positive_iff hsends

theorem entersDefault_iff :
    entersDefault ((gateway logicalAddress).stepAt server i) = true ↔
      i.msg.header.payloadType = diagnosticMessage ∧
        UDSServiceHandler.EntersDefault (udsRequest i.msg) := by
  unfold entersDefault
  rw [decide_eq_true_iff]
  refine (succeeds_iff (by decide)).trans (and_congr_right fun _ => and_iff_left_of_imp fun henters => ?_)
  exact UDSServiceHandler.default_positive henters

theorem sent_eq_iff (hdata : server.uds.data = other.uds.data) :
    ((gateway logicalAddress).step server i).2.sent = ((gateway logicalAddress).step other i).2.sent ↔
      (i.msg.header.payloadType = diagnosticMessage →
        server.uds.ReadsAlike other.uds (udsRequest i.msg)) := by
  by_cases htype : i.msg.header.payloadType = diagnosticMessage
  · have hanswer : (server.uds.processRequest i.surroundings (udsRequest i.msg)).2 =
        (other.uds.processRequest i.surroundings (udsRequest i.msg)).2 ↔ _ :=
      UDSServiceHandler.answer_iff hdata
    simp only [htype, forall_true_left]
    rw [← hanswer]
    by_cases hlen : i.msg.payloadData.length < 4
    · have hnil : udsRequest i.msg = [] := List.drop_eq_nil_of_le hlen.le
      rw [sent_of_short htype hlen, sent_of_short htype hlen, hnil]
      exact iff_of_true rfl rfl
    · have hlen := Nat.le_of_not_lt hlen
      rw [sent_of_diagnostic htype hlen, sent_of_diagnostic htype hlen]
      constructor
      · intro hsent
        simpa [doIPMessage] using congrArg (·.map (·.payloadData)) hsent
      · intro heq
        rw [heq]
  · exact iff_of_true (sent_of_other htype) fun h => absurd h htype

/-! ## What a run keeps -/

/-- The data are as configured, and the security is unlocked as the history says. -/
structure Tracks (logicalAddress : UInt16) (data : EcuData) (past : List (GatewayStep ι))
    (server : DoIPServer ι UDSServiceHandler) : Prop where
  sharedData : server.uds.data = data
  ownData : ∀ client, (alone logicalAddress data client past).uds.data = data
  unlocked : server.uds.securityUnlocked = true ↔ MarkedSince entersDefault acceptsKey past

theorem data_step (server : DoIPServer ι UDSServiceHandler) (i : Incoming ι RandomSeed) :
    ((gateway logicalAddress).step server i).1.uds.data = server.uds.data := by
  by_cases htype : i.msg.header.payloadType = diagnosticMessage
  · rw [uds_of_diagnostic htype]
    exact UDSServiceHandler.processRequest_data
  · rw [uds_of_other htype]

theorem unlocked_step (h : server.uds.securityUnlocked = true ↔ MarkedSince entersDefault acceptsKey past) :
    ((gateway logicalAddress).step server i).1.uds.securityUnlocked = true ↔
      MarkedSince entersDefault acceptsKey (past ++ [(gateway logicalAddress).stepAt server i]) := by
  by_cases hdefault : entersDefault ((gateway logicalAddress).stepAt server i) = true
  · obtain ⟨htype, henters⟩ := entersDefault_iff.mp hdefault
    refine iff_of_false ?_ (not_markedSince_concat hdefault past)
    rw [uds_of_diagnostic htype, UDSServiceHandler.processRequest_unlocked, if_pos henters]
    decide
  rw [markedSince_concat (eq_false_of_ne_true hdefault), acceptsKey_iff, ← h]
  by_cases htype : i.msg.header.payloadType = diagnosticMessage
  · have henters : ¬ UDSServiceHandler.EntersDefault (udsRequest i.msg) :=
      fun henters => hdefault (entersDefault_iff.mpr ⟨htype, henters⟩)
    rw [uds_of_diagnostic htype, UDSServiceHandler.processRequest_unlocked, if_neg henters]
    by_cases hkey : UDSServiceHandler.SendsKey (udsRequest i.msg) ∧ server.uds.Fits (udsRequest i.msg)
    · simp [hkey, htype]
    · simp [hkey]
  · rw [uds_of_other htype]
    simp [htype]

theorem tracks_init : Tracks logicalAddress data ([] : List (GatewayStep ι)) (initial data) where
  sharedData := rfl
  ownData _ := rfl
  unlocked := iff_of_false Bool.false_ne_true not_markedSince_nil

theorem Tracks.step (h : Tracks logicalAddress data past server) (i : Incoming ι RandomSeed) :
    Tracks logicalAddress data (past ++ [(gateway logicalAddress).stepAt server i])
      ((gateway logicalAddress).stepAt server i).post where
  sharedData := (data_step server i).trans h.sharedData
  ownData client := by
    rw [alone, Machine.runAlone_concat, Machine.stepAt_input]
    split
    · rw [data_step]
      exact h.ownData client
    · exact h.ownData client
  unlocked := unlocked_step h.unlocked

end Step

/-- **Clients of the gateway.** In any interleaving of any number of clients, a write is answered
positively only behind an accepted key of one of them, with no entry into the default session in
between, and an answer is the one that its client would get alone exactly when the security state
shared by all agrees with the client's own on what the request reads. -/
theorem clients_share_security (inputs : List (Incoming ι RandomSeed)) :
    (gateway logicalAddress).Admits (fun past server i =>
        SharesSecurity logicalAddress data past server i ((gateway logicalAddress).step server i).2)
      (initial data) inputs := by
  intro past i rest _
  have h := Machine.induction (M := gateway logicalAddress) (P := Tracks logicalAddress data) tracks_init
    (fun _ _ i h => h.step i) past
  constructor
  · intro hwrites
    obtain ⟨-, hsid, hpositive⟩ := (succeeds_iff (by decide)).mp hwrites
    exact h.unlocked.mp ((UDSServiceHandler.write_positive_iff hsid).mp hpositive).2
  · exact sent_eq_iff (h.sharedData.trans (h.ownData i.client).symm)

/-- Client 0 asks for a seed and sends its key, and client 1 writes. -/
theorem unlock_crosses_sessions :
    ¬ (gateway 0x0100).Admits (fun past server i =>
        Isolated 0x0100 ⟨[], [], [], [], fun _ => none⟩ past i ((gateway 0x0100).step server i).2)
      (initial ⟨[], [], [], [], fun _ => none⟩)
      [(⟨0, doIPMessage 0x8001 [0x0E, 0x00, 0x01, 0x00, 0x27, 0x01], ⟨0x10000000, by decide⟩⟩ :
          Incoming ℕ RandomSeed),
        ⟨0, doIPMessage 0x8001 [0x0E, 0x00, 0x01, 0x00, 0x27, 0x02, 0xBB, 0xCD, 0x12, 0x34],
          ⟨0x10000000, by decide⟩⟩,
        ⟨1, doIPMessage 0x8001 [0x0E, 0x01, 0x01, 0x00, 0x2E, 0xF1, 0x90, 0x41],
          ⟨0x10000000, by decide⟩⟩] := by
  intro h
  have hisolated := h [_, _] _ [] rfl
  obtain ⟨e, he, hclient, -⟩ := hisolated.write (by decide)
  have hinput := Machine.input_mem_of_mem_trace _ he
  simp only [List.mem_cons, List.not_mem_nil, or_false] at hinput
  rcases hinput with hinput | hinput <;> rw [hinput] at hclient <;> exact absurd hclient (by decide)

end Mcus.Vmg
