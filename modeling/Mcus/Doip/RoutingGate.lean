import Mcus.Doip.Sessions

/-! # The routing activation gate

A session records that routing is active and for which tester, but the handler of diagnostic messages
does not look there. So a message reaches the UDS handler as soon as it carries two addresses, and the
gate holds only of runs in which the clients observe it themselves.
-/

namespace Mcus.Doip
open ByteOrder Runs
set_option autoImplicit false

universe u v w
variable {ι : Type w} {σ : Type u} {ρ : Type v} [DecidableEq ι] {logicalAddress : UInt16}
  {udsHandler : Option (UDSHandler σ ρ)} {client : ι} {server : DoIPServer ι σ} {i : Incoming ι ρ}
  {past : List (Step (DoIPServer ι σ) (Incoming ι ρ) Handled)}

/-- A routing activation request of the client, answered with response code `0x10`. -/
def activates (client : ι) (e : Step (DoIPServer ι σ) (Incoming ι ρ) Handled) : Bool :=
  decide (e.input.client = client) && e.input.msg.header.payloadType == routingActivationReq &&
    e.output.sent.any fun msg => msg.payloadData.getD 4 0 == 0x10

/-- The source address of the last activation on the client's session. -/
def activatedAddress (client : ι) (past : List (Step (DoIPServer ι σ) (Incoming ι ρ) Handled)) :
    Option UInt16 :=
  (lastWhere (activates client) past).map fun e => e.input.msg.source

/-- The UDS handler is called only for the activated tester, and any other diagnostic message is
answered with a negative acknowledge and nothing else. -/
structure Gated (past : List (Step (DoIPServer ι σ) (Incoming ι ρ) Handled)) (i : Incoming ι ρ)
    (handled : Handled) : Prop where
  processed : handled.udsRequests ≠ [] → activatedAddress i.client past = some i.msg.source
  refused : i.msg.header.payloadType = diagnosticMessage →
    activatedAddress i.client past ≠ some i.msg.source →
      handled.udsRequests = [] ∧
        ∃ nack, handled.sent = [nack] ∧ nack.header.payloadType = diagnosticMessageNegAck

/-- A diagnostic message with two addresses comes on an activated session and names its tester. -/
def NamesActivation (server : DoIPServer ι σ) (i : Incoming ι ρ) : Prop :=
  i.msg.header.payloadType = diagnosticMessage → 4 ≤ i.msg.payloadData.length →
    (server.sessions i.client).routingActive = true ∧
      (server.sessions i.client).sourceAddress = i.msg.source

/-! ## What the session remembers -/

/-- The session holds the last activation of the history. -/
def Remembers (past : List (Step (DoIPServer ι σ) (Incoming ι ρ) Handled)) (server : DoIPServer ι σ) :
    Prop :=
  ∀ client, activatedAddress client past =
    if (server.sessions client).routingActive then some (server.sessions client).sourceAddress else none

theorem handled_of_activation (htype : i.msg.header.payloadType = routingActivationReq) :
    ((serverMachine logicalAddress udsHandler).step server i).2 =
      ⟨[(handleRoutingActivationReq logicalAddress i.msg (server.sessions i.client)).2], []⟩ := by
  simp only [serverMachine, handleTCPMessage, htype, if_true]

theorem activates_stepAt (client : ι) :
    activates client ((serverMachine logicalAddress udsHandler).stepAt server i) = true ↔
      i.client = client ∧ Activates i.msg := by
  unfold activates Activates
  simp only [Machine.stepAt_input, Machine.stepAt_output, Bool.and_eq_true, beq_iff_eq]
  rw [and_assoc]
  refine and_congr decide_eq_true_iff (and_congr_right fun htype => ?_)
  rw [handled_of_activation htype, handleRoutingActivationReq]
  by_cases hlen : i.msg.payloadData.length < 7
  · simp [hlen, doIPMessage]
  · simp [hlen, Nat.le_of_not_lt hlen, doIPMessage, beBytes16]

theorem remembers_init (uds : σ) :
    Remembers (ρ := ρ) [] (.init uds : DoIPServer ι σ) := fun _ => rfl

theorem Remembers.step (h : Remembers past server) (i : Incoming ι ρ) :
    Remembers (past ++ [(serverMachine logicalAddress udsHandler).stepAt server i])
      ((serverMachine logicalAddress udsHandler).stepAt server i).post := by
  intro client
  rw [Machine.stepAt_post, sessions_step]
  by_cases hactivates : i.client = client ∧ Activates i.msg
  · have hnew : client = i.client ∧ Activates i.msg := ⟨hactivates.1.symm, hactivates.2⟩
    rw [activatedAddress, lastWhere_concat_pos ((activates_stepAt client).mpr hactivates), if_pos hnew]
    rfl
  · have hold : ¬ (client = i.client ∧ Activates i.msg) := fun h => hactivates ⟨h.1.symm, h.2⟩
    have hmark : activates client ((serverMachine logicalAddress udsHandler).stepAt server i) = false :=
      eq_false_of_ne_true (mt (activates_stepAt client).mp hactivates)
    rw [activatedAddress, lastWhere_concat_neg hmark, if_neg hold]
    exact h client

/-! ## The gate -/

theorem udsRequests_of_other (htype : i.msg.header.payloadType ≠ diagnosticMessage) :
    ((serverMachine logicalAddress udsHandler).step server i).2.udsRequests = [] := by
  simp only [serverMachine, handleTCPMessage, htype, if_false]
  split
  case isTrue => rfl
  case isFalse => split <;> rfl

theorem gated_iff (h : Remembers past server) :
    Gated past i ((serverMachine logicalAddress udsHandler).step server i).2 ↔
      NamesActivation server i := by
  have haddress : activatedAddress i.client past = some i.msg.source ↔
      (server.sessions i.client).routingActive = true ∧
        (server.sessions i.client).sourceAddress = i.msg.source := by
    rw [h i.client]
    cases (server.sessions i.client).routingActive <;> simp
  by_cases htype : i.msg.header.payloadType = diagnosticMessage
  · rw [(step_of_diagnostic htype).2, handleDiagnosticMessage]
    by_cases hlen : i.msg.payloadData.length < 4
    · rw [if_pos hlen]
      refine iff_of_true ⟨fun hcalled => absurd rfl hcalled, fun _ _ => ⟨rfl, _, rfl, rfl⟩⟩ ?_
      intro _ hlen'
      omega
    · rw [if_neg hlen]
      constructor
      · intro hgated _ _
        exact haddress.mp (hgated.processed (List.cons_ne_nil _ _))
      · intro hnames
        have hactive := haddress.mpr (hnames htype (Nat.le_of_not_lt hlen))
        exact ⟨fun _ => hactive, fun _ hnot => absurd hactive hnot⟩
  · refine iff_of_true ⟨fun hcalled => ?_, fun hdiag => absurd hdiag htype⟩ fun hdiag => absurd hdiag htype
    exact absurd (udsRequests_of_other htype) hcalled

/-- **Routing activation.** In any interleaving of any number of sessions, and with any UDS handler,
the gate holds at every message exactly when every diagnostic message that carries its addresses
comes on an activated session from the tester activated there. -/
theorem routing_gate_iff (logicalAddress : UInt16) (udsHandler : Option (UDSHandler σ ρ)) (uds : σ)
    (inputs : List (Incoming ι ρ)) :
    (serverMachine logicalAddress udsHandler).Admits (fun past server i =>
        Gated past i ((serverMachine logicalAddress udsHandler).step server i).2) (.init uds) inputs ↔
      (serverMachine logicalAddress udsHandler).Admits (fun _ server i => NamesActivation server i)
        (.init uds) inputs :=
  Machine.admits_iff_of_invariant (P := Remembers) (remembers_init uds) (fun _ _ _ h => gated_iff h)
    (fun _ _ i h _ => h.step i) inputs

/-- The first message of a connection reads a data identifier. -/
theorem unactivated_request_is_processed :
    ¬ (serverMachine 0x0100 (none : Option (UDSHandler Unit Unit))).Admits (fun past server i =>
        Gated past i ((serverMachine 0x0100 none).step server i).2) (.init ())
      [(⟨0, doIPMessage 0x8001 [0x0E, 0x00, 0x01, 0x00, 0x22, 0xF1, 0x90], ()⟩ : Incoming ℕ Unit)] := by
  intro h
  have hgated := h [] _ [] rfl
  have haddress := hgated.processed (by decide)
  cases haddress

end Mcus.Doip
