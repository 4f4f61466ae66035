import Mcus.Foundations.Runs
import Mcus.Vmg.UdsService

/-! # Runs of the UDS service

Requests given to one `UDSServiceHandler` one after the other, and the events of its security state as
a client sees them in requests and responses. Every event is then an event of the request alone and of
the state before it.
-/

namespace Mcus.Vmg
open ByteOrder Runs UDSServiceHandler
set_option autoImplicit false

/-- A request, and the seed that is drawn if one is issued. -/
structure ServiceInput where
  seed : RandomSeed
  request : List UInt8

def serviceMachine : Machine UDSServiceHandler ServiceInput (List UInt8) where
  step h i := h.processRequest i.seed i.request

abbrev ServiceStep := Step UDSServiceHandler ServiceInput (List UInt8)

def RequestsSeed (request : List UInt8) : Prop :=
  request.getD 0 0 = Sid.securityAccess ∧ request.getD 1 0 = 0x01

def ControlsSession (request : List UInt8) : Prop := request.getD 0 0 = Sid.diagnosticSessionControl

instance (request : List UInt8) : Decidable (RequestsSeed request) := inferInstanceAs (Decidable (_ ∧ _))
instance (request : List UInt8) : Decidable (ControlsSession request) := inferInstanceAs (Decidable (_ = _))

/-! ## Events -/

/-- A session control request was answered positively. -/
def sessionStarted (e : ServiceStep) : Bool :=
  decide (ControlsSession e.input.request ∧
    e.output.head? = some (Sid.diagnosticSessionControl + 0x40))

/-- A new seed was sent. -/
def seedIssued (e : ServiceStep) : Bool :=
  decide (RequestsSeed e.input.request ∧
    e.output = buildPositiveResponse Sid.securityAccess (0x01 :: beBytes32 e.input.seed.value))

/-- A key was answered positively. -/
def keyAccepted (e : ServiceStep) : Bool :=
  decide (SendsKey e.input.request ∧ e.output.head? = some (Sid.securityAccess + 0x40))

/-- A complete key was not. -/
def keyRefused (e : ServiceStep) : Bool :=
  decide (SendsKey e.input.request ∧ 6 ≤ e.input.request.length ∧
    e.output.head? ≠ some (Sid.securityAccess + 0x40))

section Events
variable {h : UDSServiceHandler} {i : ServiceInput}

/-- The session types that the handler knows. -/
def StartsSession (request : List UInt8) : Prop :=
  ControlsSession request ∧ ¬ (request.getD 1 0 < 0x01 ∨ 0x03 < request.getD 1 0)

instance (request : List UInt8) : Decidable (StartsSession request) := inferInstanceAs (Decidable (_ ∧ _))

theorem StartsSession.length {request : List UInt8} (hstarts : StartsSession request) :
    2 ≤ request.length := by
  apply lt_length_of_getD (n := 1)
  intro hzero
  exact hstarts.2 (Or.inl (by rw [hzero]; decide))

theorem sessionStarted_iff : sessionStarted (serviceMachine.stepAt h i) = true ↔ StartsSession i.request := by
  unfold sessionStarted
  rw [decide_eq_true_iff]
  refine and_congr_right fun hsid => ?_
  have hnegative := fun nrc => @head_buildNegativeResponse Sid.diagnosticSessionControl nrc (by decide)
  have hstep : (serviceMachine.stepAt h i).output = (h.handleDiagnosticSessionControl i.request).2 :=
    congrArg Prod.snd (processRequest_session hsid)
  rw [hstep, handleDiagnosticSessionControl, show i.request.getD 0 0 = _ from hsid]
  by_cases hshort : i.request.length < 2
  · rw [if_pos hshort]
    refine iff_of_false (hnegative _) fun hknown => ?_
    exact absurd (StartsSession.length ⟨hsid, hknown⟩) (Nat.not_le.mpr hshort)
  · rw [if_neg hshort]
    dsimp only
    split
    case isTrue hunknown => exact iff_of_false (hnegative _) (not_not.mpr hunknown)
    case isFalse hknown => exact iff_of_true rfl hknown

/-- A seed is issued while the handler is locked and counts fewer than three attempts. -/
def IssuesSeed (h : UDSServiceHandler) (request : List UInt8) : Prop :=
  RequestsSeed request ∧ h.securityUnlocked = false ∧ h.securityAttempts < 3

instance (h : UDSServiceHandler) (request : List UInt8) : Decidable (IssuesSeed h request) :=
  inferInstanceAs (Decidable (_ ∧ _))

theorem processRequest_seed (hasks : RequestsSeed i.request) :
    h.processRequest i.seed i.request = h.requestSeed i.seed i.request := by
  have hlen : 2 ≤ i.request.length := lt_length_of_getD (by rw [hasks.2]; decide)
  rw [processRequest_security hasks.1, handleSecurityAccess_seed hlen hasks.2]

theorem processRequest_key (hsends : SendsKey i.request) :
    h.processRequest i.seed i.request = h.sendKey i.request := by
  have hlen : 2 ≤ i.request.length := lt_length_of_getD (by rw [hsends.2]; decide)
  rw [processRequest_security hsends.1, handleSecurityAccess_key hlen hsends.2]

theorem requestSeed_of_issues (hissues : IssuesSeed h i.request) :
    h.requestSeed i.seed i.request = ({ h with securitySeed := i.seed.value },
      buildPositiveResponse Sid.securityAccess (0x01 :: beBytes32 i.seed.value)) := by
  obtain ⟨hasks, hlocked, hattempts⟩ := hissues
  rw [requestSeed, hlocked, if_neg Bool.false_ne_true, if_neg (UInt8.not_le.mpr hattempts), hasks.1]

theorem requestSeed_of_not_issues (hasks : RequestsSeed i.request) (hissues : ¬ IssuesSeed h i.request) :
    (h.requestSeed i.seed i.request).1 = h ∧ (h.requestSeed i.seed i.request).2 ≠
      buildPositiveResponse Sid.securityAccess (0x01 :: beBytes32 i.seed.value) := by
  have hnegative : ∀ {nrc data}, buildPositiveResponse Sid.securityAccess data ≠
      buildNegativeResponse Sid.securityAccess nrc := positive_ne_negative (by decide)
  rw [requestSeed, hasks.1]
  cases hlocked : h.securityUnlocked with
  | true =>
    refine ⟨rfl, fun hzero => ?_⟩
    exact seed_bytes_ne_zero (List.cons.inj (List.cons.inj hzero).2).2.symm
  | false =>
    have hattempts : 3 ≤ h.securityAttempts := UInt8.not_lt.mp fun hlt => hissues ⟨hasks, hlocked, hlt⟩
    rw [if_neg Bool.false_ne_true, if_pos hattempts]
    exact ⟨rfl, hnegative.symm⟩

theorem seedIssued_iff : seedIssued (serviceMachine.stepAt h i) = true ↔ IssuesSeed h i.request := by
  unfold seedIssued
  rw [decide_eq_true_iff]
  constructor
  · rintro ⟨hasks, hseed⟩
    have hstep : (serviceMachine.stepAt h i).output = (h.requestSeed i.seed i.request).2 :=
      congrArg Prod.snd (processRequest_seed hasks)
    rw [hstep] at hseed
    exact not_not.mp fun hissues => (requestSeed_of_not_issues hasks hissues).2 hseed
  · intro hissues
    exact ⟨hissues.1, congrArg Prod.snd ((processRequest_seed hissues.1).trans (requestSeed_of_issues hissues))⟩

theorem keyAccepted_iff :
    keyAccepted (serviceMachine.stepAt h i) = true ↔ SendsKey i.request ∧ h.Fits i.request := by
  unfold keyAccepted
  rw [decide_eq_true_iff]
  exact and_congr_right fun hsends => key_positive_iff hsends

theorem keyRefused_iff : keyRefused (serviceMachine.stepAt h i) = true ↔
    SendsKey i.request ∧ 6 ≤ i.request.length ∧ ¬ h.Fits i.request := by
  unfold keyRefused
  rw [decide_eq_true_iff]
  exact and_congr_right fun hsends => and_congr_right fun _ => not_congr (key_positive_iff hsends)

/-! ## The state behind a request -/

theorem attempts_step : (serviceMachine.stepAt h i).post.securityAttempts =
    if SendsKey i.request ∧ h.Fits i.request then 0
    else if SendsKey i.request ∧ 6 ≤ i.request.length then h.securityAttempts + 1
    else h.securityAttempts := by
  show (h.processRequest i.seed i.request).1.securityAttempts = _
  by_cases hsends : SendsKey i.request
  · rw [processRequest_key hsends]
    by_cases hfits : h.Fits i.request
    · rw [sendKey_of_fits hfits, if_pos ⟨hsends, hfits⟩]
    rw [if_neg fun h => hfits h.2]
    by_cases hshort : i.request.length < 6
    · rw [sendKey_of_short hshort, if_neg fun h => Nat.not_le.mpr hshort h.2]
    · have hlen : SendsKey i.request ∧ 6 ≤ i.request.length := ⟨hsends, Nat.le_of_not_lt hshort⟩
      simp only [sendKey_of_not_fits hlen.2 hfits, hlen, and_self, if_true]
  rw [if_neg fun h => hsends h.1, if_neg fun h => hsends h.1]
  by_cases hsession : i.request.getD 0 0 = Sid.diagnosticSessionControl
  · obtain ⟨_, _, hkeeps⟩ := handleDiagnosticSessionControl_keeps h i.request
    rw [processRequest_session hsession, hkeeps]
  by_cases hsecurity : i.request.getD 0 0 = Sid.securityAccess
  · have hkey : ¬ i.request.getD 1 0 = 0x02 := fun hsub => hsends ⟨hsecurity, hsub⟩
    rw [processRequest_security hsecurity]
    simp only [handleSecurityAccess, requestSeed, hkey, if_false]
    split_ifs <;> rfl
  · rw [processRequest_other hsession hsecurity]

theorem seed_step : (serviceMachine.stepAt h i).post.securitySeed =
    if IssuesSeed h i.request then i.seed.value else h.securitySeed := by
  show (h.processRequest i.seed i.request).1.securitySeed = _
  by_cases hasks : RequestsSeed i.request
  · rw [processRequest_seed hasks]
    by_cases hissues : IssuesSeed h i.request
    · rw [requestSeed_of_issues hissues, if_pos hissues]
    · rw [(requestSeed_of_not_issues hasks hissues).1, if_neg hissues]
  rw [if_neg fun hissues => hasks hissues.1]
  by_cases hsession : i.request.getD 0 0 = Sid.diagnosticSessionControl
  · obtain ⟨_, _, hkeeps⟩ := handleDiagnosticSessionControl_keeps h i.request
    rw [processRequest_session hsession, hkeeps]
  by_cases hsecurity : i.request.getD 0 0 = Sid.securityAccess
  · have hseed : ¬ i.request.getD 1 0 = 0x01 := fun hsub => hasks ⟨hsecurity, hsub⟩
    rw [processRequest_security hsecurity]
    simp only [handleSecurityAccess, sendKey, hseed, if_false]
    split_ifs <;> rfl
  · rw [processRequest_other hsession hsecurity]

theorem unlocked_after : (serviceMachine.stepAt h i).post.securityUnlocked =
    if EntersDefault i.request then false
    else if SendsKey i.request ∧ h.Fits i.request then true else h.securityUnlocked :=
  processRequest_unlocked

end Events
end Mcus.Vmg
