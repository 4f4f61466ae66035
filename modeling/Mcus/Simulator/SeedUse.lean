import Mcus.Simulator.UdsHandler
import Mcus.Foundations.Runs

/-! # Seeds of the simulator

`handleSecurityAccess` compares a key only while a seed is out, and either outcome of the comparison
takes the seed back: the lock opens or closes, and no later key meets that seed.
-/

namespace Mcus.Simulator
open ByteOrder Runs
set_option autoImplicit false

/-- One request, and the seed that would be drawn for it. -/
structure SimulatorInput where
  request : UdsMessage
  seed : GeneratedSeed

def simulatorMachine : Machine UdsHandler SimulatorInput UdsResponse where
  step h i := h.handleRequest i.seed i.request

abbrev SimulatorStep := Step UdsHandler SimulatorInput UdsResponse

namespace UdsMessage

/-- A RequestSeed: SecurityAccess with an odd sub-function. -/
def asksSeed (request : UdsMessage) : Bool :=
  request.service == UdsService.securityAccess &&
    match request.data with
    | [] => false
    | subFunc :: _ => subFunc &&& 0x01 == 0x01

/-- A SendKey: SecurityAccess with an even sub-function. -/
def sendsKey (request : UdsMessage) : Bool :=
  request.service == UdsService.securityAccess &&
    match request.data with
    | [] => false
    | subFunc :: _ => !(subFunc &&& 0x01 == 0x01)

/-- The key of a SendKey that is long enough for one. -/
def sentKey (request : UdsMessage) : Option UInt32 :=
  match request.data with
  | _ :: k3 :: k2 :: k1 :: k0 :: _ => some (word32 k3 k2 k1 k0)
  | _ => none

end UdsMessage

/-- The key that `verifySeedKey` is called with, if it is called. -/
def comparedKey (e : SimulatorStep) : Option UInt32 :=
  if e.input.request.sendsKey ∧ e.pre.securityLevel = .seedSent then e.input.request.sentKey else none

def comparesKey (e : SimulatorStep) : Bool := (comparedKey e).isSome

def issuesSeed (e : SimulatorStep) : Bool := e.input.request.asksSeed

/-- The seed in the response. -/
def issuedSeed (e : SimulatorStep) : Option UInt32 :=
  if issuesSeed e ∧ e.output = createPositiveResponse e.input.request.service (beBytes32 e.input.seed.value)
  then some e.input.seed.value else none

/-- A comparison that fails for the last seed issued before it. -/
def wrongKey (e : SimulatorStep) : Bool :=
  match comparedKey e with
  | none => false
  | some key => !(verifySeedKey e.pre.currentSeed key)

/-! ## What one request can do -/

/-- The cases of `handleRequest` that matter to the seed. -/
inductive SeedEffect (h : UdsHandler) (i : SimulatorInput) : UdsHandler → UdsResponse → Prop
  | other {h' : UdsHandler} {response : UdsResponse} (hseed : i.request.asksSeed = false)
      (hkey : i.request.sendsKey = false) (hlevel : h'.securityLevel = h.securityLevel)
      (hcurrent : h'.currentSeed = h.currentSeed) : SeedEffect h i h' response
  | seed (hasks : i.request.asksSeed = true) (hkey : i.request.sendsKey = false) :
      SeedEffect h i { h with currentSeed := i.seed.value, securityLevel := .seedSent }
        (createPositiveResponse i.request.service (beBytes32 i.seed.value))
  | notCompared {nrc : UInt8} (hseed : i.request.asksSeed = false) (hsends : i.request.sendsKey = true)
      (hnone : h.securityLevel ≠ .seedSent ∨ i.request.sentKey = none) :
      SeedEffect h i h (createNegativeResponse i.request.service nrc)
  | accepted {key : UInt32} {response : UdsResponse} (hseed : i.request.asksSeed = false)
      (hsends : i.request.sendsKey = true) (hsent : h.securityLevel = .seedSent)
      (hsentKey : i.request.sentKey = some key) (hkey : key = expectedKey h.currentSeed) :
      SeedEffect h i { h with securityLevel := .unlocked } response
  | wrong {key : UInt32} (hseed : i.request.asksSeed = false) (hsends : i.request.sendsKey = true)
      (hsent : h.securityLevel = .seedSent) (hsentKey : i.request.sentKey = some key)
      (hkey : key ≠ expectedKey h.currentSeed) :
      SeedEffect h i { h with securityLevel := .locked }
        (createNegativeResponse i.request.service NRC.invalidKey)

section Effects
variable (h : UdsHandler) (i : SimulatorInput)

theorem securityAccess_effect (hservice : i.request.service = UdsService.securityAccess) :
    SeedEffect h i (h.handleSecurityAccess i.seed i.request).1
      (h.handleSecurityAccess i.seed i.request).2 := by
  have hthis : (i.request.service == UdsService.securityAccess) = true := by rw [hservice]; rfl
  unfold UdsHandler.handleSecurityAccess
  split
  case h_1 hdata =>
    refine .other ?_ ?_ rfl rfl
    · rw [UdsMessage.asksSeed, hdata, Bool.and_false]
    · rw [UdsMessage.sendsKey, hdata, Bool.and_false]
  case h_2 subFunc rest hdata =>
    by_cases hodd : subFunc &&& 0x01 = 0x01
    · rw [if_pos hodd]
      refine .seed ?_ ?_
      · rw [UdsMessage.asksSeed, hthis, hdata]
        simpa using hodd
      · rw [UdsMessage.sendsKey, hthis, hdata]
        simpa using hodd
    · rw [if_neg hodd]
      have hseed : i.request.asksSeed = false := by
        rw [UdsMessage.asksSeed, hthis, hdata]
        simpa using hodd
      have hsends : i.request.sendsKey = true := by
        rw [UdsMessage.sendsKey, hthis, hdata]
        simpa using hodd
      unfold UdsHandler.checkKey
      by_cases hsent : h.securityLevel = .seedSent
      · rw [if_neg (not_not.mpr hsent)]
        split
        case h_1 _ k3 k2 k1 k0 _ hkeyed =>
          have hsentKey : i.request.sentKey = some (word32 k3 k2 k1 k0) := by
            rw [UdsMessage.sentKey, hkeyed]
          by_cases hkey : word32 k3 k2 k1 k0 = expectedKey h.currentSeed
          · rw [verifySeedKey, if_pos (beq_iff_eq.mpr hkey)]
            exact .accepted hseed hsends hsent hsentKey hkey
          · rw [verifySeedKey, if_neg (mt beq_iff_eq.mp hkey)]
            exact .wrong hseed hsends hsent hsentKey hkey
        case h_2 hshort =>
          refine .notCompared hseed hsends (Or.inr ?_)
          unfold UdsMessage.sentKey
          split
          case h_1 _ k3 k2 k1 k0 _ hkeyed => exact absurd hkeyed (hshort _ _ _ _ _ _)
          case h_2 => rfl
      · rw [if_pos hsent]
        exact .notCompared hseed hsends (Or.inl hsent)

/-- A service other than SecurityAccess touches neither the level nor the seed. -/
def KeepsSeed (handled : UdsHandler × UdsResponse) : Prop :=
  handled.1.securityLevel = h.securityLevel ∧ handled.1.currentSeed = h.currentSeed

theorem keepsSeed_refuse (request : UdsMessage) (nrc : UInt8) : KeepsSeed h (h.refuse request nrc) := ⟨rfl, rfl⟩

variable (request : UdsMessage)

theorem keepsSeed_session : KeepsSeed h (h.handleDiagnosticSession request) := by
  unfold UdsHandler.handleDiagnosticSession
  split
  · exact keepsSeed_refuse h request _
  dsimp only
  split
  · exact ⟨rfl, rfl⟩
  split
  · split
    · exact keepsSeed_refuse h request _
    · exact ⟨rfl, rfl⟩
  split
  · exact ⟨rfl, rfl⟩
  · exact keepsSeed_refuse h request _

theorem keepsSeed_ecuReset : KeepsSeed h (h.handleEcuReset request) := by
  unfold UdsHandler.handleEcuReset
  split
  · exact keepsSeed_refuse h request _
  · exact ⟨rfl, rfl⟩

theorem keepsSeed_readDataById : KeepsSeed h (h.handleReadDataById request) := by
  unfold UdsHandler.handleReadDataById
  split
  · dsimp only
    split
    · exact ⟨rfl, rfl⟩
    split
    · exact ⟨rfl, rfl⟩
    split
    · exact ⟨rfl, rfl⟩
    · exact keepsSeed_refuse h request _
  · exact keepsSeed_refuse h request _

theorem keepsSeed_requestDownload : KeepsSeed h (h.handleRequestDownload request) := by
  unfold UdsHandler.handleRequestDownload
  split
  · exact keepsSeed_refuse h request _
  split
  · exact keepsSeed_refuse h request _
  · exact ⟨rfl, rfl⟩

theorem keepsSeed_transferData : KeepsSeed h (h.handleTransferData request) := by
  unfold UdsHandler.handleTransferData
  split
  · exact keepsSeed_refuse h request _
  split
  · exact keepsSeed_refuse h request _
  split
  · exact keepsSeed_refuse h request _
  · exact ⟨rfl, rfl⟩

theorem keepsSeed_transferExit : KeepsSeed h (h.handleRequestTransferExit request) := by
  unfold UdsHandler.handleRequestTransferExit
  split
  · exact keepsSeed_refuse h request _
  · exact ⟨rfl, rfl⟩

variable {request} in
theorem keepsSeed_handler {seed : GeneratedSeed} {entry : UInt8 × (UdsHandler → UdsMessage → UdsHandler × UdsResponse)}
    (hentry : entry ∈ UdsHandler.serviceHandlers seed) (hother : entry.1 ≠ UdsService.securityAccess) :
    KeepsSeed h (entry.2 h request) := by
  simp only [UdsHandler.serviceHandlers, List.mem_cons, List.not_mem_nil, or_false] at hentry
  rcases hentry with rfl | rfl | rfl | rfl | rfl | rfl | rfl | rfl
  · exact keepsSeed_session h request
  · exact keepsSeed_ecuReset h request
  · exact absurd rfl hother
  · exact ⟨rfl, rfl⟩
  · exact keepsSeed_readDataById h request
  · exact keepsSeed_requestDownload h request
  · exact keepsSeed_transferData h request
  · exact keepsSeed_transferExit h request

theorem other_effect {handled : UdsHandler × UdsResponse} (hother : i.request.service ≠ UdsService.securityAccess)
    (hkeeps : KeepsSeed h handled) : SeedEffect h i handled.1 handled.2 := by
  have hnot : (i.request.service == UdsService.securityAccess) = false := by simpa using hother
  refine .other ?_ ?_ hkeeps.1 hkeeps.2
  · rw [UdsMessage.asksSeed, hnot, Bool.false_and]
  · rw [UdsMessage.sendsKey, hnot, Bool.false_and]

theorem handleRequest_effect : SeedEffect h i (h.handleRequest i.seed i.request).1
    (h.handleRequest i.seed i.request).2 := by
  by_cases hservice : i.request.service = UdsService.securityAccess
  · have hhandled : h.handleRequest i.seed i.request = h.handleSecurityAccess i.seed i.request := by
      unfold UdsHandler.handleRequest
      rw [hservice]
      rfl
    rw [hhandled]
    exact securityAccess_effect h i hservice
  · unfold UdsHandler.handleRequest
    split
    case h_1 => exact other_effect h i hservice (keepsSeed_refuse h i.request _)
    case h_2 service handler hfound =>
      have hentry : (service == i.request.service) = true := by simpa using List.find?_some hfound
      refine other_effect h i hservice (keepsSeed_handler h (List.mem_of_find?_eq_some hfound) ?_)
      exact (beq_iff_eq.mp hentry).trans_ne hservice

end Effects

/-! ## Single use -/

/-- The last seed issued is the one that is stored, as long as one is out. -/
structure SeedOut (past : List SimulatorStep) (h : UdsHandler) : Prop where
  issued : ∃ d, lastWhere issuesSeed past = some d ∧ issuedSeed d = some h.currentSeed
  fresh : ¬ MarkedSince issuesSeed comparesKey past

/-- What a history says about the handler it leads to. -/
structure SeedLedger (past : List SimulatorStep) (h : UdsHandler) : Prop where
  out : h.securityLevel = .seedSent → SeedOut past h
  once : (sinceLast issuesSeed past).countP comparesKey ≤ 1
  locked : MarkedSince issuesSeed wrongKey past → h.securityLevel = .locked

/-- What is promised about a step behind a history. -/
structure StepUse (past : List SimulatorStep) (e : SimulatorStep) : Prop where
  /-- The last seed issued has been compared with one key at most. -/
  once : (sinceLast issuesSeed (past ++ [e])).countP comparesKey ≤ 1
  /-- A key meets the last seed issued, and no key met it before. -/
  compared : ∀ key, comparedKey e = some key → SeedOut past e.pre
  /-- Only the key of the last seed issued opens the lock, with no comparison in between. -/
  unlocks : e.pre.securityLevel ≠ .unlocked → e.post.securityLevel = .unlocked →
    e.input.request.sendsKey = true ∧ ¬ MarkedSince issuesSeed comparesKey past ∧
      ∃ d seed, lastWhere issuesSeed past = some d ∧ issuedSeed d = some seed ∧
        e.input.request.sentKey = some (expectedKey seed)
  /-- Behind a wrong key every SendKey is refused until a seed is issued. -/
  refused : MarkedSince issuesSeed wrongKey past → e.input.request.sendsKey = true →
    e.output.positive = false ∧ e.post = e.pre

/-- Every step of a run from the constructed handler. -/
def SingleUse (inputs : List SimulatorInput) : Prop :=
  ∀ past e rest, simulatorMachine.trace .construct inputs = past ++ e :: rest → StepUse past e

section Steps
variable {past : List SimulatorStep} {h h' : UdsHandler} {i : SimulatorInput} {response : UdsResponse}

theorem comparedKey_none (hnone : i.request.sendsKey = false ∨ h.securityLevel ≠ .seedSent ∨
    i.request.sentKey = none) : comparedKey ⟨h, i, response, h'⟩ = none := by
  unfold comparedKey
  dsimp only
  rcases hnone with hkey | hlevel | hshort
  · exact if_neg fun hc => absurd (hc.1.symm.trans hkey) (by decide)
  · exact if_neg fun hc => hlevel hc.2
  · rw [hshort, ite_self]

theorem comparedKey_some {key : UInt32} (hsends : i.request.sendsKey = true)
    (hsent : h.securityLevel = .seedSent) (hsentKey : i.request.sentKey = some key) :
    comparedKey ⟨h, i, response, h'⟩ = some key := by
  unfold comparedKey
  rw [if_pos ⟨hsends, hsent⟩, hsentKey]

theorem wrongKey_none (hnone : comparedKey ⟨h, i, response, h'⟩ = none) :
    wrongKey ⟨h, i, response, h'⟩ = false := by
  rw [wrongKey, hnone]

/-- A step that neither issues a seed nor compares a key. -/
theorem seedLedger_quiet (hinv : SeedLedger past h) (hissue : i.request.asksSeed = false)
    (hnone : comparedKey ⟨h, i, response, h'⟩ = none) (hlevel : h'.securityLevel = h.securityLevel)
    (hcurrent : h'.currentSeed = h.currentSeed) :
    SeedLedger (past ++ [⟨h, i, response, h'⟩]) h' := by
  have hissue : issuesSeed ⟨h, i, response, h'⟩ = false := hissue
  have hcompare : comparesKey ⟨h, i, response, h'⟩ = false := by rw [comparesKey, hnone]; rfl
  constructor
  · intro hsent
    obtain ⟨⟨d, hd, hseed⟩, hfresh⟩ := hinv.out (hlevel ▸ hsent)
    refine ⟨⟨d, ?_, ?_⟩, fun hmarked => hfresh (markedSince_concat_of_unmarked hcompare hmarked)⟩
    · rwa [lastWhere_concat_neg hissue]
    · rwa [hcurrent]
  · rw [sinceLast_concat_neg hissue, List.countP_append]
    simpa [hcompare] using hinv.once
  · intro hmarked
    rw [hlevel]
    exact hinv.locked (markedSince_concat_of_unmarked (wrongKey_none hnone) hmarked)

theorem countP_fresh (hfresh : ¬ MarkedSince issuesSeed comparesKey past) :
    (sinceLast issuesSeed past).countP comparesKey = 0 := by
  rw [List.countP_eq_zero]
  intro e he hcompares
  exact hfresh ⟨e, he, hcompares⟩

/-- A comparison takes the seed back. -/
theorem once_of_compared (hout : SeedOut past h) (hissue : i.request.asksSeed = false) :
    (sinceLast issuesSeed (past ++ [⟨h, i, response, h'⟩])).countP comparesKey ≤ 1 := by
  have hissue : issuesSeed ⟨h, i, response, h'⟩ = false := hissue
  rw [sinceLast_concat_neg hissue, List.countP_append, countP_fresh hout.fresh, Nat.zero_add]
  exact List.countP_le_length

theorem seedLedger_step (past : List SimulatorStep) (h : UdsHandler) (i : SimulatorInput)
    (hinv : SeedLedger past h) : SeedLedger (past ++ [simulatorMachine.stepAt h i])
      (simulatorMachine.stepAt h i).post := by
  have heffect := handleRequest_effect h i
  unfold Machine.stepAt
  change SeedLedger (past ++ [⟨h, i, (h.handleRequest i.seed i.request).2,
    (h.handleRequest i.seed i.request).1⟩]) (h.handleRequest i.seed i.request).1
  generalize (h.handleRequest i.seed i.request).1 = h' at heffect ⊢
  generalize (h.handleRequest i.seed i.request).2 = response at heffect ⊢
  cases heffect with
  | other hseed hkey hlevel hcurrent =>
    exact seedLedger_quiet hinv hseed (comparedKey_none (Or.inl hkey)) hlevel hcurrent
  | notCompared hseed _ hnone => exact seedLedger_quiet hinv hseed (comparedKey_none (Or.inr hnone)) rfl rfl
  | seed hasks =>
    let h' : UdsHandler := { h with currentSeed := i.seed.value, securityLevel := .seedSent }
    let answer := createPositiveResponse i.request.service (beBytes32 i.seed.value)
    have hissue : issuesSeed ⟨h, i, answer, h'⟩ = true := hasks
    constructor
    · intro _
      refine ⟨⟨_, lastWhere_concat_pos hissue past, ?_⟩, not_markedSince_concat hissue past⟩
      exact if_pos ⟨hissue, rfl⟩
    · rw [sinceLast_concat_pos hissue]
      exact Nat.zero_le 1
    · exact fun hmarked => absurd hmarked (not_markedSince_concat hissue past)
  | accepted hseed hsends hsent hsentKey hkey =>
    refine ⟨nofun, once_of_compared (hinv.out hsent) hseed, ?_⟩
    intro hmarked
    have hright : wrongKey ⟨h, i, response, { h with securityLevel := .unlocked }⟩ = false := by
      rw [wrongKey, comparedKey_some hsends hsent hsentKey, hkey]
      simp [verifySeedKey]
    have hlocked := hinv.locked (markedSince_concat_of_unmarked hright hmarked)
    rw [hsent] at hlocked
    cases hlocked
  | wrong hseed _ hsent =>
    exact ⟨nofun, once_of_compared (hinv.out hsent) hseed, fun _ => rfl⟩

theorem seedLedger_construct : SeedLedger [] .construct where
  out hlevel := by cases hlevel
  once := Nat.zero_le 1
  locked hmarked := absurd hmarked not_markedSince_nil

theorem stepUse_of_seedLedger (hinv : SeedLedger past h) : StepUse past (simulatorMachine.stepAt h i) := by
  have hnext := seedLedger_step past h i hinv
  have heffect := handleRequest_effect h i
  refine ⟨hnext.once, ?_, ?_, ?_⟩
  · intro key hkey
    refine hinv.out ?_
    unfold comparedKey at hkey
    split at hkey
    case isTrue hcompared => exact hcompared.2
    case isFalse => cases hkey
  · intro hlocked hopen
    change h.securityLevel ≠ .unlocked at hlocked
    change (h.handleRequest i.seed i.request).1.securityLevel = .unlocked at hopen
    change i.request.sendsKey = true ∧ _ ∧ ∃ d seed, _ ∧ _ ∧ i.request.sentKey = _
    generalize (h.handleRequest i.seed i.request).1 = h' at heffect hopen
    generalize (h.handleRequest i.seed i.request).2 = response at heffect
    cases heffect with
    | other _ _ hlevel => exact absurd (hlevel ▸ hopen) hlocked
    | notCompared => exact absurd hopen hlocked
    | seed => cases hopen
    | wrong => cases hopen
    | accepted _ hsends hsent hsentKey hkey =>
      obtain ⟨⟨d, hd, hseed⟩, hfresh⟩ := hinv.out hsent
      exact ⟨hsends, hfresh, d, h.currentSeed, hd, hseed, hkey ▸ hsentKey⟩
  · intro hmarked hsends
    have hlocked := hinv.locked hmarked
    change i.request.sendsKey = true at hsends
    change (h.handleRequest i.seed i.request).2.positive = false ∧ (h.handleRequest i.seed i.request).1 = h
    generalize (h.handleRequest i.seed i.request).1 = h' at heffect ⊢
    generalize (h.handleRequest i.seed i.request).2 = response at heffect ⊢
    cases heffect with
    | other _ hkey => exact absurd (hsends.symm.trans hkey) (by decide)
    | notCompared => exact ⟨rfl, rfl⟩
    | seed _ hkey => exact absurd (hsends.symm.trans hkey) (by decide)
    | wrong _ _ hsent => exact absurd (hsent.symm.trans hlocked) (by decide)
    | accepted _ _ hsent => exact absurd (hsent.symm.trans hlocked) (by decide)

end Steps

/-- **Single use of seeds.** In every run of requests, with whatever seeds are drawn. -/
theorem simulator_singleUse (inputs : List SimulatorInput) : SingleUse inputs := by
  have hrun := Machine.induction (M := simulatorMachine)
    (P := fun past h => SeedLedger past h ∧
      ∀ before e after, past = before ++ e :: after → StepUse before e)
    ⟨seedLedger_construct, fun _ _ _ hp => absurd hp (by simp)⟩
    (fun past h i hinv => ⟨seedLedger_step past h i hinv.1,
      forall_split_concat.mpr ⟨hinv.2, stepUse_of_seedLedger hinv.1⟩⟩) inputs
  exact hrun.2

end Mcus.Simulator
