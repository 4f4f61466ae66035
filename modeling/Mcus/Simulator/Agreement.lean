import Mcus.Simulator.UdsHandler
import Mcus.Uds.Runs

/-! # The simulator beside the device

Both handlers serve the requests of a programming sequence, the simulator in its decoded form and the
device as wire bytes, and every key is the one that the side itself computes from its seed. The two
agree on a run as long as it keeps an order: the simulator starts the programming session only behind a
key and takes a key only behind a seed, while the device locks when the session starts and needs its key
afterwards. The documented sequence (programming session, seed, key, download) is refused by the
simulator at its first request.
-/

namespace Mcus.Simulator
open ByteOrder Runs
set_option autoImplicit false

inductive ProgrammingRequest
  | sessionControl (sessionType : UInt8)
  | requestSeed
  | sendKey
  | requestDownload (dataFormat : UInt8) (address size : UInt32)
  deriving DecidableEq, Repr

/-- A request, what either side draws for it, and a capacity with room for every response. -/
structure PairInput where
  request : ProgrammingRequest
  seed : GeneratedSeed
  platform : Uds.Platform
  respCap : ℕ
  room : 6 ≤ respCap

structure Pair where
  simulator : UdsHandler
  device : Uds.UDSHandler

structure PairAnswer where
  simulator : UdsResponse
  device : Uds.Reply

namespace ProgrammingRequest

def sid : ProgrammingRequest → UInt8
  | sessionControl _ => Uds.Sid.diagnosticSessionControl
  | requestSeed => Uds.Sid.securityAccess
  | sendKey => Uds.Sid.securityAccess
  | requestDownload .. => Uds.Sid.requestDownload

/-- What follows the service identifier, with the key that answers the seed. -/
def parameters (key : UInt32) : ProgrammingRequest → List UInt8
  | sessionControl sessionType => [sessionType]
  | requestSeed => [0x01]
  | sendKey => 0x02 :: beBytes32 key
  | requestDownload dataFormat address size =>
      dataFormat :: 0x44 :: (beBytes32 address ++ beBytes32 size)

/-- The form that the simulator's handlers expect: no handler reads `sub_function`. -/
def decoded (key : UInt32) (request : ProgrammingRequest) : UdsMessage :=
  ⟨request.sid, 0, request.parameters key⟩

def wire (key : UInt32) (request : ProgrammingRequest) : List UInt8 := request.sid :: request.parameters key

def entersSession : ProgrammingRequest → Bool
  | sessionControl t => t == 0x01 || t == 0x02 || t == 0x03
  | _ => false

def relocks : ProgrammingRequest → Bool
  | sessionControl t => t == 0x01 || t == 0x02
  | _ => false

def asksSecurity : ProgrammingRequest → Bool
  | requestSeed => true
  | sendKey => true
  | _ => false

end ProgrammingRequest

variable (calculateKey : UInt32 → UInt32)

def pairMachine : Machine Pair PairInput PairAnswer where
  step s i :=
    let simulated := s.simulator.handleRequest i.seed (i.request.decoded (expectedKey s.simulator.currentSeed))
    let served := Uds.udsHandlerProcess calculateKey s.device
      ⟨i.request.wire (calculateKey s.device.seed), i.respCap, i.platform⟩
    (⟨simulated.1, served.1⟩, ⟨simulated.2, served.2⟩)

abbrev PairStep := Step Pair PairInput PairAnswer

def pairInit : Pair := ⟨.construct, Uds.udsHandlerInit⟩

/-- The device answers a request to `sid` positively. -/
def PositiveReply (sid : UInt8) (reply : Uds.Reply) : Prop :=
  reply.response.bind List.head? = some (sid + Uds.positiveResponseOffset)

def Agrees (request : ProgrammingRequest) (answer : PairAnswer) : Prop :=
  answer.simulator.positive = true ↔ PositiveReply request.sid answer.device

/-! ## The order of a run -/

section Order
open ProgrammingRequest

/-- The requests of a history. -/
def requests (past : List PairStep) : List ProgrammingRequest := past.map (·.input.request)

/-- The last RequestSeed or SendKey. -/
abbrev lastSecurity (past : List ProgrammingRequest) : Option ProgrammingRequest :=
  lastWhere asksSecurity past

/-- The last known session that was asked for is the programming session. -/
def InProgramming (past : List ProgrammingRequest) : Prop :=
  lastWhere entersSession past = some (.sessionControl 0x02)

/-- A key was sent since the default or the programming session was last asked for. -/
def KeySinceLock (past : List ProgrammingRequest) : Prop := MarkedSince relocks (· == .sendKey) past

/-- The programming session is asked for behind a key and a key is sent behind a seed. In the
programming session a download is asked for only if a key was the last of the security requests exactly
when one was sent since the session began. -/
def InOrder (past : List ProgrammingRequest) : ProgrammingRequest → Prop
  | .sessionControl t => t = 0x02 → lastSecurity past = some .sendKey
  | .requestSeed => True
  | .sendKey => lastSecurity past = some .requestSeed
  | .requestDownload .. => InProgramming past → (lastSecurity past = some .sendKey ↔ KeySinceLock past)

theorem requests_concat (past : List PairStep) (e : PairStep) :
    requests (past ++ [e]) = requests past ++ [e.input.request] := by simp [requests]

theorem keySinceLock_concat (past : List ProgrammingRequest) (r : ProgrammingRequest) :
    KeySinceLock (past ++ [r]) ↔ r.relocks = false ∧ (KeySinceLock past ∨ r = .sendKey) := by
  unfold KeySinceLock
  cases hlocks : r.relocks with
  | true => exact iff_of_false (not_markedSince_concat hlocks past) (by simp)
  | false => simp [markedSince_concat hlocks]

theorem inProgramming_concat (past : List ProgrammingRequest) (t : UInt8) :
    InProgramming (past ++ [.sessionControl t]) ↔
      t = 0x02 ∨ (¬ (t = 0x01 ∨ t = 0x02 ∨ t = 0x03) ∧ InProgramming past) := by
  unfold InProgramming
  cases hknown : entersSession (.sessionControl t) with
  | true =>
    rw [lastWhere_concat_pos hknown]
    have hmem : t = 0x01 ∨ t = 0x02 ∨ t = 0x03 := by simpa [entersSession, or_assoc] using hknown
    simp [hmem]
  | false =>
    rw [lastWhere_concat_neg hknown]
    have hmem : ¬ (t = 0x01 ∨ t = 0x02 ∨ t = 0x03) := by simpa [entersSession, and_assoc] using hknown
    have htwo : ¬ t = 0x02 := fun ht => hmem (Or.inr (Or.inl ht))
    rw [or_iff_right htwo, and_iff_right hmem]

end Order

/-! ## Both sides of a step -/

section Simulator
variable {h : UdsHandler} {seed : GeneratedSeed}

/-- What the simulator asks of its state before it answers positively. -/
def SimulatorAccepts (h : UdsHandler) : ProgrammingRequest → Prop
  | .sessionControl t => t = 0x01 ∨ (t = 0x02 ∧ h.securityLevel = .unlocked) ∨ t = 0x03
  | .requestSeed => True
  | .sendKey => h.securityLevel = .seedSent
  | .requestDownload .. => h.currentSession = .programming ∧ h.securityLevel = .unlocked

abbrev simulate (h : UdsHandler) (seed : GeneratedSeed) (request : ProgrammingRequest) :
    UdsHandler × UdsResponse :=
  h.handleRequest seed (request.decoded (expectedKey h.currentSeed))

theorem simulate_session_eq (t : UInt8) : simulate h seed (.sessionControl t) =
    h.handleDiagnosticSession ⟨UdsService.diagnosticSessionControl, 0, [t]⟩ := UdsHandler.handleRequest_session

theorem simulate_download_eq (dataFormat : UInt8) (address size : UInt32) :
    simulate h seed (.requestDownload dataFormat address size) = h.handleRequestDownload
      ⟨UdsService.requestDownload, 0, dataFormat :: 0x44 :: (beBytes32 address ++ beBytes32 size)⟩ :=
  UdsHandler.handleRequest_download

theorem simulate_sendKey : simulate h seed .sendKey =
    if h.securityLevel ≠ .seedSent then (h, createNegativeResponse 0x27 NRC.generalReject)
    else ({ h with securityLevel := .unlocked }, createPositiveResponse 0x27 [0x02]) := by
  have hverify : verifySeedKey h.currentSeed (expectedKey h.currentSeed) = true := beq_self_eq_true _
  have hchecked : simulate h seed .sendKey = h.checkKey 0x02
      ⟨UdsService.securityAccess, 0, 0x02 :: beBytes32 (expectedKey h.currentSeed)⟩ :=
    UdsHandler.handleRequest_security
  rw [hchecked]
  simp only [UdsHandler.checkKey, beBytes32, word32_bytes, hverify, if_true]
  rfl

theorem simulator_positive_iff (request : ProgrammingRequest) :
    (simulate h seed request).2.positive = true ↔ SimulatorAccepts h request := by
  cases request with
  | sessionControl t =>
    rw [simulate_session_eq]
    unfold UdsHandler.handleDiagnosticSession SimulatorAccepts
    dsimp only
    split_ifs with h1 h2 hlocked h3 <;> simp_all [createPositiveResponse, UdsHandler.refuse, createNegativeResponse]
  | requestSeed => exact iff_of_true rfl trivial
  | sendKey =>
    rw [simulate_sendKey]
    split
    case isTrue hlevel => exact iff_of_false Bool.false_ne_true hlevel
    case isFalse hlevel => exact iff_of_true rfl (not_not.mp hlevel)
  | requestDownload dataFormat address size =>
    rw [simulate_download_eq]
    unfold UdsHandler.handleRequestDownload SimulatorAccepts
    split_ifs with hsession hlocked <;>
      simp_all [createPositiveResponse, UdsHandler.refuse, createNegativeResponse]

/-- The session behind a request that names one. -/
theorem simulate_sessionControl (t : UInt8) : (simulate h seed (.sessionControl t)).1 = { h with
    currentSession := if t = 0x01 then .default
      else if t = 0x02 ∧ h.securityLevel = .unlocked then .programming
      else if t = 0x03 then .extended else h.currentSession } := by
  rw [simulate_session_eq]
  unfold UdsHandler.handleDiagnosticSession
  dsimp only
  split_ifs with h1 h2 hlocked h3 <;> simp_all [UdsHandler.refuse]

/-- An unlocked simulator starts the programming session. -/
theorem simulate_session {t : UInt8} (hunlocked : t = 0x02 → h.securityLevel = .unlocked) :
    (simulate h seed (.sessionControl t)).1.currentSession = .programming ↔
      t = 0x02 ∨ (¬ (t = 0x01 ∨ t = 0x02 ∨ t = 0x03) ∧ h.currentSession = .programming) := by
  rw [simulate_sessionControl]
  by_cases h1 : t = 0x01
  · simp [h1]
  by_cases h2 : t = 0x02
  · simp [h2, hunlocked h2]
  by_cases h3 : t = 0x03
  · simp [h3]
  · simp [h1, h2, h3]

theorem simulate_requestSeed :
    (simulate h seed .requestSeed).1 = { h with currentSeed := seed.value, securityLevel := .seedSent } := rfl

theorem simulate_requestDownload (h : UdsHandler) (seed : GeneratedSeed) (dataFormat : UInt8)
    (address size : UInt32) : ∃ download, (simulate h seed (.requestDownload dataFormat address size)).1 =
      { h with downloadState := download } := by
  rw [simulate_download_eq]
  unfold UdsHandler.handleRequestDownload
  split_ifs
  · exact ⟨h.downloadState, rfl⟩
  · exact ⟨h.downloadState, rfl⟩
  · exact ⟨⟨true, 1⟩, rfl⟩

end Simulator

section Device
open Uds
variable {calculateKey} {h : UDSHandler} {platform : Platform} {respCap : ℕ}

abbrev serve (calculateKey : UInt32 → UInt32) (h : UDSHandler) (platform : Platform) (respCap : ℕ)
    (request : ProgrammingRequest) : UDSHandler × Reply :=
  udsHandlerProcess calculateKey h ⟨request.wire (calculateKey h.seed), respCap, platform⟩

theorem positiveReply_carriedOut {sid : UInt8} {data : List UInt8} {calls : List PlatformCall}
    (hroom : 1 + data.length ≤ respCap) : PositiveReply sid ⟨carriedOut sid data respCap, calls⟩ := by
  rw [PositiveReply, carriedOut_eq hroom]
  rfl

theorem not_positiveReply_negative {sid nrc : UInt8} {calls : List PlatformCall}
    (hsid : negativeResponse ≠ sid + positiveResponseOffset) :
    ¬ PositiveReply sid ⟨udsBuildNegativeResponse sid nrc respCap, calls⟩ := by
  unfold PositiveReply udsBuildNegativeResponse
  split
  case isTrue => simp
  case isFalse => simpa using hsid

theorem serve_sessionControl (hroom : 6 ≤ respCap) (t : UInt8) :
    (serve calculateKey h platform respCap (.sessionControl t)).1 =
        (if t = 0x01 ∨ t = 0x02 ∨ t = 0x03 then enterSession h t else h) ∧
      (PositiveReply Sid.diagnosticSessionControl
          (serve calculateKey h platform respCap (.sessionControl t)).2 ↔
        t = 0x01 ∨ t = 0x02 ∨ t = 0x03) := by
  have hserved : serve calculateKey h platform respCap (.sessionControl t) =
      (if t = 0x01 ∨ t = 0x02 ∨ t = 0x03 then
        (enterSession h t, ⟨carriedOut Sid.diagnosticSessionControl [t] respCap, []⟩)
      else (h, ⟨udsBuildNegativeResponse Sid.diagnosticSessionControl Nrc.subFunctionNotSupported respCap, []⟩)) := by
    show ((udsServiceDiagnosticSessionControl h ⟨[0x10, t], respCap, platform⟩).handler,
      (udsServiceDiagnosticSessionControl h ⟨[0x10, t], respCap, platform⟩).toReply _ respCap) = _
    by_cases h1 : t = 0x01
    · subst h1; rfl
    by_cases h2 : t = 0x02
    · subst h2; rfl
    by_cases h3 : t = 0x03
    · subst h3; rfl
    · simp [udsServiceDiagnosticSessionControl, Request.byte, h1, h2, h3, refuse, ServiceResult.toReply,
        ProgrammingRequest.sid]
  rw [hserved]
  split
  case isTrue hknown => exact ⟨rfl, iff_of_true (positiveReply_carriedOut (by simp; omega)) hknown⟩
  case isFalse hunknown => exact ⟨rfl, iff_of_false (not_positiveReply_negative (by decide)) hunknown⟩

/-- The device starts every known session, and locks for two of them. -/
theorem serve_session (calculateKey : UInt32 → UInt32) (h : UDSHandler) (platform : Platform)
    (hroom : 6 ≤ respCap) (t : UInt8) :
    ((serve calculateKey h platform respCap (.sessionControl t)).1.session = .programming ↔
        t = 0x02 ∨ (¬ (t = 0x01 ∨ t = 0x02 ∨ t = 0x03) ∧ h.session = .programming)) ∧
      ((serve calculateKey h platform respCap (.sessionControl t)).1.security = .unlocked ↔
        (ProgrammingRequest.sessionControl t).relocks = false ∧ h.security = .unlocked) ∧
      (serve calculateKey h platform respCap (.sessionControl t)).1.securityAttempts = h.securityAttempts := by
  have hdefault : enterSession h 0x01 = { h with session := .default, security := .locked } := rfl
  have hprogramming : enterSession h 0x02 = { h with session := .programming, security := .locked } := rfl
  have hextended : enterSession h 0x03 = { h with session := .extendedDiagnostic } := rfl
  rw [(serve_sessionControl hroom t).1]
  by_cases h1 : t = 0x01
  · simp [h1, hdefault, ProgrammingRequest.relocks]
  by_cases h2 : t = 0x02
  · simp [h2, hprogramming, ProgrammingRequest.relocks]
  by_cases h3 : t = 0x03
  · simp [h3, hextended, ProgrammingRequest.relocks]
  · simp [h1, h2, h3, ProgrammingRequest.relocks]

theorem lockoutPassed_of_zero {r : Request} (hattempts : h.securityAttempts = 0) : LockoutPassed h r :=
  Or.inl (by rw [hattempts]; decide)

theorem serve_requestSeed (calculateKey : UInt32 → UInt32) (platform : Platform) (hroom : 6 ≤ respCap)
    (hattempts : h.securityAttempts = 0) : ∃ seed,
      (serve calculateKey h platform respCap .requestSeed).1 = { h with seed := seed } ∧
      PositiveReply Sid.securityAccess (serve calculateKey h platform respCap .requestSeed).2 := by
  let r : Request := ⟨[0x27, 0x01], respCap, platform⟩
  have hserved : udsServiceSecurityAccess calculateKey h r = requestSeed h r [] := by
    rw [udsServiceSecurityAccess, hattempts]
    rfl
  show ∃ seed, (udsServiceSecurityAccess calculateKey h r).handler = _ ∧
    PositiveReply _ ((udsServiceSecurityAccess calculateKey h r).toReply _ respCap)
  rw [hserved, requestSeed]
  split
  case isTrue => exact ⟨h.seed, rfl, positiveReply_carriedOut hroom⟩
  case isFalse => exact ⟨platform.seed, rfl, positiveReply_carriedOut hroom⟩

theorem serve_sendKey (calculateKey : UInt32 → UInt32) (platform : Platform) (hroom : 6 ≤ respCap)
    (hattempts : h.securityAttempts = 0) :
    (serve calculateKey h platform respCap .sendKey).1 =
        { h with security := .unlocked, securityAttempts := 0 } ∧
      PositiveReply Sid.securityAccess (serve calculateKey h platform respCap .sendKey).2 := by
  have hchecked : KeyChecked h ⟨ProgrammingRequest.sendKey.wire (calculateKey h.seed), respCap, platform⟩ :=
    ⟨rfl, Nat.le_refl 6, rfl, lockoutPassed_of_zero hattempts⟩
  rw [serve, process_key hchecked (word32_bytes _)]
  exact ⟨rfl, positiveReply_carriedOut (by simp; omega)⟩

theorem serve_requestDownload (calculateKey : UInt32 → UInt32) (h : UDSHandler) (platform : Platform)
    (hroom : 6 ≤ respCap) (dataFormat : UInt8) (address size : UInt32) :
    ∃ h', (serve calculateKey h platform respCap (.requestDownload dataFormat address size)).1 = h' ∧
      (h'.session = h.session ∧ h'.security = h.security ∧ h'.securityAttempts = h.securityAttempts) ∧
      (PositiveReply Sid.requestDownload
          (serve calculateKey h platform respCap (.requestDownload dataFormat address size)).2 ↔
        h.session = .programming ∧ h.security = .unlocked) := by
  let r : Request :=
    ⟨(ProgrammingRequest.requestDownload dataFormat address size).wire (calculateKey h.seed), respCap, platform⟩
  have hasks : r.Asks Sid.requestDownload := rfl
  by_cases hchecked : h.session = .programming ∧ h.security = .unlocked
  · have haddr : addrBytes r = 4 := show ((0x44 : UInt8) >>> 4 &&& 0x0F).toNat = 4 by decide
    have hsize : sizeBytes r = 4 := show ((0x44 : UInt8) &&& 0x0F).toNat = 4 by decide
    have hlength : r.bytes.length = 11 := rfl
    have hfour : 1 + [(0x20 : UInt8), 0x04, 0x00].length ≤ respCap := Nat.le_of_succ_le (Nat.le_of_succ_le hroom)
    rw [serve, process_download ⟨hasks, hchecked.1, hchecked.2, by omega, by omega⟩]
    exact ⟨_, rfl, ⟨rfl, rfl, rfl⟩, iff_of_true (positiveReply_carriedOut hfour) hchecked⟩
  · obtain ⟨nrc, hserved⟩ : ∃ nrc, udsServiceRequestDownload h r = refuse h nrc := by
      by_cases hsession : h.session = .programming
      · have hlocked : h.security ≠ .unlocked := fun hunlocked => hchecked ⟨hsession, hunlocked⟩
        exact ⟨Nrc.securityAccessDenied, by simp [udsServiceRequestDownload, r, ProgrammingRequest.wire,
          ProgrammingRequest.parameters, hsession, hlocked]⟩
      · exact ⟨Nrc.conditionsNotCorrect, by simp [udsServiceRequestDownload, r, ProgrammingRequest.wire,
          ProgrammingRequest.parameters, hsession]⟩
    rw [serve, process_served (by simp [serviceTable]) hasks hserved]
    exact ⟨h, rfl, ⟨rfl, rfl, rfl⟩, iff_of_false (not_positiveReply_negative (by decide)) hchecked⟩

end Device

/-! ## The run -/

/-- What the states of both sides say about the requests so far. -/
structure Tracks (past : List ProgrammingRequest) (s : Pair) : Prop where
  simulatorSession : s.simulator.currentSession = .programming ↔ InProgramming past
  deviceSession : s.device.session = .programming ↔ InProgramming past
  seedSent : s.simulator.securityLevel = .seedSent ↔ lastSecurity past = some .requestSeed
  unlocked : s.simulator.securityLevel = .unlocked ↔ lastSecurity past = some .sendKey
  deviceUnlocked : s.device.security = .unlocked ↔ KeySinceLock past
  attempts : s.device.securityAttempts = 0

theorem tracks_init : Tracks [] pairInit where
  simulatorSession := by simp [pairInit, UdsHandler.construct, InProgramming]
  deviceSession := by simp [pairInit, Uds.udsHandlerInit, InProgramming]
  seedSent := by simp [pairInit, UdsHandler.construct]
  unlocked := by simp [pairInit, UdsHandler.construct]
  deviceUnlocked := by simp [pairInit, Uds.udsHandlerInit, KeySinceLock, not_markedSince_nil]
  attempts := rfl

section Step
variable {calculateKey} {past : List ProgrammingRequest} {s : Pair} {i : PairInput}

theorem agrees_iff (htracks : Tracks past s) :
    Agrees i.request ((pairMachine calculateKey).step s i).2 ↔ InOrder past i.request := by
  obtain ⟨request, seed, platform, respCap, hroom⟩ := i
  show ((simulate s.simulator seed request).2.positive = true ↔
    PositiveReply request.sid (serve calculateKey s.device platform respCap request).2) ↔ _
  rw [simulator_positive_iff]
  cases request with
  | sessionControl t =>
    rw [show ProgrammingRequest.sid (.sessionControl t) = Uds.Sid.diagnosticSessionControl from rfl,
      (serve_sessionControl hroom t).2, InOrder, ← htracks.unlocked, SimulatorAccepts]
    by_cases h2 : t = 0x02
    · subst h2; simp
    · simp [h2]
  | requestSeed =>
    obtain ⟨_, -, hpositive⟩ := serve_requestSeed calculateKey platform hroom htracks.attempts
    exact iff_of_true (iff_of_true trivial hpositive) trivial
  | sendKey =>
    have hpositive := (serve_sendKey calculateKey platform hroom htracks.attempts).2
    exact (iff_true_right hpositive).trans htracks.seedSent
  | requestDownload dataFormat address size =>
    obtain ⟨_, -, -, hpositive⟩ := serve_requestDownload calculateKey s.device platform
      hroom dataFormat address size
    rw [show ProgrammingRequest.sid (.requestDownload dataFormat address size) = Uds.Sid.requestDownload from rfl,
      hpositive, InOrder, SimulatorAccepts, htracks.simulatorSession, htracks.deviceSession, htracks.unlocked,
      htracks.deviceUnlocked, and_congr_right_iff]

theorem tracks_step (htracks : Tracks past s) (horder : InOrder past i.request) :
    Tracks (past ++ [i.request]) ((pairMachine calculateKey).step s i).1 := by
  obtain ⟨request, seed, platform, respCap, hroom⟩ := i
  show Tracks (past ++ [request]) ⟨(simulate s.simulator seed request).1,
    (serve calculateKey s.device platform respCap request).1⟩
  have hsession (hother : request.entersSession = false) :
      InProgramming (past ++ [request]) ↔ InProgramming past := by
    rw [InProgramming, lastWhere_concat_neg hother, InProgramming]
  cases request with
  | sessionControl t =>
    have hlast : lastSecurity (past ++ [.sessionControl t]) = lastSecurity past := lastWhere_concat_neg rfl _
    obtain ⟨hstarted, hsecurity, hattempts⟩ := serve_session calculateKey s.device platform hroom t
    constructor
    · rw [inProgramming_concat, ← htracks.simulatorSession]
      exact simulate_session fun ht => htracks.unlocked.mpr (horder ht)
    · rw [inProgramming_concat, ← htracks.deviceSession]
      exact hstarted
    · rw [simulate_sessionControl, hlast]
      exact htracks.seedSent
    · rw [simulate_sessionControl, hlast]
      exact htracks.unlocked
    · rw [keySinceLock_concat, ← htracks.deviceUnlocked]
      simp [hsecurity]
    · exact hattempts.trans htracks.attempts
  | requestSeed =>
    obtain ⟨_, hdevice, -⟩ := serve_requestSeed calculateKey platform hroom htracks.attempts
    have hlast : lastSecurity (past ++ [.requestSeed]) = some .requestSeed := lastWhere_concat_pos rfl _
    rw [simulate_requestSeed, hdevice]
    constructor
    · exact htracks.simulatorSession.trans (hsession rfl).symm
    · exact htracks.deviceSession.trans (hsession rfl).symm
    · exact iff_of_true rfl hlast
    · rw [hlast]
      simp
    · rw [keySinceLock_concat, ← htracks.deviceUnlocked]
      simp [ProgrammingRequest.relocks]
    · exact htracks.attempts
  | sendKey =>
    have hlast : lastSecurity (past ++ [.sendKey]) = some .sendKey := lastWhere_concat_pos rfl _
    have hlevel : ¬ s.simulator.securityLevel ≠ .seedSent := not_not.mpr (htracks.seedSent.mpr horder)
    rw [simulate_sendKey, if_neg hlevel, (serve_sendKey calculateKey platform hroom htracks.attempts).1]
    constructor
    · exact htracks.simulatorSession.trans (hsession rfl).symm
    · exact htracks.deviceSession.trans (hsession rfl).symm
    · rw [hlast]
      simp
    · exact iff_of_true rfl hlast
    · rw [keySinceLock_concat]
      exact iff_of_true rfl ⟨rfl, Or.inr rfl⟩
    · rfl
  | requestDownload dataFormat address size =>
    obtain ⟨_, hdevice, ⟨hsame, hsecurity, hattempts⟩, -⟩ := serve_requestDownload calculateKey s.device platform
      hroom dataFormat address size
    obtain ⟨_, hsimulator⟩ := simulate_requestDownload s.simulator seed dataFormat address size
    have hlast : lastSecurity (past ++ [.requestDownload dataFormat address size]) = lastSecurity past :=
      lastWhere_concat_neg rfl _
    rw [hsimulator, hdevice]
    constructor
    · exact htracks.simulatorSession.trans (hsession rfl).symm
    · exact hsame ▸ htracks.deviceSession.trans (hsession rfl).symm
    · exact hlast ▸ htracks.seedSent
    · exact hlast ▸ htracks.unlocked
    · rw [keySinceLock_concat, ← htracks.deviceUnlocked, hsecurity]
      simp [ProgrammingRequest.relocks]
    · exact hattempts.trans htracks.attempts

end Step

/-- **Simulator and device.** The two give the same verdict on every request of a run exactly when every
request of the run is in order. -/
theorem simulator_agrees_iff (inputs : List PairInput) :
    (pairMachine calculateKey).Admits
        (fun _ s i => Agrees i.request ((pairMachine calculateKey).step s i).2) pairInit inputs ↔
      (pairMachine calculateKey).Admits (fun past _ i => InOrder (requests past) i.request) pairInit inputs := by
  refine Machine.admits_iff_of_invariant (P := fun past s => Tracks (requests past) s) tracks_init ?_ ?_ inputs
  · exact fun _ _ _ => agrees_iff
  · intro past s i htracks horder
    rw [requests_concat]
    exact tracks_step htracks horder

/-- A request with room for its response, on platforms that issue the least seed. -/
def plainInput (request : ProgrammingRequest) : PairInput :=
  ⟨request, ⟨0x10000000, by decide⟩, ⟨0, 0x01020304, 0⟩, 64, by decide⟩

/-- The documented order: programming session, seed, key, download. -/
theorem documented_order_refused :
    ¬ (pairMachine Uds.udsPlatformCalculateKey).Admits
      (fun _ s i => Agrees i.request ((pairMachine Uds.udsPlatformCalculateKey).step s i).2) pairInit
      ([.sessionControl 0x02, .requestSeed, .sendKey, .requestDownload 0x00 0x82000000 0x1000].map plainInput) := by
  intro hall
  have hfirst := (agrees_iff tracks_init).mp (hall [] (plainInput (.sessionControl 0x02)) _ rfl)
  exact absurd (hfirst rfl) (by simp)

end Mcus.Simulator
