import Mcus.Uds.Handler

/-! # What one request can do to the handler

`udsHandlerProcess_effect` is the inversion of the step function: whatever the request, the new
record and the reply are one of the nine cases of `Effect`, each with the checks the service made
on the way. Invariants are proved by cases on `Effect` and never unfold a service. The
`process_*` equations give the converse for a request known to reach a given service.
-/

namespace Mcus.Uds
open ByteOrder
set_option autoImplicit false

variable {calculateKey : UInt32 → UInt32} {h : UDSHandler} {r : Request}

/-! ## Dispatch -/

/-- The request is addressed to the service with identifier `sid`. -/
def Request.Asks (r : Request) (sid : UInt8) : Prop := r.bytes.head? = some sid

instance (r : Request) (sid : UInt8) : Decidable (r.Asks sid) := inferInstanceAs (Decidable (_ = _))

theorem Request.Asks.unique {sid sid' : UInt8} (h : r.Asks sid) (h' : r.Asks sid') : sid = sid' :=
  Option.some.inj (Eq.trans (Eq.symm h) h')

theorem process_entry {entry : UDSServiceEntry} (he : entry ∈ serviceTable calculateKey)
    (hr : r.Asks entry.sid) : udsHandlerProcess calculateKey h r =
      ((entry.handler h r).handler, (entry.handler h r).toReply entry.sid r.respCap) := by
  obtain ⟨rest, hb⟩ : ∃ rest, r.bytes = entry.sid :: rest := by
    unfold Request.Asks at hr
    cases hbytes : r.bytes with
    | nil => simp [hbytes] at hr
    | cons sid rest => exact ⟨rest, by simpa [hbytes] using hr⟩
  unfold udsHandlerProcess
  rw [hb]
  simp only [serviceTable, List.mem_cons, List.not_mem_nil, or_false] at he
  rcases he with rfl | rfl | rfl | rfl | rfl | rfl | rfl | rfl | rfl <;> rfl

theorem process_served {sid : UInt8} {service : UDSHandler → Request → ServiceResult} {res : ServiceResult}
    (he : ⟨sid, service⟩ ∈ serviceTable calculateKey) (hr : r.Asks sid) (hserved : service h r = res) :
    udsHandlerProcess calculateKey h r = (res.handler, res.toReply sid r.respCap) := by
  rw [process_entry he hr]
  dsimp only
  rw [hserved]

/-! ## The lockout check of SecurityAccess -/

def LockoutPassed (h : UDSHandler) (r : Request) : Prop :=
  h.securityAttempts < securityAccessAttempts ∨
    securityAccessDelayMs ≤ r.platform.tickMs - h.securityLockoutTime

def clearExpired (h : UDSHandler) : UDSHandler :=
  if h.securityAttempts ≥ securityAccessAttempts then { h with securityAttempts := 0 } else h

/-- The tick read of the lockout check. -/
def lockoutCalls (h : UDSHandler) (r : Request) : List PlatformCall :=
  if h.securityAttempts ≥ securityAccessAttempts then [.getTickMs r.platform.tickMs] else []

theorem lockoutCalls_mem {h : UDSHandler} {r : Request} {c : PlatformCall}
    (hc : c ∈ lockoutCalls h r) : c = .getTickMs r.platform.tickMs := by
  unfold lockoutCalls at hc
  split at hc
  · exact List.mem_singleton.mp hc
  · exact absurd hc List.not_mem_nil

theorem clearExpired_eq (h : UDSHandler) :
    clearExpired h = { h with securityAttempts := (clearExpired h).securityAttempts } := by
  unfold clearExpired
  split <;> rfl

section ClearExpired
variable (h : UDSHandler)

@[simp] theorem clearExpired_session : (clearExpired h).session = h.session := by
  rw [clearExpired_eq]
@[simp] theorem clearExpired_security : (clearExpired h).security = h.security := by
  rw [clearExpired_eq]
@[simp] theorem clearExpired_seed : (clearExpired h).seed = h.seed := by
  rw [clearExpired_eq]
@[simp] theorem clearExpired_lockoutTime :
    (clearExpired h).securityLockoutTime = h.securityLockoutTime := by
  rw [clearExpired_eq]
@[simp] theorem clearExpired_transferActive :
    (clearExpired h).transferActive = h.transferActive := by
  rw [clearExpired_eq]
@[simp] theorem clearExpired_blockSequenceCounter :
    (clearExpired h).blockSequenceCounter = h.blockSequenceCounter := by
  rw [clearExpired_eq]
@[simp] theorem clearExpired_transferAddress :
    (clearExpired h).transferAddress = h.transferAddress := by
  rw [clearExpired_eq]
@[simp] theorem clearExpired_transferSize : (clearExpired h).transferSize = h.transferSize := by
  rw [clearExpired_eq]
@[simp] theorem clearExpired_transferReceived :
    (clearExpired h).transferReceived = h.transferReceived := by
  rw [clearExpired_eq]

end ClearExpired

theorem clearExpired_attempts_lt (h : UDSHandler) :
    (clearExpired h).securityAttempts < securityAccessAttempts := by
  unfold clearExpired
  split
  case isTrue => exact (by decide : (0 : UInt8) < securityAccessAttempts)
  case isFalse hlt => exact UInt8.not_le.mp hlt

theorem securityAccess_passed (hlen : 2 ≤ r.bytes.length) (hp : LockoutPassed h r) :
    udsServiceSecurityAccess calculateKey h r =
      securityAccessBody calculateKey (clearExpired h) r (lockoutCalls h r) := by
  have hn : ¬ r.bytes.length < 2 := by omega
  unfold udsServiceSecurityAccess clearExpired lockoutCalls
  rw [if_neg hn]
  by_cases ha : h.securityAttempts ≥ securityAccessAttempts
  · have hd : ¬ r.platform.tickMs - h.securityLockoutTime < securityAccessDelayMs :=
      UInt32.not_lt.mpr (hp.resolve_left (UInt8.not_lt.mpr ha))
    simp only [ha, if_true, if_neg hd]
  · simp only [if_neg ha]

theorem securityAccess_locked (hlen : 2 ≤ r.bytes.length) (hp : ¬ LockoutPassed h r) :
    udsServiceSecurityAccess calculateKey h r =
      ⟨h, .error Nrc.requiredTimeDelayNotExpired, [.getTickMs r.platform.tickMs]⟩ := by
  have hn : ¬ r.bytes.length < 2 := by omega
  obtain ⟨ha, hd⟩ := not_or.mp hp
  unfold udsServiceSecurityAccess
  rw [if_neg hn, if_pos (UInt8.not_lt.mp ha), if_pos (UInt32.not_le.mp hd)]

/-! ## The effects -/

/-- The record in the session a DiagnosticSessionControl request names. -/
def enterSession (h : UDSHandler) (sessionType : UInt8) : UDSHandler :=
  if sessionType = sessionDefault then { h with session := .default, security := .locked }
  else if sessionType = sessionProgramming then { h with session := .programming, security := .locked }
  else { h with session := .extendedDiagnostic }

theorem enterSession_eq (h : UDSHandler) (sessionType : UInt8) :
    enterSession h sessionType = { h with
      session := (enterSession h sessionType).session
      security := (enterSession h sessionType).security } := by
  unfold enterSession
  split
  case isTrue => rfl
  case isFalse => split <;> rfl

section EnterSession
variable (h : UDSHandler) (sessionType : UInt8)

@[simp] theorem enterSession_seed : (enterSession h sessionType).seed = h.seed := by
  rw [enterSession_eq]
@[simp] theorem enterSession_securityAttempts :
    (enterSession h sessionType).securityAttempts = h.securityAttempts := by
  rw [enterSession_eq]
@[simp] theorem enterSession_securityLockoutTime :
    (enterSession h sessionType).securityLockoutTime = h.securityLockoutTime := by
  rw [enterSession_eq]
@[simp] theorem enterSession_transferActive :
    (enterSession h sessionType).transferActive = h.transferActive := by
  rw [enterSession_eq]
@[simp] theorem enterSession_blockSequenceCounter :
    (enterSession h sessionType).blockSequenceCounter = h.blockSequenceCounter := by
  rw [enterSession_eq]
@[simp] theorem enterSession_transferAddress :
    (enterSession h sessionType).transferAddress = h.transferAddress := by
  rw [enterSession_eq]
@[simp] theorem enterSession_transferSize :
    (enterSession h sessionType).transferSize = h.transferSize := by
  rw [enterSession_eq]
@[simp] theorem enterSession_transferReceived :
    (enterSession h sessionType).transferReceived = h.transferReceived := by
  rw [enterSession_eq]

end EnterSession

def countFailure (h : UDSHandler) (tick : UInt32) : UDSHandler :=
  { h with
    securityAttempts := h.securityAttempts + 1
    securityLockoutTime :=
      if h.securityAttempts + 1 ≥ securityAccessAttempts then tick else h.securityLockoutTime }

/-- The record with the download that the request declares under way. -/
def openDownload (h : UDSHandler) (r : Request) : UDSHandler :=
  { h with
    transferActive := true
    blockSequenceCounter := 1
    transferAddress := (addressField r).foldl shiftIn 0
    transferSize := (sizeField r).foldl shiftIn 0
    transferReceived := 0 }

def receiveBlock (h : UDSHandler) (r : Request) : UDSHandler :=
  { h with
    transferReceived := h.transferReceived + UInt32.ofNat (r.bytes.drop 2).length
    blockSequenceCounter := nextBlockSequenceCounter h.blockSequenceCounter }

/-- The flash write a TransferData request asks for. -/
def blockWrite (h : UDSHandler) (r : Request) : PlatformCall :=
  .writeFirmware (h.transferAddress + h.transferReceived) (r.bytes.drop 2) r.platform.writeStatus

/-- The checks of RequestDownload. -/
structure DownloadChecked (h : UDSHandler) (r : Request) : Prop where
  asks : r.Asks Sid.requestDownload
  session : h.session = .programming
  security : h.security = .unlocked
  length : 4 ≤ r.bytes.length ∧ 3 + addrBytes r + sizeBytes r ≤ r.bytes.length

/-- The checks of TransferData before the flash is written. -/
structure BlockChecked (h : UDSHandler) (r : Request) : Prop where
  asks : r.Asks Sid.transferData
  length : 2 ≤ r.bytes.length
  active : h.transferActive = true
  counter : r.byte 1 = h.blockSequenceCounter

/-- The checks of SecurityAccess before a key is compared. -/
structure KeyChecked (h : UDSHandler) (r : Request) : Prop where
  asks : r.Asks Sid.securityAccess
  length : 6 ≤ r.bytes.length
  subFunction : r.byte 1 = securityLevel2
  passed : LockoutPassed h r

/-- The reply to a request for a transfer service is negative. -/
def RefusesTransfer (r : Request) (reply : Reply) : Prop :=
  ∀ sid ∈ [Sid.requestDownload, Sid.transferData, Sid.requestTransferExit], r.Asks sid →
    ∃ nrc, reply.response = udsBuildNegativeResponse sid nrc r.respCap

/-- The response to a service that was carried out. -/
def carriedOut (sid : UInt8) (data : List UInt8) (respCap : ℕ) : Option (List UInt8) :=
  match positiveOrReject sid data respCap with
  | .ok response => some response
  | .error nrc => udsBuildNegativeResponse sid nrc respCap

inductive Effect (calculateKey : UInt32 → UInt32) (h : UDSHandler) (r : Request) :
    UDSHandler → Reply → Prop
  | quiet (reply : Reply)
      (hcalls : ∀ c ∈ reply.calls, (∃ t, c = .ecuReset t) ∨ ∃ t, c = .getTickMs t)
      (hrefuse : RefusesTransfer r reply) : Effect calculateKey h r h reply
  | session (response : Option (List UInt8)) (hasks : r.Asks Sid.diagnosticSessionControl)
      (hlen : 2 ≤ r.bytes.length) (htype : r.byte 1 ∈ [sessionDefault, sessionProgramming,
        sessionExtendedDiagnostic]) :
      Effect calculateKey h r (enterSession h (r.byte 1)) ⟨response, []⟩
  | security (response : Option (List UInt8)) (hasks : r.Asks Sid.securityAccess)
      (hpassed : LockoutPassed h r) :
      Effect calculateKey h r (clearExpired h) ⟨response, lockoutCalls h r⟩
  | seed (hasks : r.Asks Sid.securityAccess) (hsub : r.byte 1 = securityLevel1)
      (hpassed : LockoutPassed h r) (hlocked : h.security = .locked) :
      Effect calculateKey h r { clearExpired h with seed := r.platform.seed }
        ⟨carriedOut Sid.securityAccess (securityLevel1 :: beBytes32 r.platform.seed) r.respCap,
          lockoutCalls h r ++ [.generateSeed r.platform.seed]⟩
  | keyAccepted (hchecked : KeyChecked h r) (hkey : receivedKey r = calculateKey h.seed) :
      Effect calculateKey h r { h with security := .unlocked, securityAttempts := 0 }
        ⟨carriedOut Sid.securityAccess [securityLevel2] r.respCap,
          lockoutCalls h r ++ [.calculateKey h.seed]⟩
  | keyWrong (reply : Reply) (hchecked : KeyChecked h r) (hkey : receivedKey r ≠ calculateKey h.seed)
      (hcalls : ∃ cs, reply.calls = lockoutCalls h r ++ .calculateKey h.seed :: cs ∧
        ∀ c ∈ cs, ∃ t, c = .getTickMs t) :
      Effect calculateKey h r (countFailure (clearExpired h) r.platform.tickMs) reply
  | download (hchecked : DownloadChecked h r) :
      Effect calculateKey h r (openDownload h r)
        ⟨carriedOut Sid.requestDownload [0x20, 0x04, 0x00] r.respCap, []⟩
  | block (hchecked : BlockChecked h r) (hstatus : r.platform.writeStatus = 0) :
      Effect calculateKey h r (receiveBlock h r)
        ⟨carriedOut Sid.transferData [r.byte 1] r.respCap, [blockWrite h r]⟩
  | blockFailed (hchecked : BlockChecked h r) (hstatus : r.platform.writeStatus ≠ 0) :
      Effect calculateKey h r h
        ⟨udsBuildNegativeResponse Sid.transferData Nrc.generalProgrammingFailure r.respCap,
          [blockWrite h r]⟩
  | exit (hasks : r.Asks Sid.requestTransferExit) (hactive : h.transferActive = true)
      (hsize : h.transferReceived = h.transferSize) :
      Effect calculateKey h r { h with transferActive := false }
        ⟨carriedOut Sid.requestTransferExit [] r.respCap, []⟩

/-! ## Every service has one of these effects -/

/-- The record and the reply that a service result turns into. -/
abbrev HasEffect (calculateKey : UInt32 → UInt32) (h : UDSHandler) (r : Request) (sid : UInt8)
    (res : ServiceResult) : Prop :=
  Effect calculateKey h r res.handler (res.toReply sid r.respCap)

theorem refusesTransfer_negative {sid nrc : UInt8} (hr : r.Asks sid) (calls : List PlatformCall) :
    RefusesTransfer r ⟨udsBuildNegativeResponse sid nrc r.respCap, calls⟩ := by
  intro sid' _ hr'
  exact ⟨nrc, by rw [hr.unique hr']⟩

theorem refusesTransfer_other {sid : UInt8} (hr : r.Asks sid)
    (hsid : sid ∉ [Sid.requestDownload, Sid.transferData, Sid.requestTransferExit]) (reply : Reply) :
    RefusesTransfer r reply := by
  intro sid' hmem hr'
  exact absurd (hr.unique hr' ▸ hmem) hsid

theorem refuse_effect {sid nrc : UInt8} (hr : r.Asks sid) :
    HasEffect calculateKey h r sid (refuse h nrc) :=
  .quiet _ (fun _ hc => by simp [refuse, ServiceResult.toReply] at hc) (refusesTransfer_negative hr _)

theorem sessionControl_effect (hr : r.Asks Sid.diagnosticSessionControl) :
    HasEffect calculateKey h r Sid.diagnosticSessionControl
      (udsServiceDiagnosticSessionControl h r) := by
  unfold udsServiceDiagnosticSessionControl
  split
  case isTrue => exact refuse_effect hr
  case isFalse hlen =>
    have henter := @Effect.session calculateKey h r
      (carriedOut Sid.diagnosticSessionControl [r.byte 1] r.respCap) hr (by omega)
    dsimp only
    split
    case isTrue h1 =>
      have he : enterSession h (r.byte 1) = { h with session := .default, security := .locked } :=
        if_pos h1
      exact he ▸ henter (by simp [h1])
    case isFalse h1 =>
      split
      case isTrue h2 =>
        have he : enterSession h (r.byte 1) = { h with session := .programming, security := .locked } :=
          (if_neg h1).trans (if_pos h2)
        exact he ▸ henter (by simp [h2])
      case isFalse h2 =>
        split
        case isTrue h3 =>
          have he : enterSession h (r.byte 1) = { h with session := .extendedDiagnostic } :=
            (if_neg h1).trans (if_neg h2)
          exact he ▸ henter (by simp [h3])
        case isFalse h3 => exact refuse_effect hr

theorem readOnly_effect {sid : UInt8} (hr : r.Asks sid)
    (hsid : sid ∉ [Sid.requestDownload, Sid.transferData, Sid.requestTransferExit])
    (ret : Except UInt8 (List UInt8)) : HasEffect calculateKey h r sid ⟨h, ret, []⟩ :=
  .quiet _ (fun _ hc => absurd hc List.not_mem_nil) (refusesTransfer_other hr hsid _)

theorem ecuReset_effect (hr : r.Asks Sid.ecuReset) :
    HasEffect calculateKey h r Sid.ecuReset (udsServiceEcuReset h r) := by
  unfold udsServiceEcuReset
  dsimp only
  split
  case isTrue => exact refuse_effect hr
  case isFalse =>
    split
    case isTrue => exact refuse_effect hr
    case isFalse =>
      split
      case h_1 response _ =>
        refine .quiet _ ?_ (refusesTransfer_other hr (by decide) _)
        intro c hc
        exact Or.inl ⟨_, List.mem_singleton.mp hc⟩
      case h_2 => exact refuse_effect hr

theorem testerPresent_effect (hr : r.Asks Sid.testerPresent) :
    HasEffect calculateKey h r Sid.testerPresent (udsServiceTesterPresent h r) := by
  unfold udsServiceTesterPresent
  split
  case isTrue => exact refuse_effect hr
  case isFalse => exact readOnly_effect hr (by decide) _

theorem readDataById_effect (hr : r.Asks Sid.readDataByIdentifier) :
    HasEffect calculateKey h r Sid.readDataByIdentifier (udsServiceReadDataById h r) := by
  unfold udsServiceReadDataById
  dsimp only
  split
  case isTrue => exact refuse_effect hr
  case isFalse =>
    split
    case isTrue => exact readOnly_effect hr (by decide) _
    case isFalse => exact refuse_effect hr

theorem writeDataById_effect (hr : r.Asks Sid.writeDataByIdentifier) :
    HasEffect calculateKey h r Sid.writeDataByIdentifier (udsServiceWriteDataById h r) := by
  unfold udsServiceWriteDataById
  dsimp only
  split
  case isTrue => exact refuse_effect hr
  case isFalse =>
    split
    case isTrue => exact refuse_effect hr
    case isFalse => exact readOnly_effect hr (by decide) _

theorem Effect.of_handler_eq {h' h'' : UDSHandler} {reply : Reply} (he : h' = h'')
    (e : Effect calculateKey h r h'' reply) : Effect calculateKey h r h' reply := he ▸ e

theorem requestSeed_effect (hr : r.Asks Sid.securityAccess) (hsub : r.byte 1 = securityLevel1)
    (hp : LockoutPassed h r) :
    HasEffect calculateKey h r Sid.securityAccess
      (requestSeed (clearExpired h) r (lockoutCalls h r)) := by
  unfold requestSeed
  dsimp only
  rw [hsub]
  split
  case isTrue => exact .security _ hr hp
  case isFalse hlocked =>
    rw [clearExpired_security] at hlocked
    refine .seed hr hsub hp ?_
    cases hsec : h.security with
    | locked => rfl
    | unlocked => exact absurd hsec hlocked

theorem sendKey_effect (hr : r.Asks Sid.securityAccess) (hsub : r.byte 1 = securityLevel2)
    (hp : LockoutPassed h r) :
    HasEffect calculateKey h r Sid.securityAccess
      (sendKey calculateKey (clearExpired h) r (lockoutCalls h r)) := by
  unfold sendKey
  rw [hsub, clearExpired_seed]
  split
  case isTrue => exact .security _ hr hp
  case isFalse hlen =>
    have hchecked : KeyChecked h r := ⟨hr, by omega, hsub, hp⟩
    split
    case isTrue hkey => exact .of_handler_eq (by simp) (.keyAccepted hchecked hkey)
    case isFalse hkey =>
      dsimp only
      split
      case isTrue hthree =>
        exact .of_handler_eq (by simp [countFailure, hthree]) (.keyWrong _ hchecked hkey
          ⟨_, rfl, fun c hc => ⟨_, List.mem_singleton.mp hc⟩⟩)
      case isFalse hthree =>
        exact .of_handler_eq (by simp [countFailure, hthree]) (.keyWrong _ hchecked hkey
          ⟨[], rfl, fun c hc => absurd hc List.not_mem_nil⟩)

theorem securityAccessBody_effect (hr : r.Asks Sid.securityAccess) (hp : LockoutPassed h r) :
    HasEffect calculateKey h r Sid.securityAccess
      (securityAccessBody calculateKey (clearExpired h) r (lockoutCalls h r)) := by
  unfold securityAccessBody
  split
  case isTrue hseed => exact requestSeed_effect hr hseed hp
  case isFalse =>
    split
    case isTrue hkey => exact sendKey_effect hr hkey hp
    case isFalse => exact .security _ hr hp

theorem securityAccess_effect (hr : r.Asks Sid.securityAccess) :
    HasEffect calculateKey h r Sid.securityAccess (udsServiceSecurityAccess calculateKey h r) := by
  by_cases hlen : 2 ≤ r.bytes.length
  · by_cases hp : LockoutPassed h r
    · rw [securityAccess_passed hlen hp]
      exact securityAccessBody_effect hr hp
    · rw [securityAccess_locked hlen hp]
      refine .quiet _ ?_ (refusesTransfer_other hr (by decide) _)
      intro c hc
      exact Or.inr ⟨_, List.mem_singleton.mp hc⟩
  · unfold udsServiceSecurityAccess
    rw [if_pos (by omega)]
    exact refuse_effect hr

theorem requestDownload_effect (hr : r.Asks Sid.requestDownload) :
    HasEffect calculateKey h r Sid.requestDownload (udsServiceRequestDownload h r) := by
  unfold udsServiceRequestDownload
  dsimp only
  split
  case isTrue => exact refuse_effect hr
  case isFalse hfour =>
    split
    case isTrue => exact refuse_effect hr
    case isFalse hsession =>
      split
      case isTrue => exact refuse_effect hr
      case isFalse hsecurity =>
        split
        case isTrue => exact refuse_effect hr
        case isFalse hfields =>
          exact .download ⟨hr, not_not.mp hsession, not_not.mp hsecurity, by omega, by omega⟩

theorem transferData_effect (hr : r.Asks Sid.transferData) :
    HasEffect calculateKey h r Sid.transferData (udsServiceTransferData h r) := by
  unfold udsServiceTransferData
  dsimp only
  split
  case isTrue => exact refuse_effect hr
  case isFalse hlen =>
    split
    case isTrue => exact refuse_effect hr
    case isFalse hactive =>
      split
      case isTrue => exact refuse_effect hr
      case isFalse hcounter =>
        have hchecked : BlockChecked h r :=
          ⟨hr, by omega, Bool.eq_true_of_not_eq_false hactive, not_not.mp hcounter⟩
        split
        case isTrue hstatus => exact .blockFailed hchecked hstatus
        case isFalse hstatus => exact .block hchecked (not_not.mp hstatus)

theorem requestTransferExit_effect (hr : r.Asks Sid.requestTransferExit) :
    HasEffect calculateKey h r Sid.requestTransferExit (udsServiceRequestTransferExit h r) := by
  unfold udsServiceRequestTransferExit
  split
  case isTrue => exact refuse_effect hr
  case isFalse hactive =>
    split
    case isTrue => exact refuse_effect hr
    case isFalse hsize =>
      exact .exit hr (Bool.eq_true_of_not_eq_false hactive) (not_not.mp hsize)

theorem serviceTable_effect {entry : UDSServiceEntry} (he : entry ∈ serviceTable calculateKey)
    (hr : r.Asks entry.sid) : HasEffect calculateKey h r entry.sid (entry.handler h r) := by
  simp only [serviceTable, List.mem_cons, List.not_mem_nil, or_false] at he
  rcases he with rfl | rfl | rfl | rfl | rfl | rfl | rfl | rfl | rfl
  · exact sessionControl_effect hr
  · exact ecuReset_effect hr
  · exact securityAccess_effect hr
  · exact testerPresent_effect hr
  · exact readDataById_effect hr
  · exact writeDataById_effect hr
  · exact requestDownload_effect hr
  · exact transferData_effect hr
  · exact requestTransferExit_effect hr

/-- **What a step can do.** -/
theorem udsHandlerProcess_effect (calculateKey : UInt32 → UInt32) (h : UDSHandler) (r : Request) :
    Effect calculateKey h r (udsHandlerProcess calculateKey h r).1
      (udsHandlerProcess calculateKey h r).2 := by
  cases hb : r.bytes with
  | nil =>
    have he : udsHandlerProcess calculateKey h r = (h, ⟨none, []⟩) := by
      unfold udsHandlerProcess
      rw [hb]
    rw [he]
    refine .quiet _ (fun _ hc => absurd hc List.not_mem_nil) ?_
    intro sid _ hr
    simp [Request.Asks, hb] at hr
  | cons sid rest =>
    have hr : r.Asks sid := by simp [Request.Asks, hb]
    cases hf : (serviceTable calculateKey).find? (·.sid == sid) with
    | none =>
      have he : udsHandlerProcess calculateKey h r =
          (h, ⟨udsBuildNegativeResponse sid Nrc.serviceNotSupported r.respCap, []⟩) := by
        unfold udsHandlerProcess
        rw [hb]
        simp only [hf]
      rw [he]
      exact .quiet _ (fun _ hc => absurd hc List.not_mem_nil) (refusesTransfer_negative hr _)
    | some entry =>
      have hmem := List.mem_of_find?_eq_some hf
      have hsid : entry.sid = sid := by simpa using List.find?_some hf
      subst hsid
      rw [process_entry hmem hr]
      exact serviceTable_effect hmem hr

/-! ## Requests that pass their checks -/

theorem process_sessionControl (hasks : r.Asks Sid.diagnosticSessionControl) (hlen : 2 ≤ r.bytes.length)
    (htype : r.byte 1 ∈ [sessionDefault, sessionProgramming, sessionExtendedDiagnostic]) :
    udsHandlerProcess calculateKey h r = (enterSession h (r.byte 1),
      ⟨carriedOut Sid.diagnosticSessionControl [r.byte 1] r.respCap, []⟩) := by
  have hn : ¬ r.bytes.length < 2 := by omega
  have hserved : udsServiceDiagnosticSessionControl h r = ⟨enterSession h (r.byte 1),
      positiveOrReject Sid.diagnosticSessionControl [r.byte 1] r.respCap, []⟩ := by
    simp only [List.mem_cons, List.not_mem_nil, or_false] at htype
    unfold udsServiceDiagnosticSessionControl enterSession
    rw [if_neg hn]
    rcases htype with h1 | h1 | h1 <;> rw [h1] <;> rfl
  exact process_served List.mem_cons_self hasks hserved

theorem process_session (hasks : r.Asks Sid.diagnosticSessionControl) (hlen : 2 ≤ r.bytes.length)
    (htype : r.byte 1 ∈ [sessionDefault, sessionProgramming, sessionExtendedDiagnostic]) :
    (udsHandlerProcess calculateKey h r).1 = enterSession h (r.byte 1) := by
  rw [process_sessionControl hasks hlen htype]

/-- A sub-function that is there is not the default of `Request.byte`. -/
theorem two_le_length {i : UInt8} (hi : r.byte 1 = i) (hne : i ≠ 0) : 2 ≤ r.bytes.length := by
  by_contra hshort
  have hnone : r.bytes[1]? = none := List.getElem?_eq_none (by omega)
  rw [Request.byte, List.getD_eq_getElem?_getD, hnone] at hi
  exact hne hi.symm

theorem process_seed (hasks : r.Asks Sid.securityAccess) (hsub : r.byte 1 = securityLevel1)
    (hpassed : LockoutPassed h r) (hlocked : h.security = .locked) :
    udsHandlerProcess calculateKey h r = ({ clearExpired h with seed := r.platform.seed },
      ⟨carriedOut Sid.securityAccess (securityLevel1 :: beBytes32 r.platform.seed) r.respCap,
        lockoutCalls h r ++ [.generateSeed r.platform.seed]⟩) := by
  have hn : ¬ (clearExpired h).security = .unlocked := by
    rw [clearExpired_security, hlocked]
    exact nofun
  have hserved : udsServiceSecurityAccess calculateKey h r =
      ⟨{ clearExpired h with seed := r.platform.seed },
        positiveOrReject Sid.securityAccess (securityLevel1 :: beBytes32 r.platform.seed) r.respCap,
        lockoutCalls h r ++ [.generateSeed r.platform.seed]⟩ := by
    rw [securityAccess_passed (two_le_length hsub (by decide)) hpassed, securityAccessBody,
      if_pos hsub, requestSeed, if_neg hn, hsub]
  exact process_served (by simp [serviceTable]) hasks hserved

theorem process_locked (hasks : r.Asks Sid.securityAccess) (hlen : 2 ≤ r.bytes.length)
    (hlocked : ¬ LockoutPassed h r) : udsHandlerProcess calculateKey h r = (h,
      ⟨udsBuildNegativeResponse Sid.securityAccess Nrc.requiredTimeDelayNotExpired r.respCap,
        [.getTickMs r.platform.tickMs]⟩) := by
  have hentry : ⟨Sid.securityAccess, udsServiceSecurityAccess calculateKey⟩ ∈
      serviceTable calculateKey := by simp [serviceTable]
  exact process_served hentry hasks (securityAccess_locked hlen hlocked)

theorem process_key (hchecked : KeyChecked h r) (hkey : receivedKey r = calculateKey h.seed) :
    udsHandlerProcess calculateKey h r = ({ h with security := .unlocked, securityAttempts := 0 },
      ⟨carriedOut Sid.securityAccess [securityLevel2] r.respCap,
        lockoutCalls h r ++ [.calculateKey h.seed]⟩) := by
  have hlen := hchecked.length
  have hn : ¬ r.bytes.length < 6 := by omega
  have hbranch : ¬ securityLevel2 = securityLevel1 := by decide
  have hserved : udsServiceSecurityAccess calculateKey h r =
      ⟨{ h with security := .unlocked, securityAttempts := 0 },
        positiveOrReject Sid.securityAccess [securityLevel2] r.respCap,
        lockoutCalls h r ++ [.calculateKey h.seed]⟩ := by
    rw [securityAccess_passed (by omega) hchecked.passed, securityAccessBody, hchecked.subFunction,
      if_neg hbranch, if_pos rfl, sendKey, if_neg hn, clearExpired_seed, if_pos hkey,
      hchecked.subFunction]
    simp
  exact process_served (by simp [serviceTable]) hchecked.asks hserved

theorem process_download (hchecked : DownloadChecked h r) :
    udsHandlerProcess calculateKey h r = (openDownload h r,
      ⟨carriedOut Sid.requestDownload [0x20, 0x04, 0x00] r.respCap, []⟩) := by
  obtain ⟨hfour, hfields⟩ := hchecked.length
  have hn : ¬ r.bytes.length < 4 := by omega
  have hm : ¬ r.bytes.length < 3 + addrBytes r + sizeBytes r := by omega
  have hserved : udsServiceRequestDownload h r = ⟨openDownload h r,
      positiveOrReject Sid.requestDownload [0x20, 0x04, 0x00] r.respCap, []⟩ := by
    simp [udsServiceRequestDownload, openDownload, hn, hm, hchecked.session, hchecked.security]
  exact process_served (by simp [serviceTable]) hchecked.asks hserved

theorem process_block (hchecked : BlockChecked h r) (hstatus : r.platform.writeStatus = 0) :
    udsHandlerProcess calculateKey h r = (receiveBlock h r,
      ⟨carriedOut Sid.transferData [r.byte 1] r.respCap, [blockWrite h r]⟩) := by
  have hlen := hchecked.length
  have hn : ¬ r.bytes.length < 2 := by omega
  have hserved : udsServiceTransferData h r = ⟨receiveBlock h r,
      positiveOrReject Sid.transferData [r.byte 1] r.respCap, [blockWrite h r]⟩ := by
    simp [udsServiceTransferData, receiveBlock, blockWrite, hn, hchecked.active, hchecked.counter, hstatus]
  exact process_served (by simp [serviceTable]) hchecked.asks hserved

theorem process_blockFailed (hchecked : BlockChecked h r) (hstatus : r.platform.writeStatus ≠ 0) :
    udsHandlerProcess calculateKey h r = (h,
      ⟨udsBuildNegativeResponse Sid.transferData Nrc.generalProgrammingFailure r.respCap,
        [blockWrite h r]⟩) := by
  have hlen := hchecked.length
  have hn : ¬ r.bytes.length < 2 := by omega
  have hserved : udsServiceTransferData h r =
      ⟨h, .error Nrc.generalProgrammingFailure, [blockWrite h r]⟩ := by
    simp [udsServiceTransferData, blockWrite, hn, hchecked.active, hchecked.counter, hstatus]
  exact process_served (by simp [serviceTable]) hchecked.asks hserved

theorem process_wrongCounter (hasks : r.Asks Sid.transferData) (hlen : 2 ≤ r.bytes.length)
    (hactive : h.transferActive = true) (hcounter : r.byte 1 ≠ h.blockSequenceCounter) :
    udsHandlerProcess calculateKey h r = (h,
      ⟨udsBuildNegativeResponse Sid.transferData Nrc.wrongBlockSequenceCounter r.respCap, []⟩) := by
  have hn : ¬ r.bytes.length < 2 := by omega
  have hserved : udsServiceTransferData h r = refuse h Nrc.wrongBlockSequenceCounter := by
    simp [udsServiceTransferData, hn, hactive, hcounter]
  exact process_served (by simp [serviceTable]) hasks hserved

theorem process_exit (hasks : r.Asks Sid.requestTransferExit) (hactive : h.transferActive = true)
    (hsize : h.transferReceived = h.transferSize) :
    udsHandlerProcess calculateKey h r = ({ h with transferActive := false },
      ⟨carriedOut Sid.requestTransferExit [] r.respCap, []⟩) := by
  have hserved : udsServiceRequestTransferExit h r = ⟨{ h with transferActive := false },
      positiveOrReject Sid.requestTransferExit [] r.respCap, []⟩ := by
    simp [udsServiceRequestTransferExit, hactive, hsize]
  exact process_served (by simp [serviceTable]) hasks hserved

end Mcus.Uds
