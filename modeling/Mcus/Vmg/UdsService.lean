import Mcus.Foundations.ByteOrder

/-! # The UDS service of the vehicle gateway

`UDSServiceHandler` of `uds_service_handler.cpp`. The random seed of a request is an input, and lies
in the range of the distribution it is drawn from. A registered data identifier handler is the data it
returns, or nothing if it throws; no other code in a service is taken to throw, so the general reject
of `processRequest` does not occur. Log messages are left out.
-/

namespace Mcus.Vmg
open ByteOrder
set_option autoImplicit false

namespace Sid
abbrev diagnosticSessionControl : UInt8 := 0x10
abbrev ecuReset : UInt8 := 0x11
abbrev readDtcInformation : UInt8 := 0x19
abbrev readDataByIdentifier : UInt8 := 0x22
abbrev securityAccess : UInt8 := 0x27
abbrev writeDataByIdentifier : UInt8 := 0x2E
abbrev routineControl : UInt8 := 0x31
abbrev testerPresent : UInt8 := 0x3E
end Sid

namespace Nrc
abbrev serviceNotSupported : UInt8 := 0x11
abbrev subFunctionNotSupported : UInt8 := 0x12
abbrev incorrectMessageLength : UInt8 := 0x13
abbrev requestOutOfRange : UInt8 := 0x31
abbrev securityAccessDenied : UInt8 := 0x33
abbrev invalidKey : UInt8 := 0x35
abbrev exceedNumberOfAttempts : UInt8 := 0x36
end Nrc

/-- A value of `uniform_int_distribution(0x10000000, 0xFFFFFFFF)`. -/
structure RandomSeed where
  value : UInt32
  atLeast : 0x10000000 ≤ value

/-- What no request changes. -/
structure EcuData where
  vin : List UInt8
  ecuSerial : List UInt8
  softwareVersion : List UInt8
  hardwareVersion : List UInt8
  didHandlers : UInt16 → Option (Option (List UInt8))

structure UDSServiceHandler where
  data : EcuData
  currentSession : UInt8
  securityUnlocked : Bool
  securitySeed : UInt32
  securityAttempts : UInt8

/-- The constructor, with the data as configured later. -/
def UDSServiceHandler.construct (data : EcuData) : UDSServiceHandler := ⟨data, 0x01, false, 0, 0⟩

def buildPositiveResponse (sid : UInt8) (data : List UInt8) : List UInt8 := (sid + 0x40) :: data

def buildNegativeResponse (sid nrc : UInt8) : List UInt8 := [0x7F, sid, nrc]

/-- The key computed from a seed. -/
def keyOf (seed : UInt32) : UInt32 := seed ^^^ 0xABCD1234

namespace UDSServiceHandler
variable (h : UDSServiceHandler) (seed : RandomSeed) (request : List UInt8)

def handleDiagnosticSessionControl : UDSServiceHandler × List UInt8 :=
  let sid := request.getD 0 0
  if request.length < 2 then (h, buildNegativeResponse sid Nrc.incorrectMessageLength)
  else
    let sessionType := request.getD 1 0
    if sessionType < 0x01 ∨ 0x03 < sessionType then
      (h, buildNegativeResponse sid Nrc.subFunctionNotSupported)
    else
      -- security is reset for the default session only
      let unlocked := if sessionType = 0x01 then false else h.securityUnlocked
      ({ h with currentSession := sessionType, securityUnlocked := unlocked },
        buildPositiveResponse sid [sessionType])

def handleECUReset : List UInt8 :=
  let sid := request.getD 0 0
  if request.length < 2 then buildNegativeResponse sid Nrc.incorrectMessageLength
  else
    let resetType := request.getD 1 0
    if resetType < 0x01 ∨ 0x03 < resetType then buildNegativeResponse sid Nrc.subFunctionNotSupported
    else buildPositiveResponse sid [resetType]

/-- `received_key` of a SendKey request. -/
def receivedKey : UInt32 :=
  word32 (request.getD 2 0) (request.getD 3 0) (request.getD 4 0) (request.getD 5 0)

def requestSeed : UDSServiceHandler × List UInt8 :=
  let sid := request.getD 0 0
  if h.securityUnlocked then (h, buildPositiveResponse sid [0x01, 0x00, 0x00, 0x00, 0x00])
  else if 3 ≤ h.securityAttempts then (h, buildNegativeResponse sid Nrc.exceedNumberOfAttempts)
  else ({ h with securitySeed := seed.value }, buildPositiveResponse sid (0x01 :: beBytes32 seed.value))

def sendKey : UDSServiceHandler × List UInt8 :=
  let sid := request.getD 0 0
  if request.length < 6 then (h, buildNegativeResponse sid Nrc.incorrectMessageLength)
  else if receivedKey request = keyOf h.securitySeed then
    ({ h with securityUnlocked := true, securityAttempts := 0 }, buildPositiveResponse sid [0x02])
  else
    let attempts := h.securityAttempts + 1
    let nrc := if 3 ≤ attempts then Nrc.exceedNumberOfAttempts else Nrc.invalidKey
    ({ h with securityAttempts := attempts }, buildNegativeResponse sid nrc)

def handleSecurityAccess : UDSServiceHandler × List UInt8 :=
  let sid := request.getD 0 0
  if request.length < 2 then (h, buildNegativeResponse sid Nrc.incorrectMessageLength)
  else if request.getD 1 0 = 0x01 then h.requestSeed seed request
  else if request.getD 1 0 = 0x02 then h.sendKey request
  else (h, buildNegativeResponse sid Nrc.subFunctionNotSupported)

def handleTesterPresent : List UInt8 :=
  let sid := request.getD 0 0
  if request.length < 2 then buildNegativeResponse sid Nrc.incorrectMessageLength
  else buildPositiveResponse sid [request.getD 1 0]

/-- The two bytes of a data identifier in a request. -/
def didBytes : List UInt8 := [request.getD 1 0, request.getD 2 0]

/-- `data_str` of the built-in identifiers, the VIN padded or cut to 17 bytes. -/
def builtInDid (data : EcuData) (did : UInt16) : Option (List UInt8) :=
  if did = 0xF190 then some ((data.vin ++ List.replicate 17 0x20).take 17)
  else if did = 0xF18C then some data.ecuSerial
  else if did = 0xF195 then some data.softwareVersion
  else if did = 0xF191 then some data.hardwareVersion
  else none

def handleReadDataByIdentifier : List UInt8 :=
  let sid := request.getD 0 0
  if request.length < 3 then buildNegativeResponse sid Nrc.incorrectMessageLength
  else
    let did := word16 (request.getD 1 0) (request.getD 2 0)
    match h.data.didHandlers did with
    | some (some data) => buildPositiveResponse sid (didBytes request ++ data)
    | some none => buildNegativeResponse sid Nrc.requestOutOfRange
    | none =>
      match builtInDid h.data did with
      | some data => buildPositiveResponse sid (didBytes request ++ data)
      | none => buildNegativeResponse sid Nrc.requestOutOfRange

def handleWriteDataByIdentifier : List UInt8 :=
  let sid := request.getD 0 0
  if request.length < 4 then buildNegativeResponse sid Nrc.incorrectMessageLength
  else if !h.securityUnlocked then buildNegativeResponse sid Nrc.securityAccessDenied
  else buildPositiveResponse sid (didBytes request)

def handleReadDTCInformation : List UInt8 :=
  let sid := request.getD 0 0
  if request.length < 2 then buildNegativeResponse sid Nrc.incorrectMessageLength
  else buildPositiveResponse sid [request.getD 1 0, 0x00]

def handleRoutineControl : List UInt8 :=
  let sid := request.getD 0 0
  if request.length < 4 then buildNegativeResponse sid Nrc.incorrectMessageLength
  else buildPositiveResponse sid [request.getD 1 0, request.getD 2 0, request.getD 3 0]

def processRequest : UDSServiceHandler × List UInt8 :=
  if request.length = 0 then (h, buildNegativeResponse 0x00 Nrc.incorrectMessageLength)
  else
    let sid := request.getD 0 0
    if sid = Sid.diagnosticSessionControl then h.handleDiagnosticSessionControl request
    else if sid = Sid.ecuReset then (h, handleECUReset request)
    else if sid = Sid.securityAccess then h.handleSecurityAccess seed request
    else if sid = Sid.testerPresent then (h, handleTesterPresent request)
    else if sid = Sid.readDataByIdentifier then (h, h.handleReadDataByIdentifier request)
    else if sid = Sid.writeDataByIdentifier then (h, h.handleWriteDataByIdentifier request)
    else if sid = Sid.readDtcInformation then (h, handleReadDTCInformation request)
    else if sid = Sid.routineControl then (h, handleRoutineControl request)
    else (h, buildNegativeResponse sid Nrc.serviceNotSupported)

/-! ## The services that touch the security state -/

/-- The request carries the key that the handler computes from its seed. -/
def Fits : Prop := 6 ≤ request.length ∧ receivedKey request = keyOf h.securitySeed

instance : Decidable (h.Fits request) := inferInstanceAs (Decidable (_ ∧ _))

def EntersDefault : Prop :=
  request.getD 0 0 = Sid.diagnosticSessionControl ∧ request.getD 1 0 = 0x01

def SendsKey : Prop := request.getD 0 0 = Sid.securityAccess ∧ request.getD 1 0 = 0x02

instance : Decidable (EntersDefault request) := inferInstanceAs (Decidable (_ ∧ _))
instance : Decidable (SendsKey request) := inferInstanceAs (Decidable (_ ∧ _))

variable {h seed request}

/-- A byte that is not the default of a read is there. -/
theorem lt_length_of_getD {n : ℕ} (hbyte : request.getD n 0 ≠ 0) : n < request.length := by
  by_contra hlen
  apply hbyte
  simp [List.getElem?_eq_none (Nat.le_of_not_lt hlen)]

theorem processRequest_session (hsid : request.getD 0 0 = Sid.diagnosticSessionControl) :
    h.processRequest seed request = h.handleDiagnosticSessionControl request := by
  have hlen : 0 < request.length := lt_length_of_getD (by rw [hsid]; decide)
  rw [processRequest, if_neg hlen.ne']
  exact if_pos hsid

theorem processRequest_security (hsid : request.getD 0 0 = Sid.securityAccess) :
    h.processRequest seed request = h.handleSecurityAccess seed request := by
  have hlen : 0 < request.length := lt_length_of_getD (by rw [hsid]; decide)
  rw [processRequest, if_neg hlen.ne']
  simp only [hsid]
  rfl

theorem processRequest_write (hsid : request.getD 0 0 = Sid.writeDataByIdentifier) :
    h.processRequest seed request = (h, h.handleWriteDataByIdentifier request) := by
  have hlen : 0 < request.length := lt_length_of_getD (by rw [hsid]; decide)
  rw [processRequest, if_neg hlen.ne']
  simp only [hsid]
  rfl

theorem processRequest_other (hsession : request.getD 0 0 ≠ Sid.diagnosticSessionControl)
    (hsecurity : request.getD 0 0 ≠ Sid.securityAccess) : (h.processRequest seed request).1 = h := by
  simp only [processRequest, hsession, hsecurity, if_false, apply_ite Prod.fst, ite_self]

/-- A session control request writes the session and the lock, and nothing else. -/
theorem handleDiagnosticSessionControl_keeps (h : UDSServiceHandler) (request : List UInt8) :
    ∃ session unlocked, (h.handleDiagnosticSessionControl request).1 =
      { h with currentSession := session, securityUnlocked := unlocked } := by
  simp only [handleDiagnosticSessionControl]
  split_ifs
  · exact ⟨h.currentSession, h.securityUnlocked, rfl⟩
  · exact ⟨h.currentSession, h.securityUnlocked, rfl⟩
  · exact ⟨request.getD 1 0, false, rfl⟩
  · exact ⟨request.getD 1 0, h.securityUnlocked, rfl⟩

theorem processRequest_data : (h.processRequest seed request).1.data = h.data := by
  by_cases hsession : request.getD 0 0 = Sid.diagnosticSessionControl
  · obtain ⟨_, _, hkeeps⟩ := handleDiagnosticSessionControl_keeps h request
    rw [processRequest_session hsession, hkeeps]
  by_cases hsecurity : request.getD 0 0 = Sid.securityAccess
  · rw [processRequest_security hsecurity]
    simp only [handleSecurityAccess, requestSeed, sendKey, apply_ite Prod.fst, apply_ite UDSServiceHandler.data,
      ite_self]
  · rw [processRequest_other hsession hsecurity]

theorem handleSecurityAccess_seed (hlen : 2 ≤ request.length) (hsub : request.getD 1 0 = 0x01) :
    h.handleSecurityAccess seed request = h.requestSeed seed request := by
  rw [handleSecurityAccess, if_neg (Nat.not_lt.mpr hlen), if_pos hsub]

theorem handleSecurityAccess_key (hlen : 2 ≤ request.length) (hsub : request.getD 1 0 = 0x02) :
    h.handleSecurityAccess seed request = h.sendKey request := by
  rw [handleSecurityAccess, if_neg (Nat.not_lt.mpr hlen), if_neg (by rw [hsub]; decide), if_pos hsub]

theorem sendKey_of_fits (hfits : h.Fits request) :
    h.sendKey request = ({ h with securityUnlocked := true, securityAttempts := 0 },
      buildPositiveResponse (request.getD 0 0) [0x02]) := by
  rw [sendKey, if_neg (Nat.not_lt.mpr hfits.1), if_pos hfits.2]

theorem sendKey_of_not_fits (hlen : 6 ≤ request.length) (hfits : ¬ h.Fits request) :
    h.sendKey request = ({ h with securityAttempts := h.securityAttempts + 1 },
      buildNegativeResponse (request.getD 0 0)
        (if 3 ≤ h.securityAttempts + 1 then Nrc.exceedNumberOfAttempts else Nrc.invalidKey)) := by
  rw [sendKey, if_neg (Nat.not_lt.mpr hlen), if_neg fun hkey => hfits ⟨hlen, hkey⟩]

theorem sendKey_of_short (hlen : request.length < 6) : 
    h.sendKey request =
      (h, buildNegativeResponse (request.getD 0 0) Nrc.incorrectMessageLength) := if_pos hlen

theorem handleDiagnosticSessionControl_unlocked :
    (h.handleDiagnosticSessionControl request).1.securityUnlocked =
      if request.getD 1 0 = 0x01 then false else h.securityUnlocked := by
  simp only [handleDiagnosticSessionControl]
  by_cases hsub : request.getD 1 0 = 0x01
  · have hlen : 2 ≤ request.length := lt_length_of_getD (by rw [hsub]; decide)
    rw [if_neg (Nat.not_lt.mpr hlen), hsub]
    rfl
  · rw [if_neg hsub]
    split_ifs <;> rfl

theorem handleSecurityAccess_unlocked :
    (h.handleSecurityAccess seed request).1.securityUnlocked =
      if request.getD 1 0 = 0x02 ∧ h.Fits request then true else h.securityUnlocked := by
  by_cases hsub : request.getD 1 0 = 0x02
  · have hlen : 2 ≤ request.length := lt_length_of_getD (by rw [hsub]; decide)
    rw [handleSecurityAccess_key hlen hsub]
    by_cases hfits : h.Fits request
    · rw [sendKey_of_fits hfits, if_pos ⟨hsub, hfits⟩]
    · rw [if_neg fun hkey => hfits hkey.2]
      by_cases hshort : request.length < 6
      · rw [sendKey_of_short hshort]
      · rw [sendKey_of_not_fits (Nat.le_of_not_lt hshort) hfits]
  · rw [if_neg fun hkey => hsub hkey.1]
    simp only [handleSecurityAccess, hsub, if_false, requestSeed]
    split_ifs <;> rfl

/-- Entering the default session locks, and a SendKey that fits unlocks. -/
theorem processRequest_unlocked :
    (h.processRequest seed request).1.securityUnlocked =
      if EntersDefault request then false
      else if SendsKey request ∧ h.Fits request then true else h.securityUnlocked := by
  by_cases hsession : request.getD 0 0 = Sid.diagnosticSessionControl
  · have hsends : ¬ SendsKey request := fun hsends => absurd (hsession.symm.trans hsends.1) (by decide)
    rw [processRequest_session hsession, handleDiagnosticSessionControl_unlocked]
    simp only [EntersDefault, hsession, hsends, true_and, false_and, if_false]
  have henters : ¬ EntersDefault request := fun henters => hsession henters.1
  by_cases hsecurity : request.getD 0 0 = Sid.securityAccess
  · rw [processRequest_security hsecurity, handleSecurityAccess_unlocked, if_neg henters]
    simp only [SendsKey, hsecurity, true_and]
  · have hsends : ¬ SendsKey request := fun hsends => hsecurity hsends.1
    rw [processRequest_other hsession hsecurity, if_neg henters, if_neg fun hkey => hsends hkey.1]

/-! ## What an answer depends on -/

variable {shared own : UDSServiceHandler}

/-- Two states of the handler agree on what the answer to the request is computed from. -/
structure ReadsAlike (shared own : UDSServiceHandler) (request : List UInt8) : Prop where
  write : request.getD 0 0 = Sid.writeDataByIdentifier → 4 ≤ request.length →
    shared.securityUnlocked = own.securityUnlocked
  seed : request.getD 0 0 = Sid.securityAccess → request.getD 1 0 = 0x01 →
    shared.securityUnlocked = own.securityUnlocked ∧
      (own.securityUnlocked = false → (3 ≤ shared.securityAttempts ↔ 3 ≤ own.securityAttempts))
  key : SendsKey request → 6 ≤ request.length → (shared.Fits request ↔ own.Fits request) ∧
    (¬ own.Fits request → (3 ≤ shared.securityAttempts + 1 ↔ 3 ≤ own.securityAttempts + 1))

theorem positive_ne_negative {sid nrc : UInt8} {data : List UInt8} (hsid : sid + 0x40 ≠ 0x7F) :
    buildPositiveResponse sid data ≠ buildNegativeResponse sid nrc := by
  intro heq
  exact hsid (List.cons.inj heq).1

theorem write_answer_iff (hsid : request.getD 0 0 = Sid.writeDataByIdentifier) :
    shared.handleWriteDataByIdentifier request = own.handleWriteDataByIdentifier request ↔
      (4 ≤ request.length → shared.securityUnlocked = own.securityUnlocked) := by
  have hdiffer : ∀ {nrc data}, buildPositiveResponse Sid.writeDataByIdentifier data ≠
      buildNegativeResponse Sid.writeDataByIdentifier nrc := positive_ne_negative (by decide)
  simp only [handleWriteDataByIdentifier, hsid]
  by_cases hlen : request.length < 4
  · simp [hlen, Nat.not_le.mpr hlen]
  · cases shared.securityUnlocked <;> cases own.securityUnlocked <;>
      simp [hlen, Nat.le_of_not_lt hlen, hdiffer, hdiffer.symm]

theorem seed_bytes_ne_zero : beBytes32 seed.value ≠ [0x00, 0x00, 0x00, 0x00] := by
  intro hzero
  have hword : seed.value = 0 := by
    have hbytes := word32_bytes seed.value
    simp only [beBytes32, List.cons.injEq] at hzero
    obtain ⟨h0, h1, h2, h3, -⟩ := hzero
    rw [← hbytes, h0, h1, h2, h3]
    rfl
  have hrange := seed.atLeast
  rw [hword] at hrange
  exact absurd hrange (by decide)

theorem seed_answer_iff (hsid : request.getD 0 0 = Sid.securityAccess) :
    (shared.requestSeed seed request).2 = (own.requestSeed seed request).2 ↔
      shared.securityUnlocked = own.securityUnlocked ∧
        (own.securityUnlocked = false → (3 ≤ shared.securityAttempts ↔ 3 ≤ own.securityAttempts)) := by
  have hdiffer : ∀ {nrc data}, buildPositiveResponse Sid.securityAccess data ≠
      buildNegativeResponse Sid.securityAccess nrc := positive_ne_negative (by decide)
  have hseed : buildPositiveResponse Sid.securityAccess (0x01 :: beBytes32 seed.value) ≠
      buildPositiveResponse Sid.securityAccess [0x01, 0x00, 0x00, 0x00, 0x00] := by
    intro heq
    exact seed_bytes_ne_zero (List.cons.inj (List.cons.inj heq).2).2
  simp only [requestSeed, hsid]
  cases shared.securityUnlocked <;> cases own.securityUnlocked <;>
    by_cases hshared : 3 ≤ shared.securityAttempts <;> by_cases hown : 3 ≤ own.securityAttempts <;>
      simp [hshared, hown, hdiffer, hdiffer.symm, hseed, hseed.symm]

theorem key_answer_iff (hsid : request.getD 0 0 = Sid.securityAccess) :
    (shared.sendKey request).2 = (own.sendKey request).2 ↔ (6 ≤ request.length →
      (shared.Fits request ↔ own.Fits request) ∧
        (¬ own.Fits request → (3 ≤ shared.securityAttempts + 1 ↔ 3 ≤ own.securityAttempts + 1))) := by
  have hdiffer : ∀ {nrc data}, buildPositiveResponse Sid.securityAccess data ≠
      buildNegativeResponse Sid.securityAccess nrc := positive_ne_negative (by decide)
  have hnrc : buildNegativeResponse Sid.securityAccess Nrc.exceedNumberOfAttempts ≠
      buildNegativeResponse Sid.securityAccess Nrc.invalidKey := by decide
  by_cases hshort : request.length < 6
  · simp only [sendKey_of_short hshort, Nat.not_le.mpr hshort, false_implies]
  have hlen : 6 ≤ request.length := Nat.le_of_not_lt hshort
  by_cases hshared : shared.Fits request <;> by_cases hown : own.Fits request
  · simp [sendKey_of_fits hshared, sendKey_of_fits hown, hshared, hown]
  · rw [sendKey_of_fits hshared, sendKey_of_not_fits hlen hown, hsid]
    simp [hshared, hown, hlen, hdiffer]
  · rw [sendKey_of_not_fits hlen hshared, sendKey_of_fits hown, hsid]
    simp [hshared, hown, hlen, hdiffer.symm]
  · rw [sendKey_of_not_fits hlen hshared, sendKey_of_not_fits hlen hown, hsid]
    simp only [hshared, hown, hlen, not_false_eq_true, forall_true_left, true_and]
    by_cases h3 : 3 ≤ shared.securityAttempts + 1 <;> by_cases h3' : 3 ≤ own.securityAttempts + 1 <;>
      simp [h3, h3', hnrc, hnrc.symm]

theorem security_answer_iff (hsid : request.getD 0 0 = Sid.securityAccess) :
    (shared.handleSecurityAccess seed request).2 = (own.handleSecurityAccess seed request).2 ↔
      ReadsAlike shared own request := by
  have hwrite : request.getD 0 0 ≠ Sid.writeDataByIdentifier := by rw [hsid]; decide
  by_cases hseed : request.getD 1 0 = 0x01
  · have hlen : 2 ≤ request.length := lt_length_of_getD (by rw [hseed]; decide)
    have hnot : ¬ SendsKey request := fun h => absurd (hseed.symm.trans h.2) (by decide)
    rw [handleSecurityAccess_seed hlen hseed, handleSecurityAccess_seed hlen hseed, seed_answer_iff hsid]
    exact ⟨fun h => ⟨fun h => absurd h hwrite, fun _ _ => h, fun h => absurd h hnot⟩,
      fun h => h.seed hsid hseed⟩
  by_cases hkey : request.getD 1 0 = 0x02
  · have hlen : 2 ≤ request.length := lt_length_of_getD (by rw [hkey]; decide)
    rw [handleSecurityAccess_key hlen hkey, handleSecurityAccess_key hlen hkey, key_answer_iff hsid]
    exact ⟨fun h => ⟨fun h => absurd h hwrite, fun _ h => absurd h hseed, fun _ => h⟩,
      fun h => h.key ⟨hsid, hkey⟩⟩
  · refine iff_of_true ?_ ⟨fun h => absurd h hwrite, fun _ h => absurd h hseed, fun h => absurd h.2 hkey⟩
    simp only [handleSecurityAccess, hseed, hkey, if_false]
    split_ifs <;> rfl

/-- No other service reads more than the data. -/
theorem other_answer (hdata : shared.data = own.data)
    (hwrite : request.getD 0 0 ≠ Sid.writeDataByIdentifier)
    (hsecurity : request.getD 0 0 ≠ Sid.securityAccess) :
    (shared.processRequest seed request).2 = (own.processRequest seed request).2 := by
  have hread : shared.handleReadDataByIdentifier request = own.handleReadDataByIdentifier request := by
    simp only [handleReadDataByIdentifier, hdata]
  by_cases hsession : request.getD 0 0 = Sid.diagnosticSessionControl
  · rw [processRequest_session hsession, processRequest_session hsession]
    simp only [handleDiagnosticSessionControl]
    split_ifs <;> rfl
  · simp only [processRequest, hsession, hwrite, hsecurity, if_false, hread, apply_ite Prod.snd]

/-- Two handlers with the same data give the same answer exactly when they agree on what it is
computed from. -/
theorem answer_iff (hdata : shared.data = own.data) :
    (shared.processRequest seed request).2 = (own.processRequest seed request).2 ↔
      ReadsAlike shared own request := by
  by_cases hwrite : request.getD 0 0 = Sid.writeDataByIdentifier
  · have hnot : ¬ request.getD 0 0 = Sid.securityAccess := by rw [hwrite]; decide
    rw [processRequest_write hwrite, processRequest_write hwrite, write_answer_iff hwrite]
    exact ⟨fun h => ⟨fun _ => h, fun h => absurd h hnot, fun h => absurd h.1 hnot⟩, fun h => h.write hwrite⟩
  by_cases hsecurity : request.getD 0 0 = Sid.securityAccess
  · rw [processRequest_security hsecurity, processRequest_security hsecurity]
    exact security_answer_iff hsecurity
  · exact iff_of_true (other_answer hdata hwrite hsecurity) ⟨fun h => absurd h hwrite,
      fun h => absurd h hsecurity, fun h => absurd h.1 hsecurity⟩

/-! ## Positive answers -/

theorem head_buildPositiveResponse (sid : UInt8) (data : List UInt8) :
    (buildPositiveResponse sid data).head? = some (sid + 0x40) := rfl

theorem head_buildNegativeResponse {sid : UInt8} (nrc : UInt8) (hsid : 0x7F ≠ sid + 0x40) :
    (buildNegativeResponse sid nrc).head? ≠ some (sid + 0x40) := fun h => hsid (Option.some.inj h)

theorem write_positive_iff (hsid : request.getD 0 0 = Sid.writeDataByIdentifier) :
    (h.processRequest seed request).2.head? = some (Sid.writeDataByIdentifier + 0x40) ↔
      4 ≤ request.length ∧ h.securityUnlocked = true := by
  have hnegative := fun nrc => @head_buildNegativeResponse Sid.writeDataByIdentifier nrc (by decide)
  rw [processRequest_write hsid, handleWriteDataByIdentifier, hsid]
  by_cases hlen : request.length < 4
  · simp [hlen, Nat.not_le.mpr hlen, hnegative]
  · cases h.securityUnlocked <;>
      simp [hlen, Nat.le_of_not_lt hlen, hnegative, head_buildPositiveResponse]

theorem default_positive (henters : EntersDefault request) :
    (h.processRequest seed request).2.head? = some (Sid.diagnosticSessionControl + 0x40) := by
  have hlen : 2 ≤ request.length := lt_length_of_getD (by rw [henters.2]; decide)
  rw [processRequest_session henters.1, handleDiagnosticSessionControl, if_neg (Nat.not_lt.mpr hlen),
    henters.1, henters.2]
  rfl

theorem key_positive_iff (hsends : SendsKey request) :
    (h.processRequest seed request).2.head? = some (Sid.securityAccess + 0x40) ↔ h.Fits request := by
  have hnegative := fun nrc => @head_buildNegativeResponse Sid.securityAccess nrc (by decide)
  have hlen : 2 ≤ request.length := lt_length_of_getD (by rw [hsends.2]; decide)
  rw [processRequest_security hsends.1, handleSecurityAccess_key hlen hsends.2]
  by_cases hfits : h.Fits request
  · rw [sendKey_of_fits hfits, hsends.1]
    exact iff_of_true rfl hfits
  refine iff_of_false ?_ hfits
  by_cases hshort : request.length < 6
  · rw [sendKey_of_short hshort, hsends.1]
    exact hnegative _
  · rw [sendKey_of_not_fits (Nat.le_of_not_lt hshort) hfits, hsends.1]
    exact hnegative _

end UDSServiceHandler
end Mcus.Vmg
