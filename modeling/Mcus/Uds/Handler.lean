import Mcus.Foundations.ByteOrder

/-! # The TC375 UDS handler

`tc375_bootloader/common/uds_handler.c`: the handler record, the nine services of its table and
`uds_handler_process`. A service returns `0` with a response or a negative response code;
`udsHandlerProcess` turns the latter into the three bytes of a negative response.

The platform layer is a parameter. A service reads the tick at most once, asks for at most one
seed and writes at most one block, so one `Platform` value per request holds all that the
platform returns, and `calls` lists in order what was asked of it. The key function is the same
for all requests. Pointers are taken to be non-null; the unused `response_buffer` is left out.
-/

namespace Mcus.Uds
open ByteOrder
set_option autoImplicit false

/-! ## Service identifiers and response codes -/

namespace Sid
abbrev diagnosticSessionControl : UInt8 := 0x10
abbrev ecuReset : UInt8 := 0x11
abbrev readDataByIdentifier : UInt8 := 0x22
abbrev securityAccess : UInt8 := 0x27
abbrev writeDataByIdentifier : UInt8 := 0x2E
abbrev requestDownload : UInt8 := 0x34
abbrev transferData : UInt8 := 0x36
abbrev requestTransferExit : UInt8 := 0x37
abbrev testerPresent : UInt8 := 0x3E
end Sid

namespace Nrc
abbrev generalReject : UInt8 := 0x10
abbrev serviceNotSupported : UInt8 := 0x11
abbrev subFunctionNotSupported : UInt8 := 0x12
abbrev incorrectMessageLength : UInt8 := 0x13
abbrev conditionsNotCorrect : UInt8 := 0x22
abbrev requestSequenceError : UInt8 := 0x24
abbrev requestOutOfRange : UInt8 := 0x31
abbrev securityAccessDenied : UInt8 := 0x33
abbrev invalidKey : UInt8 := 0x35
abbrev exceedNumberOfAttempts : UInt8 := 0x36
abbrev requiredTimeDelayNotExpired : UInt8 := 0x37
abbrev generalProgrammingFailure : UInt8 := 0x72
abbrev wrongBlockSequenceCounter : UInt8 := 0x73
end Nrc

abbrev positiveResponseOffset : UInt8 := 0x40
abbrev negativeResponse : UInt8 := 0x7F

abbrev sessionDefault : UInt8 := 0x01
abbrev sessionProgramming : UInt8 := 0x02
abbrev sessionExtendedDiagnostic : UInt8 := 0x03

abbrev resetHard : UInt8 := 0x01
abbrev resetSoft : UInt8 := 0x03

abbrev securityLevel1 : UInt8 := 0x01
abbrev securityLevel2 : UInt8 := 0x02

abbrev didVin : UInt16 := 0xF190

abbrev securityAccessAttempts : UInt8 := 3
abbrev securityAccessDelayMs : UInt32 := 10000

/-! ## State and surroundings -/

inductive UDSSessionState
  | default
  | programming
  | extendedDiagnostic
  deriving DecidableEq, Repr

inductive UDSSecurityState
  | locked
  | unlocked
  deriving DecidableEq, Repr

structure UDSHandler where
  session : UDSSessionState
  security : UDSSecurityState
  seed : UInt32
  securityAttempts : UInt8
  securityLockoutTime : UInt32
  transferActive : Bool
  blockSequenceCounter : UInt8
  transferAddress : UInt32
  transferSize : UInt32
  transferReceived : UInt32
  deriving DecidableEq, Repr

/-- What the platform functions return while one request is served. -/
structure Platform where
  tickMs : UInt32
  seed : UInt32
  writeStatus : Int
  deriving DecidableEq, Repr

inductive PlatformCall
  | ecuReset (resetType : UInt8)
  | getTickMs (tick : UInt32)
  | generateSeed (seed : UInt32)
  | calculateKey (seed : UInt32)
  | writeFirmware (address : UInt32) (data : List UInt8) (status : Int)
  deriving DecidableEq, Repr

/-- One call of the handler: the request bytes, the response capacity and the platform. -/
structure Request where
  bytes : List UInt8
  respCap : ℕ
  platform : Platform
  deriving DecidableEq, Repr

/-- Byte `i` of a request; read only below its length. -/
def Request.byte (r : Request) (i : ℕ) : UInt8 := r.bytes.getD i 0

/-- What a service leaves behind: the record, its return value (the response on `0`, else the
negative response code) and its platform calls. -/
structure ServiceResult where
  handler : UDSHandler
  ret : Except UInt8 (List UInt8)
  calls : List PlatformCall

/-- What `uds_handler_process` hands back: no response is the return value `-1`. -/
structure Reply where
  response : Option (List UInt8)
  calls : List PlatformCall
  deriving DecidableEq, Repr

def udsHandlerInit : UDSHandler where
  session := .default
  security := .locked
  seed := 0
  securityAttempts := 0
  securityLockoutTime := 0
  transferActive := false
  blockSequenceCounter := 0
  transferAddress := 0
  transferSize := 0
  transferReceived := 0

/-! ## Responses -/

def udsBuildPositiveResponse (sid : UInt8) (data : List UInt8) (respCap : ℕ) : Option (List UInt8) :=
  if respCap < 1 + data.length then none else some ((sid + positiveResponseOffset) :: data)

def udsBuildNegativeResponse (sid nrc : UInt8) (respCap : ℕ) : Option (List UInt8) :=
  if respCap < 3 then none else some [negativeResponse, sid, nrc]

/-- `uds_build_positive_response(..) == 0 ? 0 : -UDS_NRC_GENERAL_REJECT`. -/
def positiveOrReject (sid : UInt8) (data : List UInt8) (respCap : ℕ) : Except UInt8 (List UInt8) :=
  match udsBuildPositiveResponse sid data respCap with
  | some response => .ok response
  | none => .error Nrc.generalReject

/-- A service that returns a negative response code before it touched anything. -/
def refuse (h : UDSHandler) (nrc : UInt8) : ServiceResult := ⟨h, .error nrc, []⟩

/-! ## Services -/

def udsServiceDiagnosticSessionControl (h : UDSHandler) (r : Request) : ServiceResult :=
  if r.bytes.length < 2 then refuse h Nrc.incorrectMessageLength
  else
    let sessionType := r.byte 1
    let answer := positiveOrReject Sid.diagnosticSessionControl [sessionType] r.respCap
    if sessionType = sessionDefault then
      ⟨{ h with session := .default, security := .locked }, answer, []⟩
    else if sessionType = sessionProgramming then
      ⟨{ h with session := .programming, security := .locked }, answer, []⟩
    else if sessionType = sessionExtendedDiagnostic then
      ⟨{ h with session := .extendedDiagnostic }, answer, []⟩
    else refuse h Nrc.subFunctionNotSupported

def udsServiceEcuReset (h : UDSHandler) (r : Request) : ServiceResult :=
  if r.bytes.length < 2 then refuse h Nrc.incorrectMessageLength
  else
    let resetType := r.byte 1
    if resetType < resetHard ∨ resetType > resetSoft then refuse h Nrc.subFunctionNotSupported
    else
      match udsBuildPositiveResponse Sid.ecuReset [resetType] r.respCap with
      | some response => ⟨h, .ok response, [.ecuReset resetType]⟩
      | none => refuse h Nrc.generalReject

/-- The big-endian key of a SendKey request. -/
def receivedKey (r : Request) : UInt32 := word32 (r.byte 2) (r.byte 3) (r.byte 4) (r.byte 5)

/-- The seed branch of `uds_service_security_access`. -/
def requestSeed (h : UDSHandler) (r : Request) (calls : List PlatformCall) : ServiceResult :=
  let subFunction := r.byte 1
  if h.security = .unlocked then
    ⟨h, positiveOrReject Sid.securityAccess [subFunction, 0, 0, 0, 0] r.respCap, calls⟩
  else
    ⟨{ h with seed := r.platform.seed },
      positiveOrReject Sid.securityAccess (subFunction :: beBytes32 r.platform.seed) r.respCap,
      calls ++ [.generateSeed r.platform.seed]⟩

/-- The key branch of `uds_service_security_access`. -/
def sendKey (calculateKey : UInt32 → UInt32) (h : UDSHandler) (r : Request)
    (calls : List PlatformCall) : ServiceResult :=
  if r.bytes.length < 6 then ⟨h, .error Nrc.incorrectMessageLength, calls⟩
  else if receivedKey r = calculateKey h.seed then
    ⟨{ h with security := .unlocked, securityAttempts := 0 },
      positiveOrReject Sid.securityAccess [r.byte 1] r.respCap, calls ++ [.calculateKey h.seed]⟩
  else
    let attempts := h.securityAttempts + 1
    if attempts ≥ securityAccessAttempts then
      ⟨{ h with securityAttempts := attempts, securityLockoutTime := r.platform.tickMs },
        .error Nrc.exceedNumberOfAttempts,
        calls ++ [.calculateKey h.seed, .getTickMs r.platform.tickMs]⟩
    else
      ⟨{ h with securityAttempts := attempts }, .error Nrc.invalidKey,
        calls ++ [.calculateKey h.seed]⟩

/-- What follows the lockout check of `uds_service_security_access`. -/
def securityAccessBody (calculateKey : UInt32 → UInt32) (h : UDSHandler) (r : Request)
    (calls : List PlatformCall) : ServiceResult :=
  if r.byte 1 = securityLevel1 then requestSeed h r calls
  else if r.byte 1 = securityLevel2 then sendKey calculateKey h r calls
  else ⟨h, .error Nrc.subFunctionNotSupported, calls⟩

def udsServiceSecurityAccess (calculateKey : UInt32 → UInt32) (h : UDSHandler) (r : Request) :
    ServiceResult :=
  if r.bytes.length < 2 then refuse h Nrc.incorrectMessageLength
  else if h.securityAttempts ≥ securityAccessAttempts then
    let currentTime := r.platform.tickMs
    if currentTime - h.securityLockoutTime < securityAccessDelayMs then
      ⟨h, .error Nrc.requiredTimeDelayNotExpired, [.getTickMs currentTime]⟩
    else
      securityAccessBody calculateKey { h with securityAttempts := 0 } r [.getTickMs currentTime]
  else securityAccessBody calculateKey h r []

def udsServiceTesterPresent (h : UDSHandler) (r : Request) : ServiceResult :=
  if r.bytes.length < 2 then refuse h Nrc.incorrectMessageLength
  else ⟨h, positiveOrReject Sid.testerPresent [r.byte 1] r.respCap, []⟩

/-- The example VIN of `uds_service_read_data_by_id`. -/
def exampleVin : List UInt8 := "WBADT43452G296403".toList.map fun c => UInt8.ofNat c.toNat

def udsServiceReadDataById (h : UDSHandler) (r : Request) : ServiceResult :=
  if r.bytes.length < 3 then refuse h Nrc.incorrectMessageLength
  else
    let did := word16 (r.byte 1) (r.byte 2)
    if did = didVin then
      ⟨h, positiveOrReject Sid.readDataByIdentifier (beBytes16 did ++ exampleVin) r.respCap, []⟩
    else refuse h Nrc.requestOutOfRange

def udsServiceWriteDataById (h : UDSHandler) (r : Request) : ServiceResult :=
  if r.bytes.length < 4 then refuse h Nrc.incorrectMessageLength
  else if h.security ≠ .unlocked then refuse h Nrc.securityAccessDenied
  else
    let did := word16 (r.byte 1) (r.byte 2)
    ⟨h, positiveOrReject Sid.writeDataByIdentifier (beBytes16 did) r.respCap, []⟩

/-- The address width announced by the addressAndLengthFormatIdentifier. -/
def addrBytes (r : Request) : ℕ := (r.byte 2 >>> 4 &&& 0x0F).toNat

/-- The size width announced by the addressAndLengthFormatIdentifier. -/
def sizeBytes (r : Request) : ℕ := (r.byte 2 &&& 0x0F).toNat

def addressField (r : Request) : List UInt8 := (r.bytes.drop 3).take (addrBytes r)

def sizeField (r : Request) : List UInt8 := (r.bytes.drop (3 + addrBytes r)).take (sizeBytes r)

def udsServiceRequestDownload (h : UDSHandler) (r : Request) : ServiceResult :=
  if r.bytes.length < 4 then refuse h Nrc.incorrectMessageLength
  else if h.session ≠ .programming then refuse h Nrc.conditionsNotCorrect
  else if h.security ≠ .unlocked then refuse h Nrc.securityAccessDenied
  else if r.bytes.length < 3 + addrBytes r + sizeBytes r then refuse h Nrc.incorrectMessageLength
  else
    let address := (addressField r).foldl shiftIn 0
    let size := (sizeField r).foldl shiftIn 0
    ⟨{ h with
        transferActive := true
        blockSequenceCounter := 1
        transferAddress := address
        transferSize := size
        transferReceived := 0 },
      positiveOrReject Sid.requestDownload [0x20, 0x04, 0x00] r.respCap, []⟩

/-- The block counter after a block: incremented, with `0` skipped on the wrap. -/
def nextBlockSequenceCounter (c : UInt8) : UInt8 := if c + 1 = 0 then 1 else c + 1

def udsServiceTransferData (h : UDSHandler) (r : Request) : ServiceResult :=
  if r.bytes.length < 2 then refuse h Nrc.incorrectMessageLength
  else if h.transferActive = false then refuse h Nrc.requestSequenceError
  else
    let blockSeq := r.byte 1
    if blockSeq ≠ h.blockSequenceCounter then refuse h Nrc.wrongBlockSequenceCounter
    else
      let data := r.bytes.drop 2
      let writeAddr := h.transferAddress + h.transferReceived
      let call := PlatformCall.writeFirmware writeAddr data r.platform.writeStatus
      if r.platform.writeStatus ≠ 0 then ⟨h, .error Nrc.generalProgrammingFailure, [call]⟩
      else
        ⟨{ h with
            transferReceived := h.transferReceived + UInt32.ofNat data.length
            blockSequenceCounter := nextBlockSequenceCounter h.blockSequenceCounter },
          positiveOrReject Sid.transferData [blockSeq] r.respCap, [call]⟩

def udsServiceRequestTransferExit (h : UDSHandler) (r : Request) : ServiceResult :=
  if h.transferActive = false then refuse h Nrc.requestSequenceError
  else if h.transferReceived ≠ h.transferSize then refuse h Nrc.generalProgrammingFailure
  else
    ⟨{ h with transferActive := false },
      positiveOrReject Sid.requestTransferExit [] r.respCap, []⟩

/-! ## Dispatch -/

structure UDSServiceEntry where
  sid : UInt8
  handler : UDSHandler → Request → ServiceResult

def serviceTable (calculateKey : UInt32 → UInt32) : List UDSServiceEntry :=
  [⟨Sid.diagnosticSessionControl, udsServiceDiagnosticSessionControl⟩,
    ⟨Sid.ecuReset, udsServiceEcuReset⟩,
    ⟨Sid.securityAccess, udsServiceSecurityAccess calculateKey⟩,
    ⟨Sid.testerPresent, udsServiceTesterPresent⟩,
    ⟨Sid.readDataByIdentifier, udsServiceReadDataById⟩,
    ⟨Sid.writeDataByIdentifier, udsServiceWriteDataById⟩,
    ⟨Sid.requestDownload, udsServiceRequestDownload⟩,
    ⟨Sid.transferData, udsServiceTransferData⟩,
    ⟨Sid.requestTransferExit, udsServiceRequestTransferExit⟩]

/-- The end of `uds_handler_process`: a negative return value becomes a negative response. -/
def ServiceResult.toReply (res : ServiceResult) (sid : UInt8) (respCap : ℕ) : Reply where
  response :=
    match res.ret with
    | .ok response => some response
    | .error nrc => udsBuildNegativeResponse sid nrc respCap
  calls := res.calls

def udsHandlerProcess (calculateKey : UInt32 → UInt32) (h : UDSHandler) (r : Request) :
    UDSHandler × Reply :=
  match r.bytes with
  | [] => (h, ⟨none, []⟩)
  | sid :: _ =>
    match (serviceTable calculateKey).find? (·.sid == sid) with
    | none => (h, ⟨udsBuildNegativeResponse sid Nrc.serviceNotSupported r.respCap, []⟩)
    | some entry =>
      let res := entry.handler h r
      (res.handler, res.toReply sid r.respCap)

/-! ## The template key function -/

/-- `uds_platform_calculate_key` of `uds_platform_tc375.c`. -/
def udsPlatformCalculateKey (seed : UInt32) : UInt32 :=
  let key := seed ^^^ 0xABCD1234
  let key := (key <<< 16) ||| (key >>> 16)
  key ^^^ 0x5A5A5A5A

end Mcus.Uds
