import Mcus.Foundations.ByteOrder

/-! # The simulator's UDS handler

`tc375_simulator/src/uds_handler.cpp`: the handler class with the eight services that its
constructor registers. Unlike the device it reads every parameter, the sub-function included, from
`data`. A seed is drawn from `generateSeed` when one is needed, so a request comes with the value
that would be drawn. `UdsService` and `NRC` are scoped enumerations over a byte and hold any byte.
-/

namespace Mcus.Simulator
open ByteOrder
set_option autoImplicit false

namespace UdsService
abbrev diagnosticSessionControl : UInt8 := 0x10
abbrev ecuReset : UInt8 := 0x11
abbrev readDataById : UInt8 := 0x22
abbrev securityAccess : UInt8 := 0x27
abbrev requestDownload : UInt8 := 0x34
abbrev transferData : UInt8 := 0x36
abbrev requestTransferExit : UInt8 := 0x37
abbrev testerPresent : UInt8 := 0x3E
end UdsService

namespace NRC
abbrev positiveResponse : UInt8 := 0x00
abbrev generalReject : UInt8 := 0x10
abbrev serviceNotSupported : UInt8 := 0x11
abbrev subFunctionNotSupported : UInt8 := 0x12
abbrev incorrectMessageLength : UInt8 := 0x13
abbrev requestOutOfRange : UInt8 := 0x31
abbrev securityAccessDenied : UInt8 := 0x33
abbrev invalidKey : UInt8 := 0x35
abbrev uploadDownloadNotAccepted : UInt8 := 0x70
abbrev wrongBlockSequenceCounter : UInt8 := 0x73
end NRC

structure UdsMessage where
  service : UInt8
  subFunction : UInt8
  data : List UInt8
  deriving DecidableEq, Repr

structure UdsResponse where
  positive : Bool
  service : UInt8
  nrc : UInt8
  data : List UInt8
  deriving DecidableEq, Repr

inductive SecurityLevel
  | locked
  | seedSent
  | unlocked
  deriving DecidableEq, Repr

inductive DiagnosticSession
  | default
  | programming
  | extended
  deriving DecidableEq, Repr

def DiagnosticSession.toByte : DiagnosticSession → UInt8
  | .default => 0x01
  | .programming => 0x02
  | .extended => 0x03

structure DownloadState where
  active : Bool
  blockCounter : UInt8
  deriving DecidableEq, Repr

structure UdsHandler where
  securityLevel : SecurityLevel
  currentSeed : UInt32
  currentSession : DiagnosticSession
  downloadState : DownloadState
  deriving DecidableEq, Repr

/-- What `generateSeed` can draw. -/
structure GeneratedSeed where
  value : UInt32
  bound : 0x10000000 ≤ value

def createPositiveResponse (service : UInt8) (data : List UInt8) : UdsResponse :=
  ⟨true, service, NRC.positiveResponse, data⟩

def createNegativeResponse (service nrc : UInt8) : UdsResponse := ⟨false, service, nrc, []⟩

def expectedKey (seed : UInt32) : UInt32 := seed ^^^ 0xA5A5A5A5

def verifySeedKey (seed key : UInt32) : Bool := key == expectedKey seed

namespace UdsHandler

def construct : UdsHandler where
  securityLevel := .locked
  currentSeed := 0
  currentSession := .default
  downloadState := ⟨false, 0⟩

/-- A request that is refused before anything is written. -/
def refuse (h : UdsHandler) (request : UdsMessage) (nrc : UInt8) : UdsHandler × UdsResponse :=
  (h, createNegativeResponse request.service nrc)

def handleDiagnosticSession (h : UdsHandler) (request : UdsMessage) : UdsHandler × UdsResponse :=
  match request.data with
  | [] => h.refuse request NRC.incorrectMessageLength
  | sessionType :: _ =>
    let answer := createPositiveResponse request.service [sessionType]
    if sessionType = 0x01 then ({ h with currentSession := .default }, answer)
    else if sessionType = 0x02 then
      if h.securityLevel ≠ .unlocked then h.refuse request NRC.securityAccessDenied
      else ({ h with currentSession := .programming }, answer)
    else if sessionType = 0x03 then ({ h with currentSession := .extended }, answer)
    else h.refuse request NRC.subFunctionNotSupported

def handleEcuReset (h : UdsHandler) (request : UdsMessage) : UdsHandler × UdsResponse :=
  match request.data with
  | [] => h.refuse request NRC.incorrectMessageLength
  | resetType :: _ => (h, createPositiveResponse request.service [resetType])

/-- The seed branch of `handleSecurityAccess`. -/
def sendSeed (h : UdsHandler) (seed : GeneratedSeed) (request : UdsMessage) : UdsHandler × UdsResponse :=
  ({ h with currentSeed := seed.value, securityLevel := .seedSent },
    createPositiveResponse request.service (beBytes32 seed.value))

/-- The key branch of `handleSecurityAccess`. -/
def checkKey (h : UdsHandler) (subFunc : UInt8) (request : UdsMessage) : UdsHandler × UdsResponse :=
  if h.securityLevel ≠ .seedSent then h.refuse request NRC.generalReject
  else
    match request.data with
    | _ :: k3 :: k2 :: k1 :: k0 :: _ =>
      if verifySeedKey h.currentSeed (word32 k3 k2 k1 k0) then
        ({ h with securityLevel := .unlocked }, createPositiveResponse request.service [subFunc])
      else
        ({ h with securityLevel := .locked }, createNegativeResponse request.service NRC.invalidKey)
    | _ => h.refuse request NRC.incorrectMessageLength

def handleSecurityAccess (h : UdsHandler) (seed : GeneratedSeed) (request : UdsMessage) :
    UdsHandler × UdsResponse :=
  match request.data with
  | [] => h.refuse request NRC.incorrectMessageLength
  | subFunc :: _ =>
    if subFunc &&& 0x01 = 0x01 then h.sendSeed seed request else h.checkKey subFunc request

def handleTesterPresent (h : UdsHandler) (request : UdsMessage) : UdsHandler × UdsResponse :=
  (h, createPositiveResponse request.service [0x00])

/-- The example texts of `handleReadDataById`. -/
def manufacturingDate : List UInt8 := "20251021".toList.map fun c => UInt8.ofNat c.toNat

def serialNumber : List UInt8 := "TC375-001".toList.map fun c => UInt8.ofNat c.toNat

def handleReadDataById (h : UdsHandler) (request : UdsMessage) : UdsHandler × UdsResponse :=
  match request.data with
  | d1 :: d0 :: _ =>
    let dataId := word16 d1 d0
    let answer := fun value => (h, createPositiveResponse request.service (beBytes16 dataId ++ value))
    if dataId = 0xF186 then answer [h.currentSession.toByte]
    else if dataId = 0xF187 then answer manufacturingDate
    else if dataId = 0xF18A then answer serialNumber
    else h.refuse request NRC.requestOutOfRange
  | _ => h.refuse request NRC.incorrectMessageLength

def handleRequestDownload (h : UdsHandler) (request : UdsMessage) : UdsHandler × UdsResponse :=
  if h.currentSession ≠ .programming then h.refuse request NRC.generalReject
  else if h.securityLevel ≠ .unlocked then h.refuse request NRC.securityAccessDenied
  else
    ({ h with downloadState := ⟨true, 1⟩ },
      createPositiveResponse request.service (0x20 :: beBytes16 0x1000))

def handleTransferData (h : UdsHandler) (request : UdsMessage) : UdsHandler × UdsResponse :=
  if h.downloadState.active = false then h.refuse request NRC.uploadDownloadNotAccepted
  else
    match request.data with
    | [] => h.refuse request NRC.incorrectMessageLength
    | blockCounter :: _ =>
      if blockCounter ≠ h.downloadState.blockCounter then
        h.refuse request NRC.wrongBlockSequenceCounter
      else
        ({ h with downloadState.blockCounter := h.downloadState.blockCounter % 0xFF + 1 },
          createPositiveResponse request.service [blockCounter])

def handleRequestTransferExit (h : UdsHandler) (request : UdsMessage) : UdsHandler × UdsResponse :=
  if h.downloadState.active = false then h.refuse request NRC.uploadDownloadNotAccepted
  else ({ h with downloadState.active := false }, createPositiveResponse request.service [])

/-- `service_handlers_` as the constructor fills it. -/
def serviceHandlers (seed : GeneratedSeed) :
    List (UInt8 × (UdsHandler → UdsMessage → UdsHandler × UdsResponse)) :=
  [(UdsService.diagnosticSessionControl, handleDiagnosticSession),
    (UdsService.ecuReset, handleEcuReset),
    (UdsService.securityAccess, fun h => h.handleSecurityAccess seed),
    (UdsService.testerPresent, handleTesterPresent),
    (UdsService.readDataById, handleReadDataById),
    (UdsService.requestDownload, handleRequestDownload),
    (UdsService.transferData, handleTransferData),
    (UdsService.requestTransferExit, handleRequestTransferExit)]

def handleRequest (h : UdsHandler) (seed : GeneratedSeed) (request : UdsMessage) :
    UdsHandler × UdsResponse :=
  match (serviceHandlers seed).find? (·.1 == request.service) with
  | none => h.refuse request NRC.serviceNotSupported
  | some (_, handler) => handler h request

/-! ## Dispatch -/

section Dispatch
variable {h : UdsHandler} {seed : GeneratedSeed} {subFunction : UInt8} {data : List UInt8}

theorem handleRequest_session :
    h.handleRequest seed ⟨UdsService.diagnosticSessionControl, subFunction, data⟩ =
      h.handleDiagnosticSession ⟨UdsService.diagnosticSessionControl, subFunction, data⟩ := rfl

theorem handleRequest_security :
    h.handleRequest seed ⟨UdsService.securityAccess, subFunction, data⟩ =
      h.handleSecurityAccess seed ⟨UdsService.securityAccess, subFunction, data⟩ := rfl

theorem handleRequest_download :
    h.handleRequest seed ⟨UdsService.requestDownload, subFunction, data⟩ =
      h.handleRequestDownload ⟨UdsService.requestDownload, subFunction, data⟩ := rfl

end Dispatch

end UdsHandler
end Mcus.Simulator
