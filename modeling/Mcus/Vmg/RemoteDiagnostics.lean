import Mcus.Doip.Encoders
import Mcus.Foundations.OrderedMap
import Mcus.Foundations.Runs

/-! # The remote diagnostics handler of the vehicle gateway

`remote_diagnostics_handler.cpp`: requests that arrive as JSON text are kept in a map until they are
answered, sent to their ECU, and sent again by `processPendingRequests` when their time is over. Strings
are their bytes and times are nanoseconds of the steady clock, which never runs backwards, so that a
difference of times is one of natural numbers. The VIN, the console and the JSON text of a response,
which is built and then dropped, are left out.

The raw string literals of the four patterns of `parseRequest` (lines 197, 204, 210 and 217) end early as they
are written, at the first closing parenthesis in front of a quote, and are read with the delimiter that is meant.
That `std::regex_search` may run out of stack on a very long field is left out.
-/

namespace Mcus.Vmg
open Doip OrderedMap Runs Std
set_option autoImplicit false

abbrev Text := List UInt8

structure DiagnosticRequest where
  requestId : Text
  ecuId : Text
  serviceId : UInt8
  data : List UInt8
  timestamp : ℕ
  timeoutMs : UInt32 := 5000
  retryCount : UInt8 := 0
  maxRetries : UInt8 := 3
  deriving DecidableEq, Repr

structure DiagnosticResponse where
  requestId : Text
  ecuId : Text
  success : Bool
  responseData : List UInt8
  errorMessage : String
  durationMs : UInt32
  timestamp : ℕ
  deriving DecidableEq, Repr

structure ECURouting where
  ecuId : Text
  zonalGatewayId : Text
  logicalAddress : UInt16
  ipAddress : Text
  port : UInt16
  deriving DecidableEq, Repr

/-- What a call does outside the handler: a request that `sendToECU` hands on, a response that
`sendResponse` has built, and the call of the response callback. -/
inductive RemoteEvent
  | sentToECU (request : DiagnosticRequest) (routing : ECURouting) (doipMessage : List UInt8)
  | sentResponse (response : DiagnosticResponse)
  | responseCallback (response : DiagnosticResponse)
  deriving DecidableEq, Repr

structure RemoteDiagnosticsHandler where
  ecuRouting : TreeMap Text ECURouting
  pendingRequests : TreeMap Text DiagnosticRequest
  /-- A response callback is set. -/
  responseCallback : Bool
  totalRequests : UInt64
  successfulRequests : UInt64
  failedRequests : UInt64
  timeoutRequests : UInt64
  retryRequests : UInt64

/-- The values that the locals of `handleRequest` happen to have: `service_id` of the request, which the
parser may leave alone, and `duration_ms` of a failure response. -/
structure Uninitialised where
  serviceId : UInt8
  durationMs : UInt32

/-! ## The parser -/

/-- A field of the form `"key" : "value"` with white space around the colon. The value is `lead` and then
at least `least` of the `allowed` characters. -/
structure FieldRegex where
  key : String
  lead : String
  allowed : UInt8 → Bool
  least : ℕ

def isSpace (c : UInt8) : Bool := c = 0x20 || (0x09 ≤ c && c ≤ 0x0D)

def isHexDigit (c : UInt8) : Bool :=
  (0x30 ≤ c && c ≤ 0x39) || (0x41 ≤ c && c ≤ 0x46) || (0x61 ≤ c && c ≤ 0x66)

def bytesOf (s : String) : Text := s.toUTF8.toList

/-- The captured value of a match at the front of the text. -/
def FieldRegex.matchAt (field : FieldRegex) (text : Text) : Option Text := do
  let afterKey ← text.dropPrefix? (0x22 :: bytesOf field.key ++ [0x22])
  let afterColon ← (afterKey.dropWhile isSpace).dropPrefix? [0x3A]
  let afterLead ← (afterColon.dropWhile isSpace).dropPrefix? (0x22 :: bytesOf field.lead)
  let value := afterLead.takeWhile field.allowed
  if field.least ≤ value.length ∧ (afterLead.dropWhile field.allowed).head? = some 0x22 then
    some (bytesOf field.lead ++ value)
  else none

/-- The first match from the left. -/
def FieldRegex.search (field : FieldRegex) : Text → Option Text
  | [] => none
  | c :: text => (field.matchAt (c :: text)).orElse fun _ => field.search text

def requestIdRegex : FieldRegex := ⟨"request_id", "", fun c => c != 0x22, 1⟩
def ecuIdRegex : FieldRegex := ⟨"ecu_id", "", fun c => c != 0x22, 1⟩
def serviceIdRegex : FieldRegex := ⟨"service_id", "0x", isHexDigit, 1⟩
def dataRegex : FieldRegex := ⟨"data", "", isHexDigit, 0⟩

def hexDigit (c : UInt8) : ℕ :=
  if c ≤ 0x39 then c.toNat - 0x30 else if c ≤ 0x46 then c.toNat - 0x37 else c.toNat - 0x57

/-- `std::stoi` in base 16, which throws when the value does not fit an `int`. -/
def stoi (text : Text) : Option ℕ :=
  let digits := (text.dropPrefix? (bytesOf "0x")).getD text
  let value := digits.foldl (fun n c => 16 * n + hexDigit c) 0
  if value < 2 ^ 31 then some value else none

/-- Two digits a byte, and one for the last byte of an odd length. -/
def hexBytes : Text → Option (List UInt8)
  | [] => some []
  | [c] => do
    let byte ← stoi [c]
    some [UInt8.ofNat byte]
  | c :: d :: text => do
    let byte ← stoi [c, d]
    let bytes ← hexBytes text
    some (UInt8.ofNat byte :: bytes)

def parseServiceId (jsonPayload : Text) (serviceId : UInt8) : Option UInt8 :=
  match serviceIdRegex.search jsonPayload with
  | some serviceStr => (stoi serviceStr).map UInt8.ofNat
  | none => some serviceId

def parseData (jsonPayload : Text) (data : List UInt8) : Option (List UInt8) :=
  match dataRegex.search jsonPayload with
  | some dataStr => (hexBytes dataStr).map (data ++ ·)
  | none => some data

/-- The fields that are found replace those of the given request; no request when an exception was
thrown or an identifier is empty. -/
def parseRequest (jsonPayload : Text) (request : DiagnosticRequest) : Option DiagnosticRequest := do
  let requestId := (requestIdRegex.search jsonPayload).getD request.requestId
  let ecuId := (ecuIdRegex.search jsonPayload).getD request.ecuId
  let serviceId ← parseServiceId jsonPayload request.serviceId
  let data ← parseData jsonPayload request.data
  if requestId ≠ [] ∧ ecuId ≠ [] then some { request with requestId, ecuId, serviceId, data } else none

/-- The format in the comment of the parser. -/
def expectedFormat : Text :=
  bytesOf "\x7b \"request_id\": \"diag-12345\", \"ecu_id\": \"ECU_001\", " ++
    bytesOf "\"service_id\": \"0x22\", \"data\": \"F190\" \x7d"

/-- The request that `handleRequest` has parsed and stamped. -/
def receivedRequest (jsonPayload : Text) (locals : Uninitialised) (now : ℕ) : Option DiagnosticRequest :=
  let request : DiagnosticRequest :=
    { requestId := [], ecuId := [], serviceId := locals.serviceId, data := [], timestamp := 0 }
  (parseRequest jsonPayload request).map fun request => { request with timestamp := now }

example : receivedRequest expectedFormat ⟨0, 0⟩ 7 =
    some ⟨bytesOf "diag-12345", bytesOf "ECU_001", 0x22, [0xF1, 0x90], 7, 5000, 0, 3⟩ := by decide +kernel

/-! ## Sending -/

namespace RemoteDiagnosticsHandler

def findECURouting (h : RemoteDiagnosticsHandler) (ecuId : Text) : Option ECURouting := h.ecuRouting[ecuId]?

def sendToECU (h : RemoteDiagnosticsHandler) (request : DiagnosticRequest) : Bool × List RemoteEvent :=
  match h.findECURouting request.ecuId with
  | none => (false, [])
  | some routing =>
    let udsData := request.serviceId :: request.data
    let doipMessage := buildDoIPDiagnosticMessage 0x0E00 routing.logicalAddress udsData
    (true, [.sentToECU request routing doipMessage])

def sendResponse (h : RemoteDiagnosticsHandler) (response : DiagnosticResponse) :
    RemoteDiagnosticsHandler × List RemoteEvent :=
  let events := .sentResponse response :: if h.responseCallback then [.responseCallback response] else []
  if response.success then ({ h with successfulRequests := h.successfulRequests + 1 }, events)
  else ({ h with failedRequests := h.failedRequests + 1 }, events)

/-! ## The calls -/

def constructed : RemoteDiagnosticsHandler where
  ecuRouting := ∅
  pendingRequests := ∅
  responseCallback := false
  totalRequests := 0
  successfulRequests := 0
  failedRequests := 0
  timeoutRequests := 0
  retryRequests := 0

def setResponseCallback (h : RemoteDiagnosticsHandler) : RemoteDiagnosticsHandler :=
  { h with responseCallback := true }

def registerECU (h : RemoteDiagnosticsHandler) (ecuId zonalGatewayId : Text) (logicalAddress : UInt16)
    (ipAddress : Text) (port : UInt16) : RemoteDiagnosticsHandler :=
  { h with
    ecuRouting := h.ecuRouting.insert ecuId ⟨ecuId, zonalGatewayId, logicalAddress, ipAddress, port⟩ }

/-- The response to a request that no ECU takes. -/
def routingFailure (request : DiagnosticRequest) (durationMs : UInt32) (now : ℕ) : DiagnosticResponse :=
  ⟨request.requestId, request.ecuId, false, [], "Failed to route to ECU", durationMs, now⟩

/-- `handleRequest` behind the parser. -/
def acceptRequest (h : RemoteDiagnosticsHandler) (request : DiagnosticRequest) (durationMs : UInt32)
    (responded : ℕ) : RemoteDiagnosticsHandler × Bool × List RemoteEvent :=
  let h := { h with
    totalRequests := h.totalRequests + 1
    pendingRequests := h.pendingRequests.insert request.requestId request }
  match h.sendToECU request with
  | (true, events) => (h, true, events)
  | (false, events) =>
    let (h, answered) := h.sendResponse (routingFailure request durationMs responded)
    ({ h with
      pendingRequests := h.pendingRequests.erase request.requestId
      failedRequests := h.failedRequests + 1 }, false, events ++ answered)

/-- The clock is read when the request is stored and when a failure response is made. -/
def handleRequest (h : RemoteDiagnosticsHandler) (jsonPayload : Text) (locals : Uninitialised)
    (received responded : ℕ) : RemoteDiagnosticsHandler × Bool × List RemoteEvent :=
  match receivedRequest jsonPayload locals received with
  | none => (h, false, [])
  | some request => h.acceptRequest request locals.durationMs responded

/-- A difference of times in whole milliseconds. -/
def elapsedMs (now since : ℕ) : ℕ := (now - since) / 1000000

def timeoutResponse (requestId : Text) (request : DiagnosticRequest) (now : ℕ) : DiagnosticResponse :=
  ⟨requestId, request.ecuId, false, [], "Timeout: ECU did not respond",
    UInt32.ofNat (elapsedMs now request.timestamp), now⟩

/-- One pass of the loop of `processPendingRequests`, and whether the request is to be removed. -/
def processEntry (h : RemoteDiagnosticsHandler) (now : ℕ) (requestId : Text) (request : DiagnosticRequest) :
    RemoteDiagnosticsHandler × Bool × List RemoteEvent :=
  if elapsedMs now request.timestamp > request.timeoutMs.toNat then
    if request.retryCount < request.maxRetries then
      let request := { request with retryCount := request.retryCount + 1, timestamp := now }
      let h := { h with
        pendingRequests := h.pendingRequests.insert requestId request
        retryRequests := h.retryRequests + 1 }
      (h, false, (h.sendToECU request).2)
    else
      let (h, events) := h.sendResponse (timeoutResponse requestId request now)
      ({ h with timeoutRequests := h.timeoutRequests + 1 }, true, events)
  else (h, false, [])

/-- The loop, and the keys in `to_remove` behind it. -/
def processEntries (h : RemoteDiagnosticsHandler) (now : ℕ) :
    List (Text × DiagnosticRequest) → RemoteDiagnosticsHandler × List Text × List RemoteEvent
  | [] => (h, [], [])
  | (requestId, request) :: entries =>
    let (h, remove, events) := h.processEntry now requestId request
    let (h, toRemove, later) := h.processEntries now entries
    (h, if remove then requestId :: toRemove else toRemove, events ++ later)

def processPendingRequests (h : RemoteDiagnosticsHandler) (now : ℕ) :
    RemoteDiagnosticsHandler × List RemoteEvent :=
  let (h, toRemove, events) := h.processEntries now h.pendingRequests.toList
  ({ h with pendingRequests := eraseAll h.pendingRequests toRemove }, events)

end RemoteDiagnosticsHandler

/-- The map that `getStatistics` returns, under its keys. -/
structure RemoteStatistics where
  totalRequests : UInt64
  successfulRequests : UInt64
  failedRequests : UInt64
  timeoutRequests : UInt64
  retryRequests : UInt64
  pendingRequests : UInt64
  deriving DecidableEq, Repr

def RemoteDiagnosticsHandler.getStatistics (h : RemoteDiagnosticsHandler) : RemoteStatistics :=
  ⟨h.totalRequests, h.successfulRequests, h.failedRequests, h.timeoutRequests, h.retryRequests,
    UInt64.ofNat h.pendingRequests.size⟩

/-! ## Runs -/

inductive RemoteCall
  | registerECU (ecuId zonalGatewayId : Text) (logicalAddress : UInt16) (ipAddress : Text) (port : UInt16)
  | handleRequest (jsonPayload : Text) (locals : Uninitialised) (received responded : ℕ)
  | processPendingRequests (now : ℕ)

namespace RemoteCall

/-- The request of a `handleRequest` call whose payload was parsed. -/
def parsed : RemoteCall → Option DiagnosticRequest
  | registerECU .. => none
  | handleRequest jsonPayload locals received _ => receivedRequest jsonPayload locals received
  | processPendingRequests _ => none

/-- The clock as the call reads it first; a registration does not look at it. -/
def time : RemoteCall → ℕ
  | registerECU .. => 0
  | handleRequest _ _ received _ => received
  | processPendingRequests now => now

end RemoteCall

def remoteMachine : Machine RemoteDiagnosticsHandler RemoteCall (List RemoteEvent) where
  step h
    | .registerECU ecuId zonalGatewayId logicalAddress ipAddress port =>
      (h.registerECU ecuId zonalGatewayId logicalAddress ipAddress port, [])
    | .handleRequest jsonPayload locals received responded =>
      let (h, _, events) := h.handleRequest jsonPayload locals received responded
      (h, events)
    | .processPendingRequests now => h.processPendingRequests now

abbrev RemoteStep := Step RemoteDiagnosticsHandler RemoteCall (List RemoteEvent)

end Mcus.Vmg
