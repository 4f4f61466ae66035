import Mcus.Vmg.RemoteDiagnostics

/-! # What the parser of remote requests reads

A `service_id` counts in the format of the comment of `parseRequest`. A payload without one keeps the value
that the local happens to have, a value from 256 on is cut to a byte, the last digit of an odd number of
digits is a byte of its own, and data that are not hexadecimal digits are left out: all of these become
requests and are sent. There is a data field where its key and colon are, whatever follows them, and the first
one counts.
-/

namespace Mcus.Vmg
open RemoteDiagnosticsHandler
set_option autoImplicit false

/-! ## Fields -/

/-- What a field can have for a value. -/
def FieldRegex.Captures (field : FieldRegex) (v : Text) : Prop :=
  ∃ value, v = bytesOf field.lead ++ value ∧ (∀ c ∈ value, field.allowed c) ∧ field.least ≤ value.length

section Fields
variable {field : FieldRegex} {text v : Text}

theorem FieldRegex.captures_of_matchAt (hmatch : field.matchAt text = some v) : field.Captures v := by
  unfold FieldRegex.matchAt at hmatch
  obtain ⟨afterKey, -, hmatch⟩ := Option.bind_eq_some_iff.mp hmatch
  obtain ⟨afterColon, -, hmatch⟩ := Option.bind_eq_some_iff.mp hmatch
  obtain ⟨afterLead, -, hmatch⟩ := Option.bind_eq_some_iff.mp hmatch
  dsimp only at hmatch
  split at hmatch
  case isTrue hvalue =>
    refine ⟨_, (Option.some.inj hmatch).symm, ?_, hvalue.1⟩
    intro c hc
    exact List.mem_takeWhile_imp hc
  case isFalse => cases hmatch

theorem FieldRegex.captures_of_search (hsearch : field.search text = some v) : field.Captures v := by
  induction text with
  | nil => cases hsearch
  | cons c text ih =>
    rw [FieldRegex.search] at hsearch
    cases hmatch : field.matchAt (c :: text) with
    | some _ =>
      rw [hmatch] at hsearch
      obtain rfl := Option.some.inj hsearch
      exact FieldRegex.captures_of_matchAt hmatch
    | none =>
      rw [hmatch] at hsearch
      exact ih hsearch

theorem FieldRegex.ne_nil_of_search (hleast : 0 < field.least) (hsearch : field.search text = some v) :
    v ≠ [] := by
  obtain ⟨value, rfl, -, hlength⟩ := FieldRegex.captures_of_search hsearch
  exact List.append_ne_nil_of_right_ne_nil _ (List.ne_nil_of_length_pos (hleast.trans_le hlength))

theorem search_serviceId (hsearch : serviceIdRegex.search text = some v) :
    ∃ digits, v = bytesOf "0x" ++ digits := by
  obtain ⟨digits, rfl, -⟩ := FieldRegex.captures_of_search hsearch
  exact ⟨digits, rfl⟩

theorem search_data (hsearch : dataRegex.search text = some v) : ∀ c ∈ v, isHexDigit c := by
  obtain ⟨digits, rfl, hdigits, -⟩ := FieldRegex.captures_of_search hsearch
  have hlead : bytesOf dataRegex.lead = [] := by decide +kernel
  rw [hlead]
  exact hdigits

end Fields

/-! ## Data -/

/-- What follows the key and the colon. -/
def FieldRegex.afterColon (field : FieldRegex) (text : Text) : Option Text := do
  let afterKey ← text.dropPrefix? (0x22 :: bytesOf field.key ++ [0x22])
  (afterKey.dropWhile isSpace).dropPrefix? [0x3A]

/-- What follows the first key and its colon. -/
def FieldRegex.behind (field : FieldRegex) : Text → Option Text
  | [] => none
  | c :: text => (field.afterColon (c :: text)).orElse fun _ => field.behind text

def HasDataField (jsonPayload : Text) : Prop := (dataRegex.behind jsonPayload).isSome

/-- Behind the colon stand the digits in quotes. -/
structure DigitsBehind (rest digits : Text) : Prop where
  quoted : ∃ after, rest.dropWhile isSpace = 0x22 :: (digits ++ 0x22 :: after)
  hex : ∀ c ∈ digits, isHexDigit c

/-- The first data field is these digits. -/
def HasDigits (jsonPayload digits : Text) : Prop :=
  ∃ rest, dataRegex.behind jsonPayload = some rest ∧ DigitsBehind rest digits

section Data
variable {field : FieldRegex} {text rest digits digits' : Text}

theorem FieldRegex.matchAt_eq_bind (field : FieldRegex) (text : Text) : field.matchAt text =
    (field.afterColon text).bind fun rest =>
      ((rest.dropWhile isSpace).dropPrefix? (0x22 :: bytesOf field.lead)).bind fun afterLead =>
        if field.least ≤ (afterLead.takeWhile field.allowed).length ∧
            (afterLead.dropWhile field.allowed).head? = some 0x22 then
          some (bytesOf field.lead ++ afterLead.takeWhile field.allowed)
        else none := by
  unfold FieldRegex.matchAt FieldRegex.afterColon
  cases text.dropPrefix? (0x22 :: bytesOf field.key ++ [0x22]) <;> rfl

theorem matchAt_data (hrest : dataRegex.afterColon text = some rest) (hdigits : DigitsBehind rest digits) :
    dataRegex.matchAt text = some digits := by
  obtain ⟨after, hquoted⟩ := hdigits.quoted
  have hlead : bytesOf dataRegex.lead = [] := by decide +kernel
  have hopen : (0x22 :: (digits ++ 0x22 :: after)).dropPrefix? [0x22] = some (digits ++ 0x22 :: after) :=
    List.dropPrefix?_append_of_beq (digits ++ 0x22 :: after) (beq_self_eq_true [(0x22 : UInt8)])
  have hall : ∀ c ∈ digits, dataRegex.allowed c = true := hdigits.hex
  have hquote : ¬ dataRegex.allowed 0x22 = true := by decide
  rw [FieldRegex.matchAt_eq_bind, hrest, Option.bind_some, hquoted, hlead, hopen, Option.bind_some,
    List.takeWhile_append_of_pos hall, List.dropWhile_append_of_pos hall, List.takeWhile_cons_of_neg hquote,
    List.dropWhile_cons_of_neg hquote, List.append_nil, List.nil_append]
  exact if_pos ⟨Nat.zero_le _, rfl⟩

/-- The parser reads the first data field if that is digits. -/
theorem HasDigits.search (h : HasDigits text digits) : dataRegex.search text = some digits := by
  obtain ⟨rest, hbehind, hdigits⟩ := h
  induction text with
  | nil => cases hbehind
  | cons c text ih =>
    rw [FieldRegex.behind] at hbehind
    rw [FieldRegex.search]
    cases hcolon : dataRegex.afterColon (c :: text) with
    | none =>
      rw [hcolon] at hbehind
      rw [FieldRegex.matchAt_eq_bind, hcolon]
      exact ih hbehind
    | some rest' =>
      rw [hcolon] at hbehind
      obtain rfl : rest' = rest := Option.some.inj hbehind
      rw [matchAt_data hcolon hdigits]
      rfl

theorem HasDigits.unique (h : HasDigits text digits) (h' : HasDigits text digits') : digits = digits' :=
  Option.some.inj (h.search.symm.trans h'.search)

end Data

/-! ## Numbers -/

/-- The number that hexadecimal digits denote. -/
def hexValue (digits : Text) : ℕ := digits.foldl (fun n c => 16 * n + hexDigit c) 0

/-- The bytes that the digits denote in pairs. -/
inductive Denotes : Text → List UInt8 → Prop
  | nil : Denotes [] []
  | pair (c d : UInt8) (digits : Text) (byte : UInt8) (bytes : List UInt8)
      (hbyte : byte.toNat = hexValue [c, d]) (hbytes : Denotes digits bytes) :
      Denotes (c :: d :: digits) (byte :: bytes)

theorem stoi_lead (digits : Text) : stoi (bytesOf "0x" ++ digits) =
    if hexValue digits < 2 ^ 31 then some (hexValue digits) else none := by
  rw [stoi, List.dropPrefix?_append_of_beq digits (beq_self_eq_true _)]
  rfl

theorem hexDigit_lt {c : UInt8} (hc : isHexDigit c) : hexDigit c < 16 := by
  simp only [isHexDigit, Bool.or_eq_true, Bool.and_eq_true, decide_eq_true_eq, UInt8.le_iff_toNat_le] at hc
  simp only [hexDigit, UInt8.le_iff_toNat_le]
  simp only [UInt8.reduceToNat] at hc ⊢
  split_ifs <;> omega

theorem hexValue_digit_lt {c : UInt8} (hc : isHexDigit c) : hexValue [c] < 256 := by
  have hlt := hexDigit_lt hc
  simp only [hexValue, List.foldl_cons, List.foldl_nil]
  omega

theorem hexValue_pair_lt {c d : UInt8} (hc : isHexDigit c) (hd : isHexDigit d) : hexValue [c, d] < 256 := by
  have hlt := hexDigit_lt hc
  have hlt' := hexDigit_lt hd
  simp only [hexValue, List.foldl_cons, List.foldl_nil]
  omega

/-- Hexadecimal digits do not begin with `0x`. -/
theorem dropPrefix_hex {text : Text} (hhex : ∀ c ∈ text, isHexDigit c) :
    text.dropPrefix? (bytesOf "0x") = none := by
  refine Option.eq_none_iff_forall_ne_some.mpr fun rest hrest => ?_
  obtain ⟨front, rfl, hfront⟩ := List.dropPrefix?_eq_some_iff.mp hrest
  have hx : 0x78 ∈ bytesOf "0x" := by decide +kernel
  rw [← eq_of_beq hfront] at hx
  exact absurd (hhex 0x78 (List.mem_append_left rest hx)) (by decide)

theorem stoi_hex {text : Text} (hhex : ∀ c ∈ text, isHexDigit c) (hlt : hexValue text < 256) :
    stoi text = some (hexValue text) := by
  rw [stoi, dropPrefix_hex hhex]
  exact if_pos (hlt.trans (by decide))

/-- Digits are always read, in an even number as the bytes that they denote. -/
theorem hexBytes_spec {text : Text} (hhex : ∀ c ∈ text, isHexDigit c) :
    ∃ bytes, hexBytes text = some bytes ∧ (Even text.length → Denotes text bytes) := by
  induction text using hexBytes.induct with
  | case1 => exact ⟨[], rfl, fun _ => .nil⟩
  | case2 c =>
    have hc := hexValue_digit_lt (hhex c List.mem_cons_self)
    refine ⟨[UInt8.ofNat (hexValue [c])], ?_, fun heven => absurd heven (by simp)⟩
    rw [hexBytes, stoi_hex hhex hc]
    rfl
  | case3 c d text ih =>
    simp only [List.forall_mem_cons] at hhex
    obtain ⟨hc, hd, hhex⟩ := hhex
    obtain ⟨bytes, hbytes, hdenotes⟩ := ih hhex
    have hlt := hexValue_pair_lt hc hd
    have hpair : stoi [c, d] = some (hexValue [c, d]) := stoi_hex (by simp [hc, hd]) hlt
    refine ⟨UInt8.ofNat (hexValue [c, d]) :: bytes, ?_, fun heven => ?_⟩
    · rw [hexBytes, hpair, hbytes]
      rfl
    · refine .pair c d text _ bytes (UInt8.toNat_ofNat_of_lt' hlt) (hdenotes ?_)
      rw [List.length_cons, List.length_cons, Nat.add_assoc, Nat.even_add] at heven
      exact heven.mpr even_two

/-! ## Requests -/

section Requests
variable {jsonPayload digits : Text} {locals : Uninitialised} {received : ℕ} {request : DiagnosticRequest}

/-- One of the reasons for which `parseRequest` returns false. -/
inductive Unparsed (jsonPayload : Text) : Prop
  | noRequestId (hnone : requestIdRegex.search jsonPayload = none)
  | noEcuId (hnone : ecuIdRegex.search jsonPayload = none)
  | outOfRange (digits : Text) (hsearch : serviceIdRegex.search jsonPayload = some (bytesOf "0x" ++ digits))
      (hlarge : 2 ^ 31 ≤ hexValue digits)

theorem parseServiceId_some (hsearch : serviceIdRegex.search jsonPayload = some (bytesOf "0x" ++ digits))
    (hlt : hexValue digits < 2 ^ 31) (serviceId : UInt8) :
    parseServiceId jsonPayload serviceId = some (UInt8.ofNat (hexValue digits)) := by
  rw [parseServiceId, hsearch]
  simp only [stoi_lead, if_pos hlt, Option.map_some]

theorem parseServiceId_eq_none_iff {serviceId : UInt8} : parseServiceId jsonPayload serviceId = none ↔
    ∃ digits, serviceIdRegex.search jsonPayload = some (bytesOf "0x" ++ digits) ∧
      2 ^ 31 ≤ hexValue digits := by
  cases hsearch : serviceIdRegex.search jsonPayload with
  | none => simp [parseServiceId, hsearch]
  | some v =>
    obtain ⟨digits, rfl⟩ := search_serviceId hsearch
    rw [parseServiceId, hsearch]
    simp [stoi_lead]

theorem parseData_isSome (data : List UInt8) : (parseData jsonPayload data).isSome := by
  cases hsearch : dataRegex.search jsonPayload with
  | none => rw [parseData, hsearch]; rfl
  | some v =>
    obtain ⟨bytes, hbytes, -⟩ := hexBytes_spec (search_data hsearch)
    rw [parseData, hsearch]
    simp only [hbytes, Option.map_some, Option.isSome_some]

theorem receivedRequest_eq_some_iff : receivedRequest jsonPayload locals received = some request ↔
    ∃ requestId ecuId serviceId data, requestIdRegex.search jsonPayload = some requestId ∧
      ecuIdRegex.search jsonPayload = some ecuId ∧
      parseServiceId jsonPayload locals.serviceId = some serviceId ∧ parseData jsonPayload [] = some data ∧
      request = { requestId, ecuId, serviceId, data, timestamp := received } := by
  simp only [receivedRequest, parseRequest]
  constructor
  · intro hreceived
    obtain ⟨request', hparse, rfl⟩ := Option.map_eq_some_iff.mp hreceived
    obtain ⟨serviceId, hservice, hparse⟩ := Option.bind_eq_some_iff.mp hparse
    obtain ⟨data, hdata, hparse⟩ := Option.bind_eq_some_iff.mp hparse
    cases hrequestId : requestIdRegex.search jsonPayload with
    | none => simp [hrequestId] at hparse
    | some requestId =>
      cases hecuId : ecuIdRegex.search jsonPayload with
      | none => simp [hecuId] at hparse
      | some ecuId =>
        have hrequestId_ne := FieldRegex.ne_nil_of_search Nat.one_pos hrequestId
        have hecuId_ne := FieldRegex.ne_nil_of_search Nat.one_pos hecuId
        simp only [hrequestId, hecuId, Option.getD_some, hrequestId_ne, hecuId_ne, ne_eq,
          not_false_eq_true, and_self, if_true, Option.some.injEq] at hparse
        obtain rfl := hparse
        exact ⟨requestId, ecuId, serviceId, data, rfl, rfl, hservice, hdata, rfl⟩
  · rintro ⟨requestId, ecuId, serviceId, data, hrequestId, hecuId, hservice, hdata, rfl⟩
    have hrequestId_ne := FieldRegex.ne_nil_of_search Nat.one_pos hrequestId
    have hecuId_ne := FieldRegex.ne_nil_of_search Nat.one_pos hecuId
    simp [hrequestId, hecuId, hservice, hdata, hrequestId_ne, hecuId_ne]

/-- A payload is parsed unless there is a reason against it. -/
theorem receivedRequest_eq_none_iff :
    receivedRequest jsonPayload locals received = none ↔ Unparsed jsonPayload := by
  constructor
  · intro hnone
    cases hrequestId : requestIdRegex.search jsonPayload with
    | none => exact .noRequestId hrequestId
    | some requestId =>
      cases hecuId : ecuIdRegex.search jsonPayload with
      | none => exact .noEcuId hecuId
      | some ecuId =>
        cases hservice : parseServiceId jsonPayload locals.serviceId with
        | none =>
          obtain ⟨digits, hsearch, hlarge⟩ := parseServiceId_eq_none_iff.mp hservice
          exact .outOfRange digits hsearch hlarge
        | some serviceId =>
          have hread : (parseData jsonPayload []).isSome := parseData_isSome []
          obtain ⟨data, hdata⟩ := Option.isSome_iff_exists.mp hread
          have hsome : receivedRequest jsonPayload locals received = some _ :=
            receivedRequest_eq_some_iff.mpr
              ⟨requestId, ecuId, serviceId, data, hrequestId, hecuId, hservice, hdata, rfl⟩
          exact nomatch hnone.symm.trans hsome
  · intro hunparsed
    refine Option.eq_none_iff_forall_ne_some.mpr fun request hrequest => ?_
    obtain ⟨requestId, ecuId, serviceId, data, hrequestId, hecuId, hservice, -⟩ :=
      receivedRequest_eq_some_iff.mp hrequest
    cases hunparsed with
    | noRequestId hnone => exact nomatch hnone.symm.trans hrequestId
    | noEcuId hnone => exact nomatch hnone.symm.trans hecuId
    | outOfRange digits hsearch hlarge =>
      have hnone : parseServiceId jsonPayload locals.serviceId = none :=
        parseServiceId_eq_none_iff.mpr ⟨digits, hsearch, hlarge⟩
      exact nomatch hnone.symm.trans hservice

end Requests

/-! ## Parsed faithfully or refused -/

/-- The request is what the fields of the payload say. -/
structure Faithful (jsonPayload : Text) (request : DiagnosticRequest) : Prop where
  serviceId : ∃ digits, serviceIdRegex.search jsonPayload = some (bytesOf "0x" ++ digits) ∧
    hexValue digits < 256 ∧ request.serviceId.toNat = hexValue digits
  data : HasDataField jsonPayload →
    ∃ digits, HasDigits jsonPayload digits ∧ Even digits.length ∧ Denotes digits request.data

/-- The payload says no service or no bytes. -/
inductive Undecodable (jsonPayload : Text) : Prop
  | missing (hnone : serviceIdRegex.search jsonPayload = none)
  | larger (digits : Text) (hsearch : serviceIdRegex.search jsonPayload = some (bytesOf "0x" ++ digits))
      (hlarge : 256 ≤ hexValue digits)
  | odd (digits : Text) (hfield : HasDigits jsonPayload digits) (hodd : Odd digits.length)

/-- What is parsed is faithful, and for what cannot be decoded nothing is sent to an ECU. -/
structure ParsedOrRefused (jsonPayload : Text) (locals : Uninitialised) : Prop where
  parsed : ∀ received request, receivedRequest jsonPayload locals received = some request →
    Faithful jsonPayload request
  refused : Undecodable jsonPayload → ∀ (h : RemoteDiagnosticsHandler) (received responded : ℕ),
    receivedRequest jsonPayload locals received = none ∧
      ∀ request routing doipMessage, RemoteEvent.sentToECU request routing doipMessage ∉
        (h.handleRequest jsonPayload locals received responded).2.2

/-- A service that fits a byte, and no data or digits in pairs. -/
structure Decodable (jsonPayload : Text) : Prop where
  serviceId : ∃ digits, serviceIdRegex.search jsonPayload = some (bytesOf "0x" ++ digits) ∧
    hexValue digits < 256
  data : HasDataField jsonPayload → ∃ digits, HasDigits jsonPayload digits ∧ Even digits.length

section
variable {jsonPayload : Text} {locals : Uninitialised} {received : ℕ} {request : DiagnosticRequest}

theorem HasDigits.hasDataField {digits : Text} (h : HasDigits jsonPayload digits) :
    HasDataField jsonPayload := by
  obtain ⟨rest, hbehind, -⟩ := h
  rw [HasDataField, hbehind]
  rfl

theorem Faithful.decodable (h : Faithful jsonPayload request) : Decodable jsonPayload := by
  obtain ⟨digits, hsearch, hlt, -⟩ := h.serviceId
  refine ⟨⟨digits, hsearch, hlt⟩, fun hfield => ?_⟩
  obtain ⟨digits, hdigits, heven, -⟩ := h.data hfield
  exact ⟨digits, hdigits, heven⟩

theorem Decodable.not_undecodable (h : Decodable jsonPayload) : ¬ Undecodable jsonPayload := by
  obtain ⟨⟨digits, hsearch, hlt⟩, hdata⟩ := h
  intro hundecodable
  cases hundecodable with
  | missing hnone => exact nomatch hnone.symm.trans hsearch
  | larger digits' hsearch' hlarge =>
    obtain rfl := List.append_cancel_left (Option.some.inj (hsearch.symm.trans hsearch'))
    exact absurd hlt hlarge.not_gt
  | odd digits' hfield hodd =>
    obtain ⟨digits, hdigits, heven⟩ := hdata hfield.hasDataField
    rw [hdigits.unique hfield] at heven
    exact Nat.not_even_iff_odd.mpr hodd heven

theorem Decodable.faithful (h : Decodable jsonPayload)
    (hreceived : receivedRequest jsonPayload locals received = some request) :
    Faithful jsonPayload request := by
  obtain ⟨⟨digits, hsearch, hlt⟩, hpairs⟩ := h
  obtain ⟨requestId, ecuId, serviceId, data, -, -, hservice, hdata, rfl⟩ :=
    receivedRequest_eq_some_iff.mp hreceived
  rw [parseServiceId_some hsearch (hlt.trans (by decide))] at hservice
  obtain rfl := Option.some.inj hservice
  refine ⟨⟨digits, hsearch, hlt, UInt8.toNat_ofNat_of_lt' hlt⟩, fun hfield => ?_⟩
  obtain ⟨dataStr, hdigits, heven⟩ := hpairs hfield
  obtain ⟨bytes, hbytes, hdenotes⟩ := hexBytes_spec (search_data hdigits.search)
  rw [parseData, hdigits.search] at hdata
  simp only [hbytes, Option.map_some, List.nil_append, Option.some.injEq] at hdata
  obtain rfl := hdata
  exact ⟨dataStr, hdigits, heven, hdenotes heven⟩

/-- A payload that is not parsed reaches no ECU. -/
theorem handleRequest_unparsed (hunparsed : Unparsed jsonPayload) (h : RemoteDiagnosticsHandler)
    (received responded : ℕ) : h.handleRequest jsonPayload locals received responded = (h, false, []) := by
  rw [RemoteDiagnosticsHandler.handleRequest, receivedRequest_eq_none_iff.mpr hunparsed]

/-- **Faithful or refused.** Exactly the payloads with a service below 256 and no data, or digits in pairs, are
read faithfully; of the others those are refused that `parseRequest` returns false for. -/
theorem remoteRequest_parsedOrRefused_iff (jsonPayload : Text) (locals : Uninitialised) :
    ParsedOrRefused jsonPayload locals ↔ Unparsed jsonPayload ∨ Decodable jsonPayload := by
  constructor
  · intro h
    cases hreceived : receivedRequest jsonPayload locals 0 with
    | none => exact Or.inl (receivedRequest_eq_none_iff.mp hreceived)
    | some request => exact Or.inr (h.parsed 0 request hreceived).decodable
  · rintro (hunparsed | hdecodable)
    · have hnone (received : ℕ) : receivedRequest jsonPayload locals received = none :=
        receivedRequest_eq_none_iff.mpr hunparsed
      refine ⟨fun received request hreceived => ?_, fun _ h received responded => ⟨hnone received, ?_⟩⟩
      · exact nomatch (hnone received).symm.trans hreceived
      · rw [handleRequest_unparsed hunparsed]
        exact fun _ _ _ => List.not_mem_nil
    · exact ⟨fun _ _ hreceived => hdecodable.faithful hreceived,
        fun hundecodable => absurd hundecodable hdecodable.not_undecodable⟩

end

/-- No service at all, where the local holds `0x11`. -/
def withoutService : Text := bytesOf "\x7b\"request_id\": \"diag-1\", \"ecu_id\": \"ECU_001\"\x7d"

/-- The service `0x122`, which becomes `0x22`. -/
def wideService : Text :=
  bytesOf "\x7b\"request_id\": \"diag-1\", \"ecu_id\": \"ECU_001\", " ++
    bytesOf "\"service_id\": \"0x122\", \"data\": \"F190\"\x7d"

/-- The data `F19`, which become the bytes `F1 09`. -/
def oddData : Text :=
  bytesOf "\x7b\"request_id\": \"diag-1\", \"ecu_id\": \"ECU_001\", " ++
    bytesOf "\"service_id\": \"0x22\", \"data\": \"F19\"\x7d"

/-- The data `0xF190`, of which nothing is read. -/
def prefixedData : Text :=
  bytesOf "\x7b\"request_id\": \"diag-1\", \"ecu_id\": \"ECU_001\", " ++
    bytesOf "\"service_id\": \"0x22\", \"data\": \"0xF190\"\x7d"

theorem undecodable_parsed : ¬ ParsedOrRefused withoutService ⟨0x11, 0⟩ ∧
    ¬ ParsedOrRefused wideService ⟨0, 0⟩ ∧ ¬ ParsedOrRefused oddData ⟨0, 0⟩ ∧
    ¬ ParsedOrRefused prefixedData ⟨0, 0⟩ := by
  refine ⟨fun h => ?_, fun h => ?_, fun h => ?_, fun h => ?_⟩
  · have hrequest : receivedRequest withoutService ⟨0x11, 0⟩ 7 =
        some ⟨bytesOf "diag-1", bytesOf "ECU_001", 0x11, [], 7, 5000, 0, 3⟩ := by decide +kernel
    obtain ⟨digits, hsearch, -⟩ := (h.parsed 7 _ hrequest).serviceId
    have hnone : serviceIdRegex.search withoutService = none := by decide +kernel
    exact nomatch hnone.symm.trans hsearch
  · have hrequest : receivedRequest wideService ⟨0, 0⟩ 7 =
        some ⟨bytesOf "diag-1", bytesOf "ECU_001", 0x22, [0xF1, 0x90], 7, 5000, 0, 3⟩ := by decide +kernel
    have hlarger : Undecodable wideService := .larger (bytesOf "122") (by decide +kernel) (by decide +kernel)
    exact nomatch (h.refused hlarger .constructed 7 7).1.symm.trans hrequest
  · have hrequest : receivedRequest oddData ⟨0, 0⟩ 7 =
        some ⟨bytesOf "diag-1", bytesOf "ECU_001", 0x22, [0xF1, 0x09], 7, 5000, 0, 3⟩ := by decide +kernel
    have hbehind : dataRegex.behind oddData = some (0x20 :: 0x22 :: (bytesOf "F19" ++ [0x22, 0x7D])) := by
      decide +kernel
    have hodd : Undecodable oddData :=
      .odd (bytesOf "F19") ⟨_, hbehind, ⟨[0x7D], by decide +kernel⟩, by decide +kernel⟩ (by decide +kernel)
    exact nomatch (h.refused hodd .constructed 7 7).1.symm.trans hrequest
  · have hrequest : receivedRequest prefixedData ⟨0, 0⟩ 7 =
        some ⟨bytesOf "diag-1", bytesOf "ECU_001", 0x22, [], 7, 5000, 0, 3⟩ := by decide +kernel
    have hfield : HasDataField prefixedData := by
      unfold HasDataField
      decide +kernel
    obtain ⟨digits, hdigits, -⟩ := (h.parsed 7 _ hrequest).data hfield
    have hnone : dataRegex.search prefixedData = none := by decide +kernel
    exact nomatch hnone.symm.trans hdigits.search

end Mcus.Vmg
