import Mcus.Uds.Effects

/-! # The answers of the handler

Both response builders compare the capacity with what they are about to write before they write, and
a service that reports success has built a positive response for its own identifier. So whatever the
handler answers is a positive response of the service asked or three bytes that refuse it, within
the capacity.
-/

namespace Mcus.Uds
open ByteOrder
set_option autoImplicit false

/-- The identifiers of the service table. -/
def serviceIds : List UInt8 :=
  [Sid.diagnosticSessionControl, Sid.ecuReset, Sid.securityAccess, Sid.testerPresent,
    Sid.readDataByIdentifier, Sid.writeDataByIdentifier, Sid.requestDownload, Sid.transferData,
    Sid.requestTransferExit]

/-- A positive response of one of the nine services, or a refusal with a code. -/
def WellFormed (sid : UInt8) (response : List UInt8) : Prop :=
  (sid ∈ serviceIds ∧ ∃ data, response = (sid + positiveResponseOffset) :: data) ∨
    ∃ nrc, nrc ≠ 0 ∧ response = [negativeResponse, sid, nrc]

/-- The response buffer behind the call: a builder writes from its start, and only if it succeeds. -/
def Reply.buffer (reply : Reply) (buf : List UInt8) : List UInt8 :=
  match reply.response with
  | none => buf
  | some response => response ++ buf.drop response.length

/-- What `uds_handler_process` promises about its answer to a request for `sid`. -/
structure Answered (sid : UInt8) (respCap : ℕ) (reply : Reply) : Prop where
  wellFormed : ∀ response, reply.response = some response → WellFormed sid response
  fits : ∀ response, reply.response = some response → response.length ≤ respCap
  untouched : ∀ (buf : List UInt8) i, respCap ≤ i → (reply.buffer buf)[i]? = buf[i]?
  unknown : sid ∉ serviceIds → ∀ response, reply.response = some response →
    response = [negativeResponse, sid, Nrc.serviceNotSupported]
  answers : 3 ≤ respCap → reply.response.isSome = true

/-! ## The services -/

/-- A positive response for `sid` within the capacity, or a response code. -/
def Sound (sid : UInt8) (respCap : ℕ) : Except UInt8 (List UInt8) → Prop
  | .ok response => (∃ data, response = (sid + positiveResponseOffset) :: data) ∧ response.length ≤ respCap
  | .error nrc => nrc ≠ 0

section Services
variable (calculateKey : UInt32 → UInt32) (h : UDSHandler) (r : Request)

theorem sound_positiveOrReject (sid : UInt8) (data : List UInt8) (respCap : ℕ) :
    Sound sid respCap (positiveOrReject sid data respCap) := by
  unfold positiveOrReject udsBuildPositiveResponse
  by_cases hcap : respCap < 1 + data.length
  · rw [if_pos hcap]
    exact (by decide : Nrc.generalReject ≠ 0)
  · rw [if_neg hcap]
    refine ⟨⟨data, rfl⟩, ?_⟩
    rw [List.length_cons]
    omega

theorem sound_refuse {sid nrc : UInt8} (hnrc : nrc ≠ 0) : Sound sid r.respCap (refuse h nrc).ret := hnrc

theorem sound_sessionControl :
    Sound Sid.diagnosticSessionControl r.respCap (udsServiceDiagnosticSessionControl h r).ret := by
  unfold udsServiceDiagnosticSessionControl
  dsimp only
  split
  · exact sound_refuse h r (by decide)
  split
  · exact sound_positiveOrReject _ _ _
  split
  · exact sound_positiveOrReject _ _ _
  split
  · exact sound_positiveOrReject _ _ _
  · exact sound_refuse h r (by decide)

theorem sound_ecuReset : Sound Sid.ecuReset r.respCap (udsServiceEcuReset h r).ret := by
  have hpositive := sound_positiveOrReject Sid.ecuReset [r.byte 1] r.respCap
  unfold positiveOrReject at hpositive
  unfold udsServiceEcuReset
  dsimp only
  split
  · exact sound_refuse h r (by decide)
  split
  · exact sound_refuse h r (by decide)
  cases hbuilt : udsBuildPositiveResponse Sid.ecuReset [r.byte 1] r.respCap with
  | some response =>
    rw [hbuilt] at hpositive
    exact hpositive
  | none => exact sound_refuse h r (by decide)

theorem sound_securityAccessBody (calls : List PlatformCall) :
    Sound Sid.securityAccess r.respCap (securityAccessBody calculateKey h r calls).ret := by
  unfold securityAccessBody requestSeed sendKey
  dsimp only
  split
  · split <;> exact sound_positiveOrReject _ _ _
  split
  · split
    · exact (by decide : Nrc.incorrectMessageLength ≠ 0)
    split
    · exact sound_positiveOrReject _ _ _
    split
    · exact (by decide : Nrc.exceedNumberOfAttempts ≠ 0)
    · exact (by decide : Nrc.invalidKey ≠ 0)
  · exact (by decide : Nrc.subFunctionNotSupported ≠ 0)

theorem sound_securityAccess :
    Sound Sid.securityAccess r.respCap (udsServiceSecurityAccess calculateKey h r).ret := by
  unfold udsServiceSecurityAccess
  dsimp only
  split
  · exact sound_refuse h r (by decide)
  split
  · split
    · exact (by decide : Nrc.requiredTimeDelayNotExpired ≠ 0)
    · exact sound_securityAccessBody calculateKey _ r _
  · exact sound_securityAccessBody calculateKey h r _

theorem sound_testerPresent : Sound Sid.testerPresent r.respCap (udsServiceTesterPresent h r).ret := by
  unfold udsServiceTesterPresent
  split
  · exact sound_refuse h r (by decide)
  · exact sound_positiveOrReject _ _ _

theorem sound_readDataById :
    Sound Sid.readDataByIdentifier r.respCap (udsServiceReadDataById h r).ret := by
  unfold udsServiceReadDataById
  dsimp only
  split
  · exact sound_refuse h r (by decide)
  split
  · exact sound_positiveOrReject _ _ _
  · exact sound_refuse h r (by decide)

theorem sound_writeDataById :
    Sound Sid.writeDataByIdentifier r.respCap (udsServiceWriteDataById h r).ret := by
  unfold udsServiceWriteDataById
  dsimp only
  split
  · exact sound_refuse h r (by decide)
  split
  · exact sound_refuse h r (by decide)
  · exact sound_positiveOrReject _ _ _

theorem sound_requestDownload : Sound Sid.requestDownload r.respCap (udsServiceRequestDownload h r).ret := by
  unfold udsServiceRequestDownload
  dsimp only
  split
  · exact sound_refuse h r (by decide)
  split
  · exact sound_refuse h r (by decide)
  split
  · exact sound_refuse h r (by decide)
  split
  · exact sound_refuse h r (by decide)
  · exact sound_positiveOrReject _ _ _

theorem sound_transferData : Sound Sid.transferData r.respCap (udsServiceTransferData h r).ret := by
  unfold udsServiceTransferData
  dsimp only
  split
  · exact sound_refuse h r (by decide)
  split
  · exact sound_refuse h r (by decide)
  split
  · exact sound_refuse h r (by decide)
  split
  · exact (by decide : Nrc.generalProgrammingFailure ≠ 0)
  · exact sound_positiveOrReject _ _ _

theorem sound_requestTransferExit :
    Sound Sid.requestTransferExit r.respCap (udsServiceRequestTransferExit h r).ret := by
  unfold udsServiceRequestTransferExit
  split
  · exact sound_refuse h r (by decide)
  split
  · exact sound_refuse h r (by decide)
  · exact sound_positiveOrReject _ _ _

theorem serviceTable_sids : (serviceTable calculateKey).map (·.sid) = serviceIds := rfl

variable {calculateKey} in
theorem sound_entry {entry : UDSServiceEntry} (he : entry ∈ serviceTable calculateKey) :
    Sound entry.sid r.respCap (entry.handler h r).ret := by
  simp only [serviceTable, List.mem_cons, List.not_mem_nil, or_false] at he
  rcases he with rfl | rfl | rfl | rfl | rfl | rfl | rfl | rfl | rfl
  · exact sound_sessionControl h r
  · exact sound_ecuReset h r
  · exact sound_securityAccess calculateKey h r
  · exact sound_testerPresent h r
  · exact sound_readDataById h r
  · exact sound_writeDataById h r
  · exact sound_requestDownload h r
  · exact sound_transferData h r
  · exact sound_requestTransferExit h r

end Services

/-! ## The answer -/

section Answer
variable {sid : UInt8} {respCap : ℕ} {reply : Reply}

theorem untouched_of_fits (hfits : ∀ response, reply.response = some response → response.length ≤ respCap)
    (buf : List UInt8) {i : ℕ} (hi : respCap ≤ i) : (reply.buffer buf)[i]? = buf[i]? := by
  unfold Reply.buffer
  cases hresponse : reply.response with
  | none => rfl
  | some response =>
    have hlen := hfits response hresponse
    rw [List.getElem?_append_right (hlen.trans hi), List.getElem?_drop]
    congr 1
    omega

theorem negative_cases {nrc : UInt8} {response : List UInt8}
    (h : udsBuildNegativeResponse sid nrc respCap = some response) :
    response = [negativeResponse, sid, nrc] ∧ response.length ≤ respCap := by
  unfold udsBuildNegativeResponse at h
  split at h
  case isTrue => cases h
  case isFalse hcap =>
    obtain rfl := Option.some.inj h
    exact ⟨rfl, Nat.le_of_not_lt hcap⟩

theorem negative_isSome {nrc : UInt8} (hcap : 3 ≤ respCap) :
    (udsBuildNegativeResponse sid nrc respCap).isSome = true := by
  rw [udsBuildNegativeResponse, if_neg (Nat.not_lt.mpr hcap)]
  rfl

theorem answered_unknown (calls : List PlatformCall) :
    Answered sid respCap ⟨udsBuildNegativeResponse sid Nrc.serviceNotSupported respCap, calls⟩ where
  wellFormed _ h := Or.inr ⟨Nrc.serviceNotSupported, by decide, (negative_cases h).1⟩
  fits _ h := (negative_cases h).2
  untouched buf _ hi := untouched_of_fits (fun _ h => (negative_cases h).2) buf hi
  unknown _ _ h := (negative_cases h).1
  answers hcap := negative_isSome hcap

theorem answered_toReply {res : ServiceResult} (hsid : sid ∈ serviceIds) (hsound : Sound sid respCap res.ret) :
    Answered sid respCap (res.toReply sid respCap) := by
  have hcases : ∀ response, (res.toReply sid respCap).response = some response →
      WellFormed sid response ∧ response.length ≤ respCap := by
    intro response h
    unfold ServiceResult.toReply at h
    cases hret : res.ret with
    | ok built =>
      rw [hret] at h hsound
      obtain rfl := Option.some.inj h
      exact ⟨Or.inl ⟨hsid, hsound.1⟩, hsound.2⟩
    | error nrc =>
      rw [hret] at h hsound
      obtain ⟨rfl, hfits⟩ := negative_cases h
      exact ⟨Or.inr ⟨nrc, hsound, rfl⟩, hfits⟩
  refine ⟨fun response h => (hcases response h).1, fun response h => (hcases response h).2,
    fun buf i hi => untouched_of_fits (fun response h => (hcases response h).2) buf hi,
    fun hunknown => absurd hsid hunknown, ?_⟩
  intro hcap
  unfold ServiceResult.toReply
  cases res.ret with
  | ok built => rfl
  | error nrc => exact negative_isSome hcap

end Answer

/-- **Answers.** Whatever the handler's record, the request and the capacity, the answer is well
formed and fits; an unknown identifier is refused as such, and three bytes of room are enough for
an answer. -/
theorem udsHandlerProcess_answered (calculateKey : UInt32 → UInt32) (h : UDSHandler) (sid : UInt8)
    (rest : List UInt8) (respCap : ℕ) (platform : Platform) :
    Answered sid respCap (udsHandlerProcess calculateKey h ⟨sid :: rest, respCap, platform⟩).2 := by
  unfold udsHandlerProcess
  dsimp only
  cases hfound : (serviceTable calculateKey).find? (·.sid == sid) with
  | none => exact answered_unknown []
  | some entry =>
    have hentry : entry.sid = sid := by simpa using List.find?_some hfound
    have hmem := List.mem_of_find?_eq_some hfound
    have hsid : sid ∈ serviceIds := by
      rw [← serviceTable_sids calculateKey, ← hentry]
      exact List.mem_map_of_mem hmem
    have hsound := sound_entry h ⟨sid :: rest, respCap, platform⟩ hmem
    rw [hentry] at hsound
    exact answered_toReply hsid hsound

end Mcus.Uds
