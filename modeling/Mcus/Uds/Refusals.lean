import Mcus.Uds.Security
import Mcus.Uds.WriteAuthority

/-! # What a refused request leaves behind

A service updates the record, and TransferData the flash, before it knows that its positive answer
fits the buffer of the caller; if it does not, the answer is negative and the update stays.
ECUReset, the one service that builds its answer first, shows the other order. A refusal changes
nothing exactly when the requests that pass their checks find room for the positive answer, or find
the record as they would leave it.
-/

namespace Mcus.Uds
open ByteOrder Runs
set_option autoImplicit false

/-- `uds_handler_process` returned `-1`, or a negative response. -/
def Reply.Refuses (reply : Reply) : Prop :=
  reply.response = none ∨ ∃ sid nrc, reply.response = some [negativeResponse, sid, nrc]

/-- The step changed nothing, but for the attempt counter of SecurityAccess and its time. -/
structure ChangesNothing (e : UDSStep) : Prop where
  session : e.post.session = e.pre.session
  security : e.post.security = e.pre.security
  seed : e.post.seed = e.pre.seed
  transfer : SameTransfer e.pre e.post
  attempts : ¬ e.input.Asks Sid.securityAccess → SameAttempts e.pre e.post
  unwritten : ∀ w ∈ storedWrites [e], w.2 = []

/-! ## Room for the answer -/

/-- The record is in the session of a DiagnosticSessionControl request, and locked if it locks. -/
structure InSession (h : UDSHandler) (sessionType : UInt8) : Prop where
  default : sessionType = sessionDefault → h.session = .default ∧ h.security = .locked
  programming : sessionType = sessionProgramming → h.session = .programming ∧ h.security = .locked
  extended : sessionType = sessionExtendedDiagnostic → h.session = .extendedDiagnostic

/-- The download that the request declares is open and without a block. -/
structure AtStartOf (h : UDSHandler) (r : Request) : Prop where
  active : h.transferActive = true
  counter : h.blockSequenceCounter = 1
  address : h.transferAddress = (addressField r).foldl shiftIn 0
  size : h.transferSize = (sizeField r).foldl shiftIn 0
  received : h.transferReceived = 0

/-- A RequestSeed that generates a seed. -/
structure SeedChecked (h : UDSHandler) (r : Request) : Prop where
  asks : r.Asks Sid.securityAccess
  subFunction : r.byte 1 = securityLevel1
  passed : LockoutPassed h r
  locked : h.security = .locked

structure ExitChecked (h : UDSHandler) (r : Request) : Prop where
  asks : r.Asks Sid.requestTransferExit
  active : h.transferActive = true
  size : h.transferReceived = h.transferSize

/-- A request that passes the checks of its service has room for the positive answer, or asks for
what is the case already. -/
structure AnswerFits (calculateKey : UInt32 → UInt32) (h : UDSHandler) (r : Request) : Prop where
  session : ChangesSession r → 2 ≤ r.respCap ∨ InSession h (r.byte 1)
  seed : SeedChecked h r → 6 ≤ r.respCap ∨ r.platform.seed = h.seed
  key : KeyChecked h r → receivedKey r = calculateKey h.seed → 2 ≤ r.respCap ∨ h.security = .unlocked
  download : DownloadChecked h r → 4 ≤ r.respCap ∨ AtStartOf h r
  block : BlockChecked h r → r.platform.writeStatus = 0 → 2 ≤ r.respCap
  exit : ExitChecked h r → 1 ≤ r.respCap

variable {calculateKey : UInt32 → UInt32} {h : UDSHandler} {r : Request}

/-! ## Which answers refuse -/

section Answers
variable {sid : UInt8} {data : List UInt8} {respCap : ℕ} {calls : List PlatformCall}

theorem refuses_negative (sid nrc : UInt8) (respCap : ℕ) (calls : List PlatformCall) :
    Reply.Refuses ⟨udsBuildNegativeResponse sid nrc respCap, calls⟩ := by
  unfold Reply.Refuses udsBuildNegativeResponse
  split
  case isTrue => exact Or.inl rfl
  case isFalse => exact Or.inr ⟨sid, nrc, rfl⟩

theorem refuses_of_short (hshort : ¬ 1 + data.length ≤ respCap) :
    Reply.Refuses ⟨carriedOut sid data respCap, calls⟩ := by
  rw [carriedOut_short hshort]
  exact refuses_negative _ _ _ _

theorem short_of_refuses (hsid : sid + positiveResponseOffset ≠ negativeResponse)
    (hrefuses : Reply.Refuses ⟨carriedOut sid data respCap, calls⟩) : ¬ 1 + data.length ≤ respCap := by
  intro hfits
  unfold Reply.Refuses at hrefuses
  dsimp only at hrefuses
  rw [carriedOut_eq hfits] at hrefuses
  rcases hrefuses with hnone | ⟨sid', nrc, hnegative⟩
  · cases hnone
  · exact hsid (List.cons.inj (Option.some.inj hnegative)).1

end Answers

/-! ## What the updates change -/

theorem enterSession_self {sessionType : UInt8} (hin : InSession h sessionType)
    (htype : sessionType ∈ [sessionDefault, sessionProgramming, sessionExtendedDiagnostic]) :
    enterSession h sessionType = h := by
  simp only [List.mem_cons, List.not_mem_nil, or_false] at htype
  obtain ⟨session, security⟩ := h
  rcases htype with h1 | h1 | h1
  · obtain ⟨hsession, hsecurity⟩ := hin.default h1
    subst h1 hsession hsecurity
    rfl
  · obtain ⟨hsession, hsecurity⟩ := hin.programming h1
    subst h1 hsession hsecurity
    rfl
  · have hsession := hin.extended h1
    subst h1 hsession
    rfl

theorem inSession_of_same {sessionType : UInt8}
    (hsession : (enterSession h sessionType).session = h.session)
    (hsecurity : (enterSession h sessionType).security = h.security) : InSession h sessionType := by
  constructor
  · rintro rfl
    exact ⟨hsession.symm, hsecurity.symm⟩
  · rintro rfl
    exact ⟨hsession.symm, hsecurity.symm⟩
  · rintro rfl
    exact hsession.symm

theorem openDownload_self (hstart : AtStartOf h r) : openDownload h r = h := by
  obtain ⟨hactive, hcounter, haddress, hsize, hreceived⟩ := hstart
  unfold openDownload
  rw [← haddress, ← hsize, ← hactive, ← hcounter, ← hreceived]

theorem atStartOf_of_same (hsame : SameTransfer h (openDownload h r)) : AtStartOf h r :=
  ⟨hsame.active.symm, hsame.counter.symm, hsame.address.symm, hsame.size.symm, hsame.received.symm⟩

theorem nextBlockSequenceCounter_ne (c : UInt8) : nextBlockSequenceCounter c ≠ c := by
  unfold nextBlockSequenceCounter
  split
  case isTrue hwrap =>
    intro hone
    rw [← hone] at hwrap
    exact absurd hwrap (by decide)
  case isFalse =>
    intro hsame
    have hsum : c + 1 = c + 0 := hsame.trans (UInt8.add_zero c).symm
    exact absurd (UInt8.add_right_inj c |>.mp hsum) (by decide)

theorem unwritten_of_calls {e : UDSStep} (hcalls : ∀ c ∈ e.output.calls, ¬ IsWrite c) :
    ∀ w ∈ storedWrites [e], w.2 = [] := by
  intro w hw
  rw [storedWrites_none hcalls] at hw
  exact absurd hw List.not_mem_nil

theorem changesNothing_refl {reply : Reply} (hcalls : ∀ c ∈ reply.calls, ¬ IsWrite c) :
    ChangesNothing ⟨h, r, reply, h⟩ :=
  ⟨rfl, rfl, rfl, .refl h, fun _ => .refl h, unwritten_of_calls hcalls⟩

/-- SecurityAccess may count attempts, as long as it leaves seed and lock. -/
theorem changesNothing_attempts {attempts : UInt8} {time : UInt32} {reply : Reply}
    (hasks : r.Asks Sid.securityAccess) (hcalls : ∀ c ∈ reply.calls, ¬ IsWrite c) :
    ChangesNothing ⟨h, r, reply,
      { h with securityAttempts := attempts, securityLockoutTime := time }⟩ :=
  ⟨rfl, rfl, rfl, ⟨rfl, rfl, rfl, rfl, rfl⟩, fun hother => absurd hasks hother, unwritten_of_calls hcalls⟩

theorem not_isWrite_nil {c : PlatformCall} (hc : c ∈ []) : ¬ IsWrite c := absurd hc List.not_mem_nil

/-! ## The step -/

/-- Where a refusal leaves nothing behind, a checked request had room or nothing to change. -/
theorem answerFits_of_changesNothing
    (hquiet : ((udsMachine calculateKey).stepAt h r).output.Refuses →
      ChangesNothing ((udsMachine calculateKey).stepAt h r)) : AnswerFits calculateKey h r := by
  constructor
  · rintro ⟨hasks, hlen, htype⟩
    rw [stepAt_of_process _ (process_sessionControl hasks hlen htype)] at hquiet
    refine or_iff_not_imp_left.mpr fun hshort => ?_
    have hsame := hquiet (refuses_of_short hshort)
    exact inSession_of_same hsame.session hsame.security
  · rintro ⟨hasks, hsub, hpassed, hlocked⟩
    rw [stepAt_of_process _ (process_seed hasks hsub hpassed hlocked)] at hquiet
    refine or_iff_not_imp_left.mpr fun hshort => ?_
    exact (hquiet (refuses_of_short hshort)).seed
  · intro hchecked hkey
    rw [stepAt_of_process _ (process_key hchecked hkey)] at hquiet
    refine or_iff_not_imp_left.mpr fun hshort => ?_
    exact (hquiet (refuses_of_short hshort)).security.symm
  · intro hchecked
    rw [stepAt_of_process _ (process_download hchecked)] at hquiet
    refine or_iff_not_imp_left.mpr fun hshort => ?_
    exact atStartOf_of_same (hquiet (refuses_of_short hshort)).transfer
  · intro hchecked hstatus
    rw [stepAt_of_process _ (process_block hchecked hstatus)] at hquiet
    by_contra hshort
    exact nextBlockSequenceCounter_ne _ (hquiet (refuses_of_short hshort)).transfer.counter
  · rintro ⟨hasks, hactive, hsize⟩
    rw [stepAt_of_process _ (process_exit hasks hactive hsize)] at hquiet
    by_contra hshort
    have hkept : false = h.transferActive := (hquiet (refuses_of_short hshort)).transfer.active
    rw [hactive] at hkept
    cases hkept

theorem changesNothing_of_answerFits (hfits : AnswerFits calculateKey h r)
    (hrefuses : ((udsMachine calculateKey).stepAt h r).output.Refuses) :
    ChangesNothing ((udsMachine calculateKey).stepAt h r) := by
  obtain ⟨h', reply, heff, he⟩ := step_effect calculateKey h r
  cases heff with
  | quiet _ hcalls =>
    rw [he]
    refine changesNothing_refl fun c hc => ?_
    rcases hcalls c hc with ⟨t, rfl⟩ | ⟨t, rfl⟩ <;> exact id
  | session response hasks hlen htype =>
    rw [stepAt_of_process _ (process_sessionControl hasks hlen htype)] at hrefuses ⊢
    have hin := (hfits.session ⟨hasks, hlen, htype⟩).resolve_left
      (short_of_refuses (by decide) hrefuses)
    rw [enterSession_self hin htype]
    exact changesNothing_refl fun _ => not_isWrite_nil
  | security response hasks =>
    rw [he, clearExpired_eq h]
    exact changesNothing_attempts hasks fun _ => not_isWrite_lockoutCalls
  | seed hasks hsub hpassed hlocked =>
    rw [he] at hrefuses ⊢
    have hseed := (hfits.seed ⟨hasks, hsub, hpassed, hlocked⟩).resolve_left
      (short_of_refuses (by decide) hrefuses)
    rw [hseed, clearExpired_eq h]
    refine changesNothing_attempts hasks (not_isWrite_append fun c hc => ?_)
    rw [List.mem_singleton.mp hc]
    exact id
  | keyAccepted hchecked hkey =>
    rw [he] at hrefuses ⊢
    have hunlocked := (hfits.key hchecked hkey).resolve_left
      (short_of_refuses (by decide) hrefuses)
    rw [← hunlocked]
    exact changesNothing_attempts hchecked.asks
      (not_isWrite_calculateKey fun _ hc => absurd hc List.not_mem_nil)
  | keyWrong _ hchecked _ hcalls =>
    obtain ⟨cs, hcs, htick⟩ := hcalls
    rw [he, countFailure, clearExpired_eq h]
    exact changesNothing_attempts hchecked.asks (hcs ▸ not_isWrite_calculateKey htick)
  | download hchecked =>
    rw [he] at hrefuses ⊢
    have hstart := (hfits.download hchecked).resolve_left
      (short_of_refuses (by decide) hrefuses)
    rw [openDownload_self hstart]
    exact changesNothing_refl fun _ => not_isWrite_nil
  | block hchecked hstatus =>
    rw [he] at hrefuses
    exact absurd (hfits.block hchecked hstatus) (short_of_refuses (by decide) hrefuses)
  | blockFailed hchecked hstatus =>
    rw [he]
    refine ⟨rfl, rfl, rfl, .refl h, fun _ => .refl h, fun w hw => ?_⟩
    rw [storedWrites_blockFailed hstatus rfl] at hw
    exact absurd hw List.not_mem_nil
  | exit hasks hactive hsize =>
    rw [he] at hrefuses
    exact absurd (hfits.exit ⟨hasks, hactive, hsize⟩) (short_of_refuses (by decide) hrefuses)

/-- **Refusals.** A refused request changes nothing but the attempts exactly when the positive answer
that its checks lead to would have fitted, or had nothing to change. -/
theorem refused_changesNothing_iff (calculateKey : UInt32 → UInt32) (h : UDSHandler) (r : Request) :
    (((udsMachine calculateKey).stepAt h r).output.Refuses →
      ChangesNothing ((udsMachine calculateKey).stepAt h r)) ↔ AnswerFits calculateKey h r :=
  ⟨answerFits_of_changesNothing, fun hfits hrefuses => changesNothing_of_answerFits hfits hrefuses⟩

/-- The programming session is entered with room for one byte: the call returns `-1`. -/
theorem refused_session_entered :
    ¬ ∀ (calculateKey : UInt32 → UInt32) (h : UDSHandler) (r : Request),
      ((udsMachine calculateKey).stepAt h r).output.Refuses →
        ChangesNothing ((udsMachine calculateKey).stepAt h r) := by
  intro hquiet
  have hsame := hquiet udsPlatformCalculateKey udsHandlerInit ⟨[0x10, 0x02], 1, ⟨0, 0, 0⟩⟩
    (Or.inl (by decide))
  exact absurd hsame.session (by decide)

end Mcus.Uds
