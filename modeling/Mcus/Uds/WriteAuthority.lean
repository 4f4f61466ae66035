import Mcus.Uds.Transfer

/-! # Who may write the flash

RequestDownload asks for the programming session and for unlocked security; TransferData asks for
neither. A download therefore outlives the session it was opened in: a DiagnosticSessionControl
request that is served during a transfer takes the authority away and leaves `transfer_active` set.
The blocks that come behind it are exactly the writes without authority.
-/

namespace Mcus.Uds
open Runs
set_option autoImplicit false

structure HasAuthority (h : UDSHandler) : Prop where
  session : h.session = .programming
  security : h.security = .unlocked

/-- Whatever the step writes, authority is there and was never lost since the download was
accepted. -/
def WritesUnderAuthority (past : List UDSStep) (e : UDSStep) : Prop :=
  ∀ address data status, PlatformCall.writeFirmware address data status ∈ e.output.calls →
    HasAuthority e.pre ∧ ∀ f ∈ sinceLast acceptsDownload past, HasAuthority f.post

/-- A DiagnosticSessionControl request that is served. -/
def ChangesSession (r : Request) : Prop :=
  r.Asks Sid.diagnosticSessionControl ∧ 2 ≤ r.bytes.length ∧
    r.byte 1 ∈ [sessionDefault, sessionProgramming, sessionExtendedDiagnostic]

/-- A block that passes the checks of TransferData belongs to a download during which no session
change was served. -/
def BlockInSession (past : List UDSStep) (h : UDSHandler) (r : Request) : Prop :=
  BlockChecked h r → ∀ f ∈ sinceLast acceptsDownload past, ¬ ChangesSession f.input

variable {calculateKey : UInt32 → UInt32} {h : UDSHandler} {r : Request}

/-! ## Authority over one step -/

theorem not_hasAuthority_enterSession (h : UDSHandler) (sessionType : UInt8) :
    ¬ HasAuthority (enterSession h sessionType) := by
  intro hauth
  obtain ⟨hsession, hsecurity⟩ := hauth
  unfold enterSession at hsession hsecurity
  split at hsession
  case isTrue => cases hsession
  case isFalse hdefault =>
    split at hsession
    case isTrue hprog =>
      rw [if_neg hdefault, if_pos hprog] at hsecurity
      cases hsecurity
    case isFalse => cases hsession

theorem authority_lost (hchange : ChangesSession r) :
    ¬ HasAuthority ((udsMachine calculateKey).stepAt h r).post := by
  obtain ⟨hasks, hlen, htype⟩ := hchange
  rw [Machine.stepAt_post, udsMachine_step, process_session hasks hlen htype]
  exact not_hasAuthority_enterSession h _

theorem authority_kept (hauth : HasAuthority h) (hkeep : ¬ ChangesSession r) :
    HasAuthority ((udsMachine calculateKey).stepAt h r).post := by
  obtain ⟨hsession, hsecurity⟩ := hauth
  obtain ⟨h', reply, heff, he⟩ := step_effect calculateKey h r
  rw [he]
  cases heff with
  | quiet => exact ⟨hsession, hsecurity⟩
  | session response hasks hlen htype => exact absurd ⟨hasks, hlen, htype⟩ hkeep
  | security => constructor <;> simp [hsession, hsecurity]
  | seed => constructor <;> simp [hsession, hsecurity]
  | keyAccepted => exact ⟨hsession, rfl⟩
  | keyWrong => constructor <;> simp [countFailure, hsession, hsecurity]
  | download => exact ⟨hsession, hsecurity⟩
  | block => exact ⟨hsession, hsecurity⟩
  | blockFailed => exact ⟨hsession, hsecurity⟩
  | exit => exact ⟨hsession, hsecurity⟩

theorem active_before (hpost : ((udsMachine calculateKey).stepAt h r).post.transferActive = true) :
    DownloadChecked h r ∨ h.transferActive = true := by
  obtain ⟨h', reply, heff, he⟩ := transfer_step calculateKey h r
  rw [he] at hpost
  cases heff with
  | other _ _ hsame => exact Or.inr (hsame.active ▸ hpost)
  | download hchecked => exact Or.inl hchecked
  | block hchecked => exact Or.inr hchecked.active
  | blockFailed hchecked => exact Or.inr hchecked.active
  | exit => cases hpost

/-! ## Authority over a run -/

/-- Since the last accepted download, authority was lost at every session change and at no other
step; a transfer under way without a session change still has it. -/
structure AuthorityLedger (past : List UDSStep) (h : UDSHandler) : Prop where
  lost : ∀ f ∈ sinceLast acceptsDownload past, ChangesSession f.input → ¬ HasAuthority f.post
  kept : h.transferActive = true →
    (∀ f ∈ sinceLast acceptsDownload past, ¬ ChangesSession f.input) →
      HasAuthority h ∧ ∀ f ∈ sinceLast acceptsDownload past, HasAuthority f.post

theorem authorityLedger_init : AuthorityLedger [] udsHandlerInit where
  lost _ hf := absurd hf List.not_mem_nil
  kept hactive := nomatch hactive

theorem authorityLedger_step (past : List UDSStep) (h : UDSHandler) (r : Request)
    (hinv : AuthorityLedger past h) :
    AuthorityLedger (past ++ [(udsMachine calculateKey).stepAt h r])
      ((udsMachine calculateKey).stepAt h r).post := by
  by_cases hdownload : DownloadChecked h r
  · -- the ledger starts over
    have hmark : acceptsDownload ((udsMachine calculateKey).stepAt h r) = true :=
      decide_eq_true hdownload
    constructor
    · intro f hf
      rw [sinceLast_concat_pos hmark] at hf
      exact absurd hf List.not_mem_nil
    · intro _ _
      rw [sinceLast_concat_pos hmark, stepAt_of_process _ (process_download hdownload)]
      exact ⟨⟨hdownload.session, hdownload.security⟩, fun f hf => absurd hf List.not_mem_nil⟩
  · have hmark : acceptsDownload ((udsMachine calculateKey).stepAt h r) = false :=
      decide_eq_false hdownload
    constructor
    · intro f hf hchange
      rw [sinceLast_concat_neg hmark] at hf
      rcases List.mem_append.mp hf with hf | hf
      · exact hinv.lost f hf hchange
      · obtain rfl := List.mem_singleton.mp hf
        exact authority_lost hchange
    · intro hactive hnone
      rw [sinceLast_concat_neg hmark] at hnone ⊢
      have hpast := hinv.kept ((active_before hactive).resolve_left hdownload)
        fun f hf => hnone f (List.mem_append_left _ hf)
      have hpost : HasAuthority ((udsMachine calculateKey).stepAt h r).post :=
        authority_kept hpast.1 (hnone _ (List.mem_append_right _ (List.mem_singleton_self _)))
      refine ⟨hpost, ?_⟩
      intro f hf
      rcases List.mem_append.mp hf with hf | hf
      · exact hpast.2 f hf
      · obtain rfl := List.mem_singleton.mp hf
        exact hpost

theorem writesUnderAuthority_iff_of_ledger {past : List UDSStep} (hinv : AuthorityLedger past h) :
    WritesUnderAuthority past ((udsMachine calculateKey).stepAt h r) ↔ BlockInSession past h r := by
  constructor
  · intro hwrites hchecked f hf hchange
    have hmem := blockWrite_mem calculateKey hchecked
    exact hinv.lost f hf hchange ((hwrites _ _ _ hmem).2 f hf)
  · intro hblock address data status hcall
    obtain ⟨hchecked, _⟩ := write_of_block hcall
    exact hinv.kept hchecked.active (hblock hchecked)

/-- The writes of a run all have authority if and only if every accepted block belongs to a
download during which no session change was served. -/
theorem writesUnderAuthority_iff (rs : List Request) :
    (udsMachine calculateKey).Admits
      (fun past h r => WritesUnderAuthority past ((udsMachine calculateKey).stepAt h r)) udsHandlerInit rs ↔
    (udsMachine calculateKey).Admits BlockInSession udsHandlerInit rs :=
  Machine.admits_iff_of_invariant authorityLedger_init
    (fun _ _ _ hinv => writesUnderAuthority_iff_of_ledger hinv)
    (fun past h r hinv _ => authorityLedger_step past h r hinv) rs

/-! ## A write in the default session -/

/-- A download that is opened in the programming session and then carried into the default one. -/
def sessionChangeRequests : List Request :=
  downloadRequests ++ [plainRequest [0x10, 0x01]]

theorem sessionChange_writes : ¬ WritesUnderAuthority
    (history udsPlatformCalculateKey sessionChangeRequests)
    (nextStep udsPlatformCalculateKey sessionChangeRequests (plainRequest [0x36, 0x01, 0xAA])) := by
  intro hwrites
  have hauth := (hwrites 0x10 [0xAA] 0 (by decide)).1
  have hdefault : (recordAfter udsPlatformCalculateKey sessionChangeRequests).session = .default := by
    decide
  exact absurd (hdefault.symm.trans hauth.session) (by decide)

end Mcus.Uds
