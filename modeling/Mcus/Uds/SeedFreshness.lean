import Mcus.Uds.Security

/-! # Which seed opens the lock

`uds_service_security_access` compares a key with that of the stored seed, whatever became of that
seed before: it is there from `uds_handler_init` on, it stays behind an accepted key, a wrong key
and a session change, and it is overwritten before its response is known to fit. A key is accepted
for a freshly issued seed exactly as long as nobody sends the key of a seed that is not pending.
-/

namespace Mcus.Uds
open ByteOrder Runs
set_option autoImplicit false

/-- If the step opens the lock, it is a SendKey whose key belongs to a seed that was issued, in a
positive response, after the last key comparison. -/
def FreshUnlock (calculateKey : UInt32 → UInt32) (past : List UDSStep) (e : UDSStep) : Prop :=
  e.pre.security = .locked → e.post.security = .unlocked →
    e.input.Asks Sid.securityAccess ∧ e.input.byte 1 = securityLevel2 ∧
      ∃ d ∈ sinceLast comparesKey past, ∃ seed, issuedSeed d = some seed ∧
        receivedKey e.input = calculateKey seed

/-- A seed was generated after the last key comparison, and the last one generated was issued. -/
def SeedPending (past : List UDSStep) : Prop :=
  ∃ d, lastWhere generatesSeed (sinceLast comparesKey past) = some d ∧ (issuedSeed d).isSome = true

/-- A key that is compared while the lock is closed and fits the stored seed finds it pending. -/
def KeyMeetsSeed (calculateKey : UInt32 → UInt32) (past : List UDSStep) (h : UDSHandler) (r : Request) :
    Prop :=
  KeyChecked h r → h.security = .locked → receivedKey r = calculateKey h.seed → SeedPending past

variable {calculateKey : UInt32 → UInt32} {h : UDSHandler} {r : Request} {past : List UDSStep}

theorem issuedSeed_generated {d : UDSStep} {seed : UInt32} (hd : issuedSeed d = some seed) :
    generatedSeed d = some seed := (Option.filter_eq_some_iff.mp hd).1

/-! ## The stored seed -/

/-- The stored seed is the last one generated, unless a key was compared since; and a generated seed
whose response fits is issued. -/
structure SeedLedger (past : List UDSStep) (h : UDSHandler) : Prop where
  stored : ∀ d, lastWhere generatesSeed (sinceLast comparesKey past) = some d →
    generatedSeed d = some h.seed
  issued : ∀ d ∈ past, 6 ≤ d.input.respCap → generatesSeed d = true → (issuedSeed d).isSome = true

theorem seedLedger_init : SeedLedger [] udsHandlerInit where
  stored d hd := by cases hd
  issued d hd := absurd hd List.not_mem_nil

theorem stored_of_generated {e : UDSStep} {seed : UInt32}
    (he : generatedSeed e = some seed ∧ comparesKey e = false) :
    ∀ d, lastWhere generatesSeed (sinceLast comparesKey (past ++ [e])) = some d →
      generatedSeed d = some seed := by
  obtain ⟨hgen, hcmp⟩ := he
  have hmark : generatesSeed e = true := Option.isSome_iff_exists.mpr ⟨_, hgen⟩
  intro d hd
  rw [sinceLast_concat_neg hcmp, lastWhere_concat_pos hmark] at hd
  obtain rfl := Option.some.inj hd
  exact hgen

theorem stored_of_compared {e : UDSStep} {seed : UInt32} (hcmp : comparesKey e = true) :
    ∀ d, lastWhere generatesSeed (sinceLast comparesKey (past ++ [e])) = some d →
      generatedSeed d = some seed := by
  intro d hd
  rw [sinceLast_concat_pos hcmp] at hd
  cases hd

theorem issued_of_none {e : UDSStep} (hinv : SeedLedger past h) (hgen : generatedSeed e = none) :
    ∀ d ∈ past ++ [e], 6 ≤ d.input.respCap → generatesSeed d = true → (issuedSeed d).isSome = true := by
  intro d hd hcap hmark
  rcases List.mem_append.mp hd with hd | hd
  · exact hinv.issued d hd hcap hmark
  · rw [List.mem_singleton.mp hd, generatesSeed, hgen] at hmark
    cases hmark

theorem seedLedger_step (calculateKey : UInt32 → UInt32) (past : List UDSStep) (h : UDSHandler)
    (r : Request) (hinv : SeedLedger past h) :
    SeedLedger (past ++ [(udsMachine calculateKey).stepAt h r])
      ((udsMachine calculateKey).stepAt h r).post := by
  obtain ⟨h', reply, heff, he⟩ := key_step calculateKey h r
  rw [he]
  cases heff with
  | other _ _ hkeeps hseed =>
    have hnone : generatedSeed ⟨h, r, reply, h'⟩ = none := generatedSeed_none hkeeps
    have hmark : generatesSeed ⟨h, r, reply, h'⟩ = false := by rw [generatesSeed, hnone]; rfl
    constructor
    · intro d hd
      rw [sinceLast_concat_neg (comparesKey_none hkeeps), lastWhere_concat_neg hmark] at hd
      rw [hinv.stored d hd]
      exact congrArg some hseed.symm
    · exact issued_of_none hinv hnone
  | seed hasks =>
    constructor
    · exact stored_of_generated (generatedSeed_seed rfl)
    · intro d hd hcap hmark
      rcases List.mem_append.mp hd with hd | hd
      · exact hinv.issued d hd hcap hmark
      · obtain rfl := List.mem_singleton.mp hd
        exact Option.isSome_iff_exists.mpr
          ⟨_, issuedSeed_seed hasks (generatedSeed_seed rfl).1 hcap rfl⟩
  | keyAccepted =>
    constructor
    · exact stored_of_compared (comparesKey_keyAccepted rfl).1
    · exact issued_of_none hinv (comparesKey_keyAccepted rfl).2
  | keyWrong _ _ _ hcalls =>
    constructor
    · exact stored_of_compared (comparesKey_keyWrong hcalls).1
    · exact issued_of_none hinv (comparesKey_keyWrong hcalls).2

theorem seedLedger_run (calculateKey : UInt32 → UInt32) (rs : List Request) :
    SeedLedger (history calculateKey rs) (recordAfter calculateKey rs) :=
  Machine.induction seedLedger_init (seedLedger_step calculateKey) rs

/-! ## Opening the lock -/

theorem unlock_of_key (hlocked : h.security = .locked)
    (hopen : ((udsMachine calculateKey).stepAt h r).post.security = .unlocked) :
    KeyChecked h r ∧ receivedKey r = calculateKey h.seed := by
  obtain ⟨h', reply, heff, he⟩ := key_step calculateKey h r
  rw [he] at hopen
  cases heff with
  | other _ _ _ _ hlock => exact absurd (hlocked.symm.trans (hlock hopen)) (by decide)
  | seed =>
    simp only [clearExpired_security] at hopen
    exact absurd (hlocked.symm.trans hopen) (by decide)
  | keyAccepted hchecked hkey => exact ⟨hchecked, hkey⟩
  | keyWrong =>
    simp only [countFailure, clearExpired_security] at hopen
    exact absurd (hlocked.symm.trans hopen) (by decide)

theorem key_unlocks (hchecked : KeyChecked h r) (hkey : receivedKey r = calculateKey h.seed) :
    ((udsMachine calculateKey).stepAt h r).post.security = .unlocked := by
  rw [Machine.stepAt_post, udsMachine_step, process_key hchecked hkey]

theorem freshUnlock_of_keyMeetsSeed (hinv : SeedLedger past h)
    (hmeets : KeyMeetsSeed calculateKey past h r) :
    FreshUnlock calculateKey past ((udsMachine calculateKey).stepAt h r) := by
  intro hlocked hopen
  obtain ⟨hchecked, hkey⟩ := unlock_of_key hlocked hopen
  obtain ⟨d, hd, hissued⟩ := hmeets hchecked hlocked hkey
  obtain ⟨seed, hseed⟩ := Option.isSome_iff_exists.mp hissued
  have hsame : seed = h.seed :=
    Option.some.inj ((issuedSeed_generated hseed).symm.trans (hinv.stored d hd))
  refine ⟨hchecked.asks, hchecked.subFunction, d, (mem_of_lastWhere hd).1, seed, hseed, ?_⟩
  rw [hsame]
  exact hkey

/-- When every response fits, a fresh unlock finds its seed pending. -/
theorem keyMeetsSeed_of_freshUnlock (hinv : SeedLedger past h)
    (hroom : ∀ d ∈ past, 6 ≤ d.input.respCap)
    (hfresh : FreshUnlock calculateKey past ((udsMachine calculateKey).stepAt h r)) :
    KeyMeetsSeed calculateKey past h r := by
  intro hchecked hlocked hkey
  obtain ⟨-, -, d, hd, seed, hseed, -⟩ := hfresh hlocked (key_unlocks hchecked hkey)
  have hgen : generatesSeed d = true := Option.isSome_iff_exists.mpr ⟨_, issuedSeed_generated hseed⟩
  obtain ⟨last, hlast⟩ := exists_lastWhere hd hgen
  obtain ⟨hmem, hmark⟩ := mem_of_lastWhere hlast
  have hpast := mem_of_mem_sinceLast hmem
  exact ⟨last, hlast, hinv.issued last hpast (hroom last hpast) hmark⟩

/-- A run opens the lock for fresh seeds only as long as every key that fits the stored seed finds
it pending; and where every response has room for a seed, only then. -/
theorem freshUnlock_iff (calculateKey : UInt32 → UInt32) (rs : List Request) :
    ((udsMachine calculateKey).Admits (KeyMeetsSeed calculateKey) udsHandlerInit rs →
      (udsMachine calculateKey).Admits
        (fun past h r => FreshUnlock calculateKey past ((udsMachine calculateKey).stepAt h r))
        udsHandlerInit rs) ∧
    ((∀ r ∈ rs, 6 ≤ r.respCap) →
      (udsMachine calculateKey).Admits
        (fun past h r => FreshUnlock calculateKey past ((udsMachine calculateKey).stepAt h r))
        udsHandlerInit rs →
      (udsMachine calculateKey).Admits (KeyMeetsSeed calculateKey) udsHandlerInit rs) := by
  constructor
  · intro hmeets past r rest hrs
    exact freshUnlock_of_keyMeetsSeed (seedLedger_run calculateKey past) (hmeets past r rest hrs)
  · intro hcap hfresh past r rest hrs
    refine keyMeetsSeed_of_freshUnlock (seedLedger_run calculateKey past) ?_ (hfresh past r rest hrs)
    intro d hd
    refine hcap _ ?_
    rw [hrs]
    exact List.mem_append_left _ ((udsMachine calculateKey).input_mem_of_mem_trace hd)

/-! ## A key without a seed -/

/-- The first request after `uds_handler_init`: the key of the initial seed. -/
theorem initialSeed_unlocks : ¬ FreshUnlock udsPlatformCalculateKey []
    (nextStep udsPlatformCalculateKey []
      (plainRequest (0x27 :: 0x02 :: beBytes32 (udsPlatformCalculateKey 0)))) := by
  intro hfresh
  obtain ⟨-, -, d, hd, -⟩ := hfresh (by decide) (by decide)
  exact absurd hd List.not_mem_nil

end Mcus.Uds
