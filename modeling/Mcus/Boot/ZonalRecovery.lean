import Mcus.Boot.Zonal

/-! # The zonal gateway recovers

The startup software never resets, rewrites the CRC on every run and jumps to a Stage 2 bank as long
as one verifies, so a boot fails only in Stage 2. An update that is pending costs one boot; behind
it the active bank has a count of zero, and so has a bank that Stage 2 switches to. It is started
unless it fails verification, and then the other bank is.
-/

namespace Mcus.Boot.Zonal
open Restart
set_option autoImplicit false

variable {env : BootEnv} {cfg : BootConfig} {bank : BootBank}

/-- One boot: it is the last when it starts an application or ends in safe mode. -/
def bootOnce (env : BootEnv) (cfg : BootConfig) : Outcome BootConfig BootRecord :=
  let record := boot env cfg
  if record.app.isSome || record.stage2.isNone then .finish record else .restart record.config

/-! ## One boot -/

theorem bootOnce_restart {cfg' next : BootConfig} (hjump : start env cfg = .jump bank cfg')
    (hmain : stage2Main env cfg' = .restart next) : bootOnce env cfg = .restart next := by
  have hboot : boot env cfg = ⟨some bank, none, next⟩ := by
    simp only [boot, hjump, hmain]
  simp [bootOnce, hboot]

theorem bootOnce_finish {cfg' : BootConfig} {r : BootBank × BootConfig}
    (hjump : start env cfg = .jump bank cfg') (hmain : stage2Main env cfg' = .finish r) :
    bootOnce env cfg = .finish ⟨some bank, some r.1, r.2⟩ := by
  have hboot : boot env cfg = ⟨some bank, some r.1, r.2⟩ := by
    simp only [boot, hjump, hmain]
  simp [bootOnce, hboot]

/-- Stage 2 will start `bank` if it verifies: it is active, no failed boot is counted against it and
no update is pending. -/
structure Ready (bank : BootBank) (cfg : BootConfig) : Prop where
  active : bankOf cfg.appActive = bank
  count : stage2GetAppBootCount cfg bank = 0
  idle : stage2CheckOtaPending cfg = false

theorem ready_switchApp (env : BootEnv) (hidle : stage2CheckOtaPending cfg = false) :
    Ready (bankOf cfg.appActive).other (stage2SwitchApp env cfg) := by
  obtain ⟨hactive, hcount, hota⟩ := switchApp_fresh env cfg
  refine ⟨hactive, hcount, ?_⟩
  rw [stage2CheckOtaPending, hota]
  exact hidle

theorem ready_processOta (env : BootEnv) (cfg : BootConfig) :
    Ready (bankOf cfg.appActive).other (stage2ProcessOta env cfg) := by
  obtain ⟨hactive, hcount, -⟩ := switchApp_fresh env cfg
  refine ⟨hactive, ?_, rfl⟩
  generalize (bankOf cfg.appActive).other = bank at hcount ⊢
  cases bank <;> exact hcount

section Boots
variable (hsome : ∃ bank, stage1VerifyStage2 env (stage2Meta bank) = true)
include hsome

theorem boot_of_pending (hpending : stage2CheckOtaPending cfg = true) :
    ∃ next, bootOnce env cfg = .restart next ∧ Ready (bankOf cfg.appActive).other next := by
  obtain ⟨bank, cfg', hjump, hsame, -⟩ := start_hands_over hsome cfg
  have hpending' : stage2CheckOtaPending cfg' = true := by
    rw [stage2CheckOtaPending, hsame.otaPending]
    exact hpending
  have hmain : stage2Main env cfg' = .restart (stage2ProcessOta env cfg') := by
    simp only [stage2Main, hpending', if_true]
  refine ⟨_, bootOnce_restart hjump hmain, ?_⟩
  rw [← hsame.active]
  exact ready_processOta env cfg'

/-- Without an update the active bank is started, or the other one is ready afterwards. The latter
needs a failed boot before this one, or an image that fails verification. -/
theorem boot_of_idle (hidle : stage2CheckOtaPending cfg = false) (hbank : bankOf cfg.appActive = bank) :
    (stage2VerifyApp env (appMeta bank) = true ∧
      ∃ record, bootOnce env cfg = .finish record ∧ record.app = some bank) ∨
    (stage2GetAppBootCount cfg bank = 0 → stage2VerifyApp env (appMeta bank) = false) ∧
      ∃ next, bootOnce env cfg = .restart next ∧ Ready bank.other next := by
  obtain ⟨stage2, cfg', hjump, hsame, hcrc⟩ := start_hands_over hsome cfg
  have hidle' : stage2CheckOtaPending cfg' = false := by
    rw [stage2CheckOtaPending, hsame.otaPending]
    exact hidle
  have hread : stage2ReadActiveApp env cfg' = bank := by
    rw [stage2ReadActiveApp, if_pos hcrc, hsame.active, hbank]
  by_cases hstarts : stage2GetAppBootCount cfg' bank + 1 < maxBootAttempts ∧
      stage2VerifyApp env (appMeta bank) = true
  · left
    have hmain := stage2_starts hidle' hread hstarts.1 hstarts.2
    exact ⟨hstarts.2, _, bootOnce_finish hjump hmain, rfl⟩
  · right
    refine ⟨?_, _, bootOnce_restart hjump (stage2_falls_back hidle' hread hstarts), ?_⟩
    · intro hcount
      have hbelow : stage2GetAppBootCount cfg' bank + 1 < maxBootAttempts := by
        rw [hsame.count, hcount]
        decide
      simpa using fun hverified => hstarts ⟨hbelow, hverified⟩
    · have hidle'' : stage2CheckOtaPending (stage2IncrementAppBootCount env cfg' bank) = false := by
        rw [stage2CheckOtaPending, otaPending_stage2IncrementAppBootCount]
        exact hidle'
      have hready := ready_switchApp env hidle''
      rwa [appActive_stage2IncrementAppBootCount, hsame.active, hbank] at hready

/-! ## Boots in a row -/

/-- At most `n` boots from `cfg` end, the last one with the start of a verified application. -/
abbrev StartsWithin (env : BootEnv) (n : ℕ) (cfg : BootConfig) : Prop :=
  Finishes (bootOnce env) n cfg fun record =>
    ∃ app, record.app = some app ∧ stage2VerifyApp env (appMeta app) = true

theorem within_one (hready : Ready bank cfg) (hverified : stage2VerifyApp env (appMeta bank) = true) :
    StartsWithin env 1 cfg := by
  rcases boot_of_idle hsome hready.idle hready.active with ⟨-, record, hfinish, happ⟩ | ⟨hfails, -⟩
  · exact finishes_of_finish hfinish ⟨bank, happ, hverified⟩
  · exact absurd ((hfails hready.count).symm.trans hverified) (by simp)

variable (hverified : ∃ bank, stage2VerifyApp env (appMeta bank) = true)
include hverified

theorem within_two (hready : Ready bank cfg) : StartsWithin env 2 cfg := by
  rcases boot_of_idle hsome hready.idle hready.active with
    ⟨hbank, record, hfinish, happ⟩ | ⟨hfails, next, hrestart, hnext⟩
  · exact finishes_of_finish hfinish ⟨bank, happ, hbank⟩
  · obtain ⟨good, hgood⟩ := hverified
    rcases bank.eq_or_other good with rfl | rfl
    · exact absurd ((hfails hready.count).symm.trans hgood) (by simp)
    · exact finishes_of_restart hrestart (within_one hsome hnext hgood)

theorem within_three (cfg : BootConfig) : StartsWithin env 3 cfg := by
  by_cases hpending : stage2CheckOtaPending cfg = true
  · obtain ⟨next, hrestart, hnext⟩ := boot_of_pending hsome hpending
    exact finishes_of_restart hrestart (within_two hsome hverified hnext)
  · rcases boot_of_idle hsome (Bool.eq_false_of_not_eq_true hpending) rfl with
      ⟨hbank, record, hfinish, happ⟩ | ⟨-, next, hrestart, hnext⟩
    · exact finishes_of_finish hfinish ⟨_, happ, hbank⟩
    · exact finishes_of_restart hrestart (within_two hsome hverified hnext)

end Boots

/-! ## What a boot jumps to -/

theorem boot_jumps_checked (env : BootEnv) (cfg : BootConfig) :
    (∀ bank, (boot env cfg).stage2 = some bank → stage1VerifyStage2 env (stage2Meta bank) = true) ∧
    ∀ app, (boot env cfg).app = some app → stage2VerifyApp env (appMeta app) = true := by
  unfold boot
  obtain ⟨cfg', -, -, ⟨bank, hjump, hbank⟩ | ⟨hsafe, -⟩⟩ := start_cases env cfg
  · rw [hjump]
    dsimp only
    cases hmain : stage2Main env cfg' with
    | restart next =>
      refine ⟨fun bank' h => ?_, fun app h => by cases h⟩
      exact Option.some.inj h ▸ hbank
    | finish r =>
      refine ⟨fun bank' h => ?_, fun app h => ?_⟩
      · exact Option.some.inj h ▸ hbank
      · exact Option.some.inj h ▸ verified_of_finish hmain
  · rw [hsafe]
    constructor
    · intro bank hbank
      cases hbank
    · intro app happ
      cases happ

/-- From `cfg` on, boot number `n` (counted from zero) starts `app`, and every boot before it jumps
to Stage 2 and ends in a reset. -/
structure StartsAt (env : BootEnv) (cfg : BootConfig) (n : ℕ) (app : BootBank) : Prop where
  starts : (boot env (configAfter (boot env) n cfg)).app = some app
  resets : ∀ m < n, (boot env (configAfter (boot env) m cfg)).stage2.isSome ∧
    (boot env (configAfter (boot env) m cfg)).app = none

theorem boot_of_restart {next : BootConfig} (h : bootOnce env cfg = .restart next) :
    (boot env cfg).stage2.isSome ∧ (boot env cfg).app = none ∧ (boot env cfg).config = next := by
  unfold bootOnce at h
  dsimp only at h
  split at h
  case isTrue => cases h
  case isFalse hover =>
    simp only [Bool.or_eq_true, not_or, Bool.not_eq_true, Option.isSome_eq_false_iff,
      Option.isNone_iff_eq_none] at hover
    exact ⟨Option.isSome_iff_ne_none.mpr hover.2, hover.1, Outcome.restart.inj h⟩

theorem startsAt_of_within {n : ℕ} (h : StartsWithin env n cfg) :
    ∃ m < n, ∃ app, StartsAt env cfg m app ∧ stage2VerifyApp env (appMeta app) = true := by
  induction n generalizing cfg with
  | zero => exact absurd h id
  | succ n ih =>
    cases honce : bootOnce env cfg with
    | restart next =>
      rw [StartsWithin, Finishes, honce] at h
      obtain ⟨hstage2, happ, rfl⟩ := boot_of_restart honce
      obtain ⟨m, hm, app, hstarts, hverified⟩ := ih h
      refine ⟨m + 1, Nat.succ_lt_succ hm, app, ⟨hstarts.starts, fun k hk => ?_⟩, hverified⟩
      cases k with
      | zero => exact ⟨hstage2, happ⟩
      | succ k => exact hstarts.resets k (Nat.lt_of_succ_lt_succ hk)
    | finish record =>
      rw [StartsWithin, Finishes, honce] at h
      obtain ⟨app, happ, hverified⟩ := h
      have hrecord : boot env cfg = record := by
        unfold bootOnce at honce
        dsimp only at honce
        split at honce
        case isTrue => exact Outcome.finish.inj honce
        case isFalse => cases honce
      refine ⟨0, Nat.succ_pos n, app, ⟨?_, fun k hk => absurd hk (Nat.not_lt_zero k)⟩, hverified⟩
      rw [configAfter, hrecord, happ]

/-- **Recovery.** With one good image in each stage, at most six boots (in fact three) lead from any
configuration to a verified application. No boot jumps to an image that fails its check, and safe
mode is entered only if neither Stage 2 bank verifies. -/
theorem gateway_recovers (env : BootEnv) (cfg : BootConfig) :
    ((∃ bank, stage1VerifyStage2 env (stage2Meta bank) = true) →
      (∃ bank, stage2VerifyApp env (appMeta bank) = true) →
        ∃ n < 6, ∃ app, StartsAt env cfg n app ∧ stage2VerifyApp env (appMeta app) = true) ∧
    (∀ n, (∀ bank, (boot env (configAfter (boot env) n cfg)).stage2 = some bank →
        stage1VerifyStage2 env (stage2Meta bank) = true) ∧
      ∀ app, (boot env (configAfter (boot env) n cfg)).app = some app →
        stage2VerifyApp env (appMeta app) = true) ∧
    ∀ t t', start env t = .safeMode t' → ∀ bank, stage1VerifyStage2 env (stage2Meta bank) = false := by
  refine ⟨?_, fun n => boot_jumps_checked env _, ?_⟩
  · intro hsome hverified
    exact startsAt_of_within ((within_three hsome hverified cfg).mono (by decide))
  · intro t t' hsafe
    obtain ⟨cfg', -, -, ⟨bank, hjump, -⟩ | ⟨-, hfails⟩⟩ := start_cases env t
    · rw [hjump] at hsafe
      cases hsafe
    · exact hfails

/-- Only Stage 2 bank B and application bank A are good, the CRC is stale and an update pending. -/
theorem gateway_recovers_in_bank_a :
    ∃ n < 6, ∃ app, StartsAt (envWith [stage2Meta .b, appMeta .a])
      ⟨1, 2, 7, 0, 255, 9, 1, Vector.replicate 9 0, 0⟩ n app ∧
        stage2VerifyApp (envWith [stage2Meta .b, appMeta .a]) (appMeta app) = true :=
  (gateway_recovers (envWith [stage2Meta .b, appMeta .a]) _).1 ⟨.b, by decide⟩ ⟨.a, by decide⟩

end Mcus.Boot.Zonal
