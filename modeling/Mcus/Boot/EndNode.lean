import Mcus.Boot.Common

/-! # The boot loader of the end-node ECU

`ssw_main.c` and `stage2_main.c` of `src/end_node_ecu`. A stage ends in `system_reset`, which
restarts Stage 1 with the configuration as it is then, or in a jump to the bank it selected.
-/

namespace Mcus.Boot.EndNode
open BlockStore Restart
set_option autoImplicit false

variable (env : BootEnv)

/-! ## Stage 1 -/

/-- `stage1_switch_to_fallback`, up to its `system_reset`. -/
def stage1SwitchToFallback (cfg : BootConfig) : BootConfig :=
  let cfg := updateCrc env { cfg with stage2Active := toggle cfg.stage2Active }
  -- the count is reset behind the CRC update
  if cfg.stage2Active = 0 then { cfg with stage2BootCntA := 0 } else { cfg with stage2BootCntB := 0 }

/-- `stage1_main`; a jump hands on the bank and the configuration. -/
def stage1Main (cfg : BootConfig) : Outcome BootConfig (BootBank × BootConfig) :=
  let activeStage2 := stage1ReadActiveStage2 env cfg
  let activeMeta := readMetadata env.flash (stage2Meta activeStage2)
  let cfg := stage1IncrementBootCount env cfg activeStage2
  if stage1GetBootCount cfg activeStage2 ≥ maxBootAttempts then
    .restart (stage1SwitchToFallback env cfg)
  else if activeMeta.magic ≠ magicNumber then .restart (stage1SwitchToFallback env cfg)
  else if env.calculateCrc32 (load env.flash (stage2Start activeStage2) activeMeta.size.toNat) ≠
      activeMeta.crc32 then .restart (stage1SwitchToFallback env cfg)
  else .finish (activeStage2, stage1ResetBootCount env cfg activeStage2)

/-! ## Stage 2 -/

def stage2ReadActiveApp (cfg : BootConfig) : BootBank := bankOf cfg.appActive

/-- `stage2_switch_to_fallback_app`, up to its `system_reset`. -/
def stage2SwitchToFallbackApp (cfg : BootConfig) : BootConfig :=
  let cfg := { cfg with appActive := toggle cfg.appActive }
  updateCrc env (if cfg.appActive = 0 then { cfg with appBootCntA := 0 } else { cfg with appBootCntB := 0 })

def stage2VerifyApplication (bank : BootBank) : Bool :=
  let metadata := readMetadata env.flash (appMeta bank)
  let image := load env.flash (appStart bank) metadata.size.toNat
  if metadata.magic ≠ magicNumber then false
  else if metadata.valid ≠ 1 then false
  else if env.calculateCrc32 image ≠ metadata.crc32 then false
  else if !env.verifyDilithiumSignature image metadata.signature then false
  else true

def stage2Main (cfg : BootConfig) : Outcome BootConfig (BootBank × BootConfig) :=
  let activeApp := stage2ReadActiveApp cfg
  let cfg := stage2IncrementAppBootCount env cfg activeApp
  if stage2GetAppBootCount cfg activeApp ≥ maxBootAttempts then
    .restart (stage2SwitchToFallbackApp env cfg)
  else if !stage2VerifyApplication env activeApp then .restart (stage2SwitchToFallbackApp env cfg)
  else .finish (activeApp, stage2ResetAppBootCount env cfg activeApp)

/-! ## A boot -/

/-- From `stage1_main` to the next reset or to an application. -/
def boot (cfg : BootConfig) : BootRecord :=
  match stage1Main env cfg with
  | .restart cfg => ⟨none, none, cfg⟩
  | .finish (bank, cfg) =>
    match stage2Main env cfg with
    | .restart cfg => ⟨some bank, none, cfg⟩
    | .finish (app, cfg) => ⟨some bank, some app, cfg⟩

/-- Boots until an application is started, `n` at most. -/
def bootRun : ℕ → BootConfig → List BootRecord
  | 0, _ => []
  | n + 1, cfg =>
    let record := boot env cfg
    if record.app.isSome then [record] else record :: bootRun n record.config

/-! ## What each stage can do -/

/-- The check of `stage1_main`: magic number and CRC. -/
def Stage1Accepts (bank : BootBank) : Prop :=
  (readMetadata env.flash (stage2Meta bank)).magic = magicNumber ∧
    env.calculateCrc32 (load env.flash (stage2Start bank)
      (readMetadata env.flash (stage2Meta bank)).size.toNat) =
        (readMetadata env.flash (stage2Meta bank)).crc32

variable {env} {cfg : BootConfig} {bank : BootBank}

theorem stage1_jumps (hbank : stage1ReadActiveStage2 env cfg = bank)
    (hcount : stage1GetBootCount cfg bank + 1 < maxBootAttempts) (haccepts : Stage1Accepts env bank) :
    stage1Main env cfg =
      .finish (bank, stage1ResetBootCount env (stage1IncrementBootCount env cfg bank) bank) := by
  have hn : ¬ stage1GetBootCount cfg bank + 1 ≥ maxBootAttempts := UInt8.not_le.mpr hcount
  unfold stage1Main
  simp only [hbank, bootCount_increment, if_neg hn, haccepts.1, haccepts.2, ne_eq, not_true_eq_false,
    if_false]

theorem stage1_falls_back (hbank : stage1ReadActiveStage2 env cfg = bank)
    (hfails : ¬ (stage1GetBootCount cfg bank + 1 < maxBootAttempts ∧ Stage1Accepts env bank)) :
    stage1Main env cfg =
      .restart (stage1SwitchToFallback env (stage1IncrementBootCount env cfg bank)) := by
  unfold stage1Main
  simp only [hbank, bootCount_increment]
  split
  case isTrue => rfl
  case isFalse hcount =>
    split
    case isTrue => rfl
    case isFalse hmagic =>
      split
      case isTrue => rfl
      case isFalse hcrc =>
        exact absurd ⟨UInt8.not_le.mp hcount, not_not.mp hmagic, not_not.mp hcrc⟩ hfails

theorem stage1_cases (env : BootEnv) (cfg : BootConfig) :
    (Stage1Accepts env (stage1ReadActiveStage2 env cfg) ∧ stage1Main env cfg =
      .finish (stage1ReadActiveStage2 env cfg, stage1ResetBootCount env
        (stage1IncrementBootCount env cfg (stage1ReadActiveStage2 env cfg))
        (stage1ReadActiveStage2 env cfg))) ∨
    stage1Main env cfg = .restart (stage1SwitchToFallback env
      (stage1IncrementBootCount env cfg (stage1ReadActiveStage2 env cfg))) := by
  by_cases hjump : stage1GetBootCount cfg (stage1ReadActiveStage2 env cfg) + 1 < maxBootAttempts ∧
      Stage1Accepts env (stage1ReadActiveStage2 env cfg)
  · exact Or.inl ⟨hjump.2, stage1_jumps rfl hjump.1 hjump.2⟩
  · exact Or.inr (stage1_falls_back rfl hjump)

theorem eq_of_stage1_finish {p : BootBank × BootConfig} (hfinish : stage1Main env cfg = .finish p) :
    p = (stage1ReadActiveStage2 env cfg, stage1ResetBootCount env
      (stage1IncrementBootCount env cfg (stage1ReadActiveStage2 env cfg))
      (stage1ReadActiveStage2 env cfg)) := by
  rcases stage1_cases env cfg with ⟨-, hjump⟩ | hfallback
  · exact Outcome.finish.inj (hfinish.symm.trans hjump)
  · exact (Outcome.restart_not_finish hfallback hfinish).elim

theorem eq_of_stage1_restart {next : BootConfig} (hrestart : stage1Main env cfg = .restart next) :
    next = stage1SwitchToFallback env
      (stage1IncrementBootCount env cfg (stage1ReadActiveStage2 env cfg)) := by
  rcases stage1_cases env cfg with ⟨-, hjump⟩ | hfallback
  · exact (Outcome.restart_not_finish hrestart hjump).elim
  · exact Outcome.restart.inj (hrestart.symm.trans hfallback)

theorem stage2_starts (hbank : stage2ReadActiveApp cfg = bank)
    (hcount : stage2GetAppBootCount cfg bank + 1 < maxBootAttempts)
    (hverified : stage2VerifyApplication env bank = true) :
    stage2Main env cfg =
      .finish (bank, stage2ResetAppBootCount env (stage2IncrementAppBootCount env cfg bank) bank) := by
  have hn : ¬ stage2GetAppBootCount cfg bank + 1 ≥ maxBootAttempts := UInt8.not_le.mpr hcount
  unfold stage2Main
  simp only [hbank, appCount_increment, if_neg hn, hverified, Bool.not_true, Bool.false_eq_true, if_false]

theorem stage2_falls_back (hbank : stage2ReadActiveApp cfg = bank)
    (hfails : ¬ (stage2GetAppBootCount cfg bank + 1 < maxBootAttempts ∧
      stage2VerifyApplication env bank = true)) :
    stage2Main env cfg =
      .restart (stage2SwitchToFallbackApp env (stage2IncrementAppBootCount env cfg bank)) := by
  unfold stage2Main
  simp only [hbank, appCount_increment]
  split
  case isTrue => rfl
  case isFalse hcount =>
    split
    case isTrue => rfl
    case isFalse hverify =>
      refine absurd ⟨UInt8.not_le.mp hcount, ?_⟩ hfails
      simpa using hverify

theorem stage2_cases (env : BootEnv) (cfg : BootConfig) :
    (stage2VerifyApplication env (stage2ReadActiveApp cfg) = true ∧ stage2Main env cfg =
      .finish (stage2ReadActiveApp cfg, stage2ResetAppBootCount env
        (stage2IncrementAppBootCount env cfg (stage2ReadActiveApp cfg)) (stage2ReadActiveApp cfg))) ∨
    stage2Main env cfg = .restart (stage2SwitchToFallbackApp env
      (stage2IncrementAppBootCount env cfg (stage2ReadActiveApp cfg))) := by
  by_cases hstart : stage2GetAppBootCount cfg (stage2ReadActiveApp cfg) + 1 < maxBootAttempts ∧
      stage2VerifyApplication env (stage2ReadActiveApp cfg) = true
  · exact Or.inl ⟨hstart.2, stage2_starts rfl hstart.1 hstart.2⟩
  · exact Or.inr (stage2_falls_back rfl hstart)

theorem eq_of_stage2_finish {r : BootBank × BootConfig} (hfinish : stage2Main env cfg = .finish r) :
    stage2VerifyApplication env (stage2ReadActiveApp cfg) = true ∧
      r = (stage2ReadActiveApp cfg, stage2ResetAppBootCount env
        (stage2IncrementAppBootCount env cfg (stage2ReadActiveApp cfg)) (stage2ReadActiveApp cfg)) := by
  rcases stage2_cases env cfg with ⟨hverified, hstarts⟩ | hfallback
  · exact ⟨hverified, Outcome.finish.inj (hfinish.symm.trans hstarts)⟩
  · exact (Outcome.restart_not_finish hfallback hfinish).elim

theorem eq_of_stage2_restart {next : BootConfig} (hrestart : stage2Main env cfg = .restart next) :
    next = stage2SwitchToFallbackApp env
      (stage2IncrementAppBootCount env cfg (stage2ReadActiveApp cfg)) := by
  rcases stage2_cases env cfg with ⟨-, hstarts⟩ | hfallback
  · exact (Outcome.restart_not_finish hrestart hstarts).elim
  · exact Outcome.restart.inj (hrestart.symm.trans hfallback)

/-! ## The fallbacks -/

section Fallback
variable (env) (cfg : BootConfig)

theorem fallback_bank : bankOf (stage1SwitchToFallback env cfg).stage2Active =
    (bankOf cfg.stage2Active).other := by
  rw [← bankOf_toggle]
  unfold stage1SwitchToFallback
  dsimp only
  split <;> rfl

theorem fallback_sameApps : SameApps cfg (stage1SwitchToFallback env cfg) := by
  unfold stage1SwitchToFallback
  dsimp only
  split <;> exact ⟨rfl, fun bank => by cases bank <;> rfl, rfl⟩

theorem fallback_count : stage1GetBootCount (stage1SwitchToFallback env cfg)
    (bankOf cfg.stage2Active).other = 0 := by
  rw [← fallback_bank env]
  unfold stage1SwitchToFallback
  dsimp only
  split
  case isTrue h =>
    have hzero : toggle cfg.stage2Active = 0 := h
    simp [updateCrc, bankOf, hzero, stage1GetBootCount]
  case isFalse h =>
    have hone : toggle cfg.stage2Active ≠ 0 := h
    simp [updateCrc, bankOf, hone, stage1GetBootCount]

theorem fallback_count_left : stage1GetBootCount (stage1SwitchToFallback env cfg)
    (bankOf cfg.stage2Active) = stage1GetBootCount cfg (bankOf cfg.stage2Active) := by
  unfold stage1SwitchToFallback bankOf
  by_cases hzero : cfg.stage2Active = 0 <;> simp [hzero, toggle, updateCrc, stage1GetBootCount]

variable {env} {cfg}

/-- The CRC survives the fallback when the count it resets was zero. -/
theorem fallback_crcValid (hcount : stage1GetBootCount cfg (bankOf cfg.stage2Active).other = 0) :
    CrcValid env (stage1SwitchToFallback env cfg) := by
  by_cases hzero : cfg.stage2Active = 0
  · have hcntB : cfg.stage2BootCntB = 0 := by
      rw [bankOf, if_pos hzero] at hcount
      exact hcount
    simp [stage1SwitchToFallback, toggle, hzero, updateCrc, CrcValid, BootConfig.bytes, hcntB]
  · have hcntA : cfg.stage2BootCntA = 0 := by
      rw [bankOf, if_neg hzero] at hcount
      exact hcount
    simp [stage1SwitchToFallback, toggle, hzero, updateCrc, CrcValid, BootConfig.bytes, hcntA]

theorem fallbackApp_bank : stage2ReadActiveApp (stage2SwitchToFallbackApp env cfg) =
    (stage2ReadActiveApp cfg).other := by
  unfold stage2ReadActiveApp
  rw [← bankOf_toggle]
  unfold stage2SwitchToFallbackApp
  dsimp only
  split <;> rfl

theorem fallbackApp_count : stage2GetAppBootCount (stage2SwitchToFallbackApp env cfg)
    (stage2ReadActiveApp cfg).other = 0 := by
  by_cases hzero : cfg.appActive = 0
  · simp [stage2SwitchToFallbackApp, stage2ReadActiveApp, bankOf, hzero, toggle, updateCrc,
      stage2GetAppBootCount, BootBank.other]
  · simp [stage2SwitchToFallbackApp, stage2ReadActiveApp, bankOf, hzero, toggle, updateCrc,
      stage2GetAppBootCount, BootBank.other]

end Fallback
end Mcus.Boot.EndNode
