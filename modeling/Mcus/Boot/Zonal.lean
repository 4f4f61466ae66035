import Mcus.Boot.Common

/-! # The boot loader of the zonal gateway

`ssw_main.c` and `stage2_main.c` of `src/zonal_gateway`. The startup software never resets: it
counts a boot, jumps to the bank it selected or to the other one, and enters safe mode when neither
verifies. Stage 2 processes a pending update before it selects an application; the flash writes of
the update and the signature checks are commented out in the source.
-/

namespace Mcus.Boot.Zonal
open BlockStore Restart
set_option autoImplicit false

variable (env : BootEnv)

/-! ## Startup software -/

def stage1CheckBootLimit (cfg : BootConfig) (bank : BootBank) : Bool :=
  decide (stage1GetBootCount cfg bank < maxBootAttempts)

/-- Magic, valid flag and CRC of the image behind the metadata at `metaAddr`: the bodies of
`stage1_verify_stage2` and `stage2_verify_app`. -/
def verifyImage (metaAddr : ℕ) : Bool :=
  let metadata := readMetadata env.flash metaAddr
  if metadata.magic ≠ magicNumber then false
  else if metadata.valid ≠ 1 then false
  else if env.calculateCrc32 (load env.flash (metaAddr + 0x1000) metadata.size.toNat) ≠ metadata.crc32 then
    false
  else true

def stage1VerifyStage2 (stage2Addr : ℕ) : Bool := verifyImage env stage2Addr

inductive SswOutcome
  | jump (bank : BootBank) (cfg : BootConfig)
  | safeMode (cfg : BootConfig)

/-- `_start`. -/
def start (cfg : BootConfig) : SswOutcome :=
  let activeBank := stage1ReadActiveStage2 env cfg
  let within := stage1CheckBootLimit cfg activeBank
  let cfg := if !within then stage1ResetBootCount env cfg activeBank.other else cfg
  let activeBank := if !within then activeBank.other else activeBank
  let cfg := stage1IncrementBootCount env cfg activeBank
  if stage1VerifyStage2 env (stage2Meta activeBank) then .jump activeBank cfg
  else if stage1VerifyStage2 env (stage2Meta activeBank.other) then .jump activeBank.other cfg
  else .safeMode cfg

/-! ## Stage 2 -/

def stage2ReadActiveApp (cfg : BootConfig) : BootBank :=
  if CrcValid env cfg then bankOf cfg.appActive else .a

def stage2CheckOtaPending (cfg : BootConfig) : Bool := decide (cfg.otaPending = 1)

def stage2ClearOtaPending (cfg : BootConfig) : BootConfig := updateCrc env { cfg with otaPending := 0 }

def stage2SwitchApp (cfg : BootConfig) : BootConfig :=
  let cfg := updateCrc env { cfg with appActive := toggle cfg.appActive }
  -- the count is reset behind the CRC update
  if cfg.appActive = 0 then { cfg with appBootCntA := 0 } else { cfg with appBootCntB := 0 }

def stage2VerifyApp (appMetaAddr : ℕ) : Bool := verifyImage env appMetaAddr

/-- `stage2_process_ota`, up to its `system_reset`. -/
def stage2ProcessOta (cfg : BootConfig) : BootConfig := stage2ClearOtaPending env (stage2SwitchApp env cfg)

def stage2Main (cfg : BootConfig) : Outcome BootConfig (BootBank × BootConfig) :=
  if stage2CheckOtaPending cfg then .restart (stage2ProcessOta env cfg)
  else
    let activeApp := stage2ReadActiveApp env cfg
    let cfg := stage2IncrementAppBootCount env cfg activeApp
    if stage2GetAppBootCount cfg activeApp ≥ maxBootAttempts then .restart (stage2SwitchApp env cfg)
    else if !stage2VerifyApp env (appMeta activeApp) then .restart (stage2SwitchApp env cfg)
    else .finish (activeApp, stage2ResetAppBootCount env cfg activeApp)

/-! ## A boot -/

/-- From `_start` to the next reset, to safe mode (no jump at all) or to an application. -/
def boot (cfg : BootConfig) : BootRecord :=
  match start env cfg with
  | .safeMode cfg => ⟨none, none, cfg⟩
  | .jump bank cfg =>
    match stage2Main env cfg with
    | .restart cfg => ⟨some bank, none, cfg⟩
    | .finish (app, cfg) => ⟨some bank, some app, cfg⟩

/-! ## What each stage can do -/

variable {env} {cfg : BootConfig} {bank : BootBank}

/-- `_start` leaves a valid CRC and the application half as it was; it jumps to a bank that
verifies, and enters safe mode only when neither does. -/
theorem start_cases (env : BootEnv) (cfg : BootConfig) :
    ∃ cfg', SameApps cfg cfg' ∧ CrcValid env cfg' ∧
      ((∃ bank, start env cfg = .jump bank cfg' ∧ stage1VerifyStage2 env (stage2Meta bank) = true) ∨
        start env cfg = .safeMode cfg' ∧
          ∀ bank, stage1VerifyStage2 env (stage2Meta bank) = false) := by
  unfold start
  dsimp only
  generalize (!stage1CheckBootLimit cfg (stage1ReadActiveStage2 env cfg)) = exceeded
  generalize stage1ReadActiveStage2 env cfg = read
  have hreset : SameApps cfg (if exceeded then stage1ResetBootCount env cfg read.other else cfg) := by
    split
    · exact sameApps_stage1ResetBootCount cfg _
    · exact .refl cfg
  generalize (if exceeded then stage1ResetBootCount env cfg read.other else cfg) = cfg₁ at hreset ⊢
  generalize (if exceeded then read.other else read) = active
  refine ⟨stage1IncrementBootCount env cfg₁ active,
    hreset.trans (sameApps_stage1IncrementBootCount cfg₁ active),
    crcValid_stage1IncrementBootCount cfg₁ active, ?_⟩
  split
  case isTrue hactive => exact Or.inl ⟨active, rfl, hactive⟩
  case isFalse hactive =>
    split
    case isTrue hother => exact Or.inl ⟨active.other, rfl, hother⟩
    case isFalse hother =>
      refine Or.inr ⟨rfl, ?_⟩
      intro bank
      rcases active.eq_or_other bank with rfl | rfl
      · exact Bool.eq_false_of_not_eq_true hactive
      · exact Bool.eq_false_of_not_eq_true hother

theorem start_hands_over (hsome : ∃ bank, stage1VerifyStage2 env (stage2Meta bank) = true)
    (cfg : BootConfig) :
    ∃ bank cfg', start env cfg = .jump bank cfg' ∧ SameApps cfg cfg' ∧ CrcValid env cfg' := by
  obtain ⟨cfg', hsame, hcrc, ⟨bank, hjump, -⟩ | ⟨-, hfails⟩⟩ := start_cases env cfg
  · exact ⟨bank, cfg', hjump, hsame, hcrc⟩
  · obtain ⟨bank, hbank⟩ := hsome
    exact absurd (hbank.symm.trans (hfails bank)) (by simp)

theorem verified_of_finish {r : BootBank × BootConfig} (hfinish : stage2Main env cfg = .finish r) :
    stage2VerifyApp env (appMeta r.1) = true := by
  unfold stage2Main at hfinish
  split at hfinish
  case isTrue => cases hfinish
  case isFalse =>
    dsimp only at hfinish
    split at hfinish
    case isTrue => cases hfinish
    case isFalse =>
      split at hfinish
      case isTrue => cases hfinish
      case isFalse hverify =>
        obtain rfl := Outcome.finish.inj hfinish
        simpa using hverify

theorem idle_of_zero (hota : cfg.otaPending = 0) : stage2CheckOtaPending cfg = false := by
  rw [stage2CheckOtaPending, hota]
  rfl

theorem stage2_starts (hidle : stage2CheckOtaPending cfg = false) (hbank : stage2ReadActiveApp env cfg = bank)
    (hcount : stage2GetAppBootCount cfg bank + 1 < maxBootAttempts)
    (hverified : stage2VerifyApp env (appMeta bank) = true) :
    stage2Main env cfg =
      .finish (bank, stage2ResetAppBootCount env (stage2IncrementAppBootCount env cfg bank) bank) := by
  have hn : ¬ stage2GetAppBootCount cfg bank + 1 ≥ maxBootAttempts := UInt8.not_le.mpr hcount
  unfold stage2Main
  simp only [hidle, hbank, appCount_increment, if_neg hn, hverified, Bool.not_true, Bool.false_eq_true,
    if_false]

theorem stage2_falls_back (hidle : stage2CheckOtaPending cfg = false) (hbank : stage2ReadActiveApp env cfg = bank)
    (hfails : ¬ (stage2GetAppBootCount cfg bank + 1 < maxBootAttempts ∧
      stage2VerifyApp env (appMeta bank) = true)) :
    stage2Main env cfg = .restart (stage2SwitchApp env (stage2IncrementAppBootCount env cfg bank)) := by
  unfold stage2Main
  simp only [hidle, hbank, appCount_increment, Bool.false_eq_true, if_false]
  split
  case isTrue => rfl
  case isFalse hcount =>
    split
    case isTrue => rfl
    case isFalse hverify =>
      refine absurd ⟨UInt8.not_le.mp hcount, ?_⟩ hfails
      simpa using hverify

theorem switchApp_fresh (env : BootEnv) (cfg : BootConfig) :
    bankOf (stage2SwitchApp env cfg).appActive = (bankOf cfg.appActive).other ∧
      stage2GetAppBootCount (stage2SwitchApp env cfg) (bankOf cfg.appActive).other = 0 ∧
      (stage2SwitchApp env cfg).otaPending = cfg.otaPending := by
  by_cases hzero : cfg.appActive = 0
  · simp [stage2SwitchApp, bankOf, hzero, toggle, updateCrc, stage2GetAppBootCount, BootBank.other]
  · simp [stage2SwitchApp, bankOf, hzero, toggle, updateCrc, stage2GetAppBootCount, BootBank.other]

end Mcus.Boot.Zonal
