import Mcus.Boot.EndNode
import Mcus.Boot.Zonal
import Mcus.Foundations.Runs

/-! # Signatures at boot

The documentation wants a Dilithium3 signature on every Stage 2 and application image. Only Stage 2
of the end node checks one, for the application. Stage 1 of the end node looks at magic number and
CRC, and on the zonal gateway both signature checks are commented out. What a boot jumps to is
authentic exactly when the images it selects happen to carry what was not checked.
-/

namespace Mcus.Boot
open BlockStore Runs Restart
set_option autoImplicit false

/-- The signature of the image at `start` that belongs to the metadata at `metaAddr`. -/
def Signed (env : BootEnv) (metaAddr start : ℕ) : Prop :=
  env.verifyDilithiumSignature (load env.flash start (readMetadata env.flash metaAddr).size.toNat)
    (readMetadata env.flash metaAddr).signature = true

/-- Magic number, valid flag, CRC and signature. -/
structure Authentic (env : BootEnv) (metaAddr start : ℕ) : Prop where
  magic : (readMetadata env.flash metaAddr).magic = magicNumber
  valid : (readMetadata env.flash metaAddr).valid = 1
  crc : env.calculateCrc32 (load env.flash start (readMetadata env.flash metaAddr).size.toNat) =
    (readMetadata env.flash metaAddr).crc32
  signature : Signed env metaAddr start

structure SecureBoot (env : BootEnv) (record : BootRecord) : Prop where
  stage2 : ∀ bank, record.stage2 = some bank → Authentic env (stage2Meta bank) (stage2Start bank)
  app : ∀ bank, record.app = some bank → Authentic env (appMeta bank) (appStart bank)

/-- What a boot finds: the flash, and what the application did to the configuration before the reset. -/
structure PowerUp where
  env : BootEnv
  edit : BootConfig → BootConfig

def bootMachine (boot : BootEnv → BootConfig → BootRecord) : Machine BootConfig PowerUp BootRecord where
  step cfg i := ((boot i.env (i.edit cfg)).config, boot i.env (i.edit cfg))

variable {env : BootEnv} {cfg : BootConfig} {bank : BootBank}

/-! ## The end node -/

namespace EndNode

theorem authentic_of_verifyApplication (h : stage2VerifyApplication env bank = true) :
    Authentic env (appMeta bank) (appStart bank) := by
  unfold stage2VerifyApplication at h
  dsimp only at h
  split at h
  case isTrue => cases h
  case isFalse hmagic =>
    split at h
    case isTrue => cases h
    case isFalse hvalid =>
      split at h
      case isTrue => cases h
      case isFalse hcrc =>
        split at h
        case isTrue => cases h
        case isFalse hsigned =>
          exact ⟨not_not.mp hmagic, not_not.mp hvalid, not_not.mp hcrc, by simpa [Signed] using hsigned⟩

theorem app_eq_some (h : (boot env cfg).app = some bank) : stage2VerifyApplication env bank = true := by
  unfold boot at h
  cases hfirst : stage1Main env cfg with
  | restart cfg' => simp [hfirst] at h
  | finish p =>
    rcases stage2_cases env p.2 with ⟨hverified, hfinish⟩ | hrestart
    · simp only [hfirst, hfinish, Option.some.injEq] at h
      exact h ▸ hverified
    · simp [hfirst, hrestart] at h

/-- The bank Stage 1 jumps to. -/
theorem stage2_eq_some_iff : (boot env cfg).stage2 = some bank ↔
    stage1ReadActiveStage2 env cfg = bank ∧ stage1GetBootCount cfg bank + 1 < maxBootAttempts ∧
      Stage1Accepts env bank := by
  by_cases hjump : stage1GetBootCount cfg (stage1ReadActiveStage2 env cfg) + 1 < maxBootAttempts ∧
      Stage1Accepts env (stage1ReadActiveStage2 env cfg)
  · have hstage2 : (boot env cfg).stage2 = some (stage1ReadActiveStage2 env cfg) := by
      unfold boot
      rw [stage1_jumps rfl hjump.1 hjump.2]
      dsimp only
      cases stage2Main env _ <;> rfl
    rw [hstage2, Option.some.injEq]
    constructor
    · rintro rfl
      exact ⟨rfl, hjump⟩
    · exact fun h => h.1
  · have hstage2 : (boot env cfg).stage2 = none := by
      unfold boot
      rw [stage1_falls_back rfl hjump]
    rw [hstage2]
    refine iff_of_false (by simp) ?_
    rintro ⟨rfl, h⟩
    exact hjump h

/-- If Stage 1 accepts the bank it selects, then that image is marked valid and signed. -/
def SignedBoot (env : BootEnv) (cfg : BootConfig) : Prop :=
  ∀ bank, stage1ReadActiveStage2 env cfg = bank → stage1GetBootCount cfg bank + 1 < maxBootAttempts →
    Stage1Accepts env bank →
      (readMetadata env.flash (stage2Meta bank)).valid = 1 ∧ Signed env (stage2Meta bank) (stage2Start bank)

theorem secureBoot_iff (env : BootEnv) (cfg : BootConfig) :
    SecureBoot env (boot env cfg) ↔ SignedBoot env cfg := by
  constructor
  · intro h bank hread hcount haccepts
    have hauthentic := h.stage2 bank (stage2_eq_some_iff.mpr ⟨hread, hcount, haccepts⟩)
    exact ⟨hauthentic.valid, hauthentic.signature⟩
  · intro h
    constructor
    · intro bank hbank
      obtain ⟨hread, hcount, haccepts⟩ := stage2_eq_some_iff.mp hbank
      obtain ⟨hvalid, hsigned⟩ := h bank hread hcount haccepts
      exact ⟨haccepts.1, hvalid, haccepts.2, hsigned⟩
    · intro bank hbank
      exact authentic_of_verifyApplication (app_eq_some hbank)

end EndNode

/-! ## The zonal gateway -/

namespace Zonal

theorem stage2Start_eq (bank : BootBank) : stage2Meta bank + 0x1000 = stage2Start bank := by
  cases bank <;> rfl

theorem appStart_eq (bank : BootBank) : appMeta bank + 0x1000 = appStart bank := by
  cases bank <;> rfl

/-- `verifyImage` is everything but the signature. -/
theorem authentic_iff {metaAddr start : ℕ} (hstart : metaAddr + 0x1000 = start)
    (hverified : verifyImage env metaAddr = true) :
    Authentic env metaAddr start ↔ Signed env metaAddr start := by
  refine ⟨fun h => h.signature, fun hsigned => ?_⟩
  unfold verifyImage at hverified
  rw [hstart] at hverified
  dsimp only at hverified
  split at hverified
  case isTrue => cases hverified
  case isFalse hmagic =>
    split at hverified
    case isTrue => cases hverified
    case isFalse hvalid =>
      split at hverified
      case isTrue => cases hverified
      case isFalse hcrc => exact ⟨not_not.mp hmagic, not_not.mp hvalid, not_not.mp hcrc, hsigned⟩

/-- The bank `_start` tries first. -/
def firstBank (env : BootEnv) (cfg : BootConfig) : BootBank :=
  if stage1CheckBootLimit cfg (stage1ReadActiveStage2 env cfg) then stage1ReadActiveStage2 env cfg
  else (stage1ReadActiveStage2 env cfg).other

/-- `bank` verifies, and no bank that is tried before it does. -/
def Selected (env : BootEnv) (cfg : BootConfig) (bank : BootBank) : Prop :=
  stage1VerifyStage2 env (stage2Meta bank) = true ∧
    (bank = firstBank env cfg ∨ stage1VerifyStage2 env (stage2Meta (firstBank env cfg)) = false)

theorem start_jumps_iff :
    (∃ cfg', start env cfg = .jump bank cfg') ↔ Selected env cfg bank := by
  have hfirst : (if !stage1CheckBootLimit cfg (stage1ReadActiveStage2 env cfg) then
      (stage1ReadActiveStage2 env cfg).other else stage1ReadActiveStage2 env cfg) =
        firstBank env cfg := by
    unfold firstBank
    cases stage1CheckBootLimit cfg (stage1ReadActiveStage2 env cfg) <;> rfl
  unfold start
  dsimp only
  rw [hfirst]
  unfold Selected
  generalize firstBank env cfg = first
  split
  case isTrue hverified =>
    constructor
    · rintro ⟨cfg', h⟩
      obtain ⟨rfl, -⟩ := SswOutcome.jump.inj h
      exact ⟨hverified, Or.inl rfl⟩
    · rintro ⟨-, rfl | hfails⟩
      · exact ⟨_, rfl⟩
      · exact absurd (hfails.symm.trans hverified) (by simp)
  case isFalse hfails =>
    split
    case isTrue hother =>
      constructor
      · rintro ⟨cfg', h⟩
        obtain ⟨rfl, -⟩ := SswOutcome.jump.inj h
        exact ⟨hother, Or.inr (Bool.eq_false_of_not_eq_true hfails)⟩
      · rintro ⟨hverified, -⟩
        rcases first.eq_or_other bank with rfl | rfl
        · exact absurd hverified hfails
        · exact ⟨_, rfl⟩
    case isFalse hother =>
      refine iff_of_false (fun ⟨_, h⟩ => by cases h) ?_
      rintro ⟨hverified, -⟩
      rcases first.eq_or_other bank with rfl | rfl
      · exact hfails hverified
      · exact hother hverified

theorem stage2_eq_some_iff : (boot env cfg).stage2 = some bank ↔ Selected env cfg bank := by
  rw [← start_jumps_iff]
  unfold boot
  cases start env cfg with
  | safeMode cfg' => simp
  | jump stage2 cfg' =>
    dsimp only
    cases stage2Main env cfg' <;> simp

/-- No update is pending, and Stage 2 starts `app`. -/
structure Startable (env : BootEnv) (cfg : BootConfig) (app : BootBank) : Prop where
  idle : stage2CheckOtaPending cfg = false
  active : bankOf cfg.appActive = app
  count : stage2GetAppBootCount cfg app + 1 < maxBootAttempts
  verified : stage2VerifyApp env (appMeta app) = true

theorem app_eq_some_iff : (boot env cfg).app = some bank ↔
    (∃ stage2, Selected env cfg stage2) ∧ Startable env cfg bank := by
  obtain ⟨cfg', hsame, hcrc, ⟨stage2, hjump, -⟩ | ⟨hsafe, -⟩⟩ := start_cases env cfg
  · have hselected : ∃ stage2, Selected env cfg stage2 := ⟨stage2, start_jumps_iff.mp ⟨cfg', hjump⟩⟩
    have hread : stage2ReadActiveApp env cfg' = bankOf cfg.appActive := by
      rw [stage2ReadActiveApp, if_pos hcrc, hsame.active]
    have hpending : stage2CheckOtaPending cfg' = stage2CheckOtaPending cfg := by
      rw [stage2CheckOtaPending, stage2CheckOtaPending, hsame.otaPending]
    unfold boot
    rw [hjump]
    dsimp only
    by_cases hidle : stage2CheckOtaPending cfg = false
    · by_cases hstarts : stage2GetAppBootCount cfg' (bankOf cfg.appActive) + 1 < maxBootAttempts ∧
          stage2VerifyApp env (appMeta (bankOf cfg.appActive)) = true
      · rw [stage2_starts (hpending.trans hidle) hread hstarts.1 hstarts.2]
        dsimp only
        rw [Option.some.injEq]
        constructor
        · rintro rfl
          rw [hsame.count] at hstarts
          exact ⟨hselected, hidle, rfl, hstarts.1, hstarts.2⟩
        · exact fun h => h.2.active
      · rw [stage2_falls_back (hpending.trans hidle) hread hstarts]
        refine iff_of_false (by simp) ?_
        rintro ⟨-, -, rfl, hcount, hverified⟩
        rw [hsame.count] at hstarts
        exact hstarts ⟨hcount, hverified⟩
    · have hmain : stage2Main env cfg' = .restart (stage2ProcessOta env cfg') := by
        have htrue : stage2CheckOtaPending cfg' = true := by simpa [hpending] using hidle
        simp only [stage2Main, htrue, if_true]
      rw [hmain]
      exact iff_of_false (by simp) fun h => hidle h.2.idle
  · have hnone : ¬ ∃ stage2, Selected env cfg stage2 := by
      rintro ⟨stage2, hselected⟩
      obtain ⟨cfg'', hjump⟩ := start_jumps_iff.mpr hselected
      rw [hsafe] at hjump
      cases hjump
    unfold boot
    rw [hsafe]
    exact iff_of_false (by simp) fun h => hnone h.1

/-- The images that this boot selects are signed. -/
structure SignedBoot (env : BootEnv) (cfg : BootConfig) : Prop where
  stage2 : ∀ bank, Selected env cfg bank → Signed env (stage2Meta bank) (stage2Start bank)
  app : ∀ bank, (∃ stage2, Selected env cfg stage2) → Startable env cfg bank →
    Signed env (appMeta bank) (appStart bank)

theorem secureBoot_iff (env : BootEnv) (cfg : BootConfig) :
    SecureBoot env (boot env cfg) ↔ SignedBoot env cfg := by
  constructor
  · intro h
    constructor
    · intro bank hselected
      exact (h.stage2 bank (stage2_eq_some_iff.mpr hselected)).signature
    · intro bank hselected hstartable
      exact (h.app bank (app_eq_some_iff.mpr ⟨hselected, hstartable⟩)).signature
  · intro h
    constructor
    · intro bank hbank
      have hselected := stage2_eq_some_iff.mp hbank
      exact (authentic_iff (stage2Start_eq bank) hselected.1).mpr (h.stage2 bank hselected)
    · intro bank hbank
      obtain ⟨hselected, hstartable⟩ := app_eq_some_iff.mp hbank
      exact (authentic_iff (appStart_eq bank) hstartable.verified).mpr (h.app bank hselected hstartable)

end Zonal

/-! ## Any number of boots -/

/-- **Secure boot.** Every image started in a row of boots is authentic exactly when no boot selects
an image that lacks the unchecked part: on the end node the valid flag and the signature of a Stage
2 image, on the zonal gateway the signature of any image. -/
theorem boots_secure_iff (cfg : BootConfig) (boots : List PowerUp) :
    ((bootMachine EndNode.boot).Admits
        (fun _ cfg i => SecureBoot i.env (EndNode.boot i.env (i.edit cfg))) cfg boots ↔
      (bootMachine EndNode.boot).Admits
        (fun _ cfg i => EndNode.SignedBoot i.env (i.edit cfg)) cfg boots) ∧
    ((bootMachine Zonal.boot).Admits
        (fun _ cfg i => SecureBoot i.env (Zonal.boot i.env (i.edit cfg))) cfg boots ↔
      (bootMachine Zonal.boot).Admits
        (fun _ cfg i => Zonal.SignedBoot i.env (i.edit cfg)) cfg boots) := by
  constructor
  · simp only [EndNode.secureBoot_iff]
  · simp only [Zonal.secureBoot_iff]

/-- Stage 2 and applications pass the checks made, and no signature verifies. -/
def unsignedEnv : BootEnv :=
  { envWith [stage2Meta .a, stage2Meta .b, appMeta .a, appMeta .b] with
    verifyDilithiumSignature := fun _ _ => false }

theorem unsigned_images_run :
    ¬ (bootMachine EndNode.boot).Admits
        (fun _ cfg i => SecureBoot i.env (EndNode.boot i.env (i.edit cfg)))
        (cleanConfig unsignedEnv) [⟨unsignedEnv, id⟩] ∧
    ¬ (bootMachine Zonal.boot).Admits
        (fun _ cfg i => SecureBoot i.env (Zonal.boot i.env (i.edit cfg)))
        (cleanConfig unsignedEnv) [⟨unsignedEnv, id⟩] := by
  have hcrc : CrcValid unsignedEnv (cleanConfig unsignedEnv) := crcValid_updateCrc _
  have hread : stage1ReadActiveStage2 unsignedEnv (cleanConfig unsignedEnv) = .a := if_pos hcrc
  constructor
  · intro h
    have hsigned := (EndNode.secureBoot_iff _ _).mp (h [] _ [] rfl)
    have hbank := hsigned .a hread (by decide) ⟨by decide, by decide⟩
    exact absurd hbank.2 (by simp [Signed, unsignedEnv])
  · intro h
    have hsigned := (Zonal.secureBoot_iff _ _).mp (h [] _ [] rfl)
    have hfirst : Zonal.firstBank unsignedEnv (cleanConfig unsignedEnv) = .a := by
      unfold Zonal.firstBank
      rw [hread]
      rfl
    have hbank := hsigned.stage2 .a ⟨by decide, Or.inl hfirst.symm⟩
    exact absurd hbank (by simp [Signed, unsignedEnv])

end Mcus.Boot
