import Mcus.Boot.EndNodeRecovery
import Mcus.Boot.Zonal

/-! # Applications that keep resetting

Stage 2 counts a boot of the application bank it is about to start, and clears that count again
before it jumps. A bank that verifies therefore comes back with a count of zero however often its
application resets, and Stage 2 starts it without end. The limit of three boots in a row is kept
only by a controller that starts no application at all.
-/

namespace Mcus.Boot
open Restart
set_option autoImplicit false

/-! ## Starts in a row -/

section Starts
variable {boot : BootConfig → BootRecord} {bank : BootBank} {cfg : BootConfig}

theorem startedApps_add (m n : ℕ) (cfg : BootConfig) :
    startedApps boot (m + n) cfg =
      startedApps boot m cfg ++ startedApps boot n (configAfter boot m cfg) := by
  induction m generalizing cfg with
  | zero => rw [Nat.zero_add]; rfl
  | succ m ih => rw [Nat.succ_add, startedApps, startedApps, ih, List.append_assoc]; rfl

/-- `boot` gets from `cfg` to the start of `bank`, with no other start on the way, and leaves a
configuration in `P`. -/
def Starts (boot : BootConfig → BootRecord) (bank : BootBank) (P : BootConfig → Prop)
    (cfg : BootConfig) : Prop :=
  ∃ m, startedApps boot m cfg = [bank] ∧ P (configAfter boot m cfg)

/-- What leads back to itself is repeated any number of times. -/
theorem starts_replicate {P : BootConfig → Prop} (hagain : ∀ cfg, P cfg → Starts boot bank P cfg)
    (hP : P cfg) (k : ℕ) : ∃ m, startedApps boot m cfg = List.replicate k bank := by
  induction k generalizing cfg with
  | zero => exact ⟨0, rfl⟩
  | succ k ih =>
    obtain ⟨m, hm, hnext⟩ := hagain cfg hP
    obtain ⟨n, hn⟩ := ih hnext
    exact ⟨m + n, by rw [startedApps_add, hm, hn, List.replicate_succ]; rfl⟩

/-- No bank is started more than `MAX_BOOT_ATTEMPTS` times in a row. -/
def AtMostThreeInARow (boot : BootConfig → BootRecord) (cfg : BootConfig) : Prop :=
  ∀ n bank, ¬ List.replicate (maxBootAttempts.toNat + 1) bank <:+: startedApps boot n cfg

theorem not_atMostThree_of_starts {P : BootConfig → Prop}
    (hagain : ∀ cfg, P cfg → Starts boot bank P cfg) (hfirst : Starts boot bank P cfg) :
    ¬ AtMostThreeInARow boot cfg := by
  obtain ⟨m, -, hP⟩ := hfirst
  obtain ⟨n, hn⟩ := starts_replicate hagain hP (maxBootAttempts.toNat + 1)
  intro hlimit
  refine hlimit (m + n) bank ?_
  rw [startedApps_add, hn]
  exact (List.suffix_append _ _).isInfix

theorem atMostThree_of_none (hnone : ∀ cfg, (boot cfg).app = none) (cfg : BootConfig) :
    AtMostThreeInARow boot cfg := by
  have hempty : ∀ n cfg, startedApps boot n cfg = [] := by
    intro n
    induction n with
    | zero => exact fun _ => rfl
    | succ n ih => intro cfg; rw [startedApps, hnone, ih]; rfl
  intro n bank hrow
  rw [hempty, List.infix_nil] at hrow
  cases hrow

end Starts

variable {env : BootEnv} {cfg : BootConfig} {bank : BootBank}

/-! ## The end-node ECU -/

namespace EndNode

theorem starts_of_finishes {n : ℕ} {Q : BootBank × BootConfig → Prop}
    (h : Finishes (bootStages env) n cfg Q) :
    ∃ r, Q r ∧ Starts (boot env) r.1 (fun t => t = r.2) cfg := by
  induction n generalizing cfg with
  | zero => exact absurd h id
  | succ n ih =>
    cases hstages : bootStages env cfg with
    | restart cfg' =>
      rw [Finishes, hstages] at h
      obtain ⟨happ, hconfig⟩ := boot_of_restart hstages
      obtain ⟨r, hr, m, hm, hlast⟩ := ih h
      refine ⟨r, hr, m + 1, ?_, ?_⟩
      · rw [startedApps, happ, hconfig, hm]
        rfl
      · rw [configAfter, hconfig]
        exact hlast
    | finish r =>
      rw [Finishes, hstages] at h
      obtain ⟨happ, hconfig⟩ := boot_of_finish hstages
      refine ⟨r, h, 1, ?_, hconfig⟩
      rw [startedApps, happ]
      rfl

theorem appFresh_of_finish {r : BootBank × BootConfig} (hfinish : stage2Main env cfg = .finish r) :
    AppFresh r.1 r.2 := by
  obtain ⟨-, rfl⟩ := eq_of_stage2_finish hfinish
  refine ⟨?_, appCount_reset _ _⟩
  rw [stage2ReadActiveApp, appActive_stage2ResetAppBootCount, appActive_stage2IncrementAppBootCount]
  rfl

section Verified
variable (hsome : ∃ bank, Stage1Accepts env bank)
  (hverified : ∀ bank, stage2VerifyApplication env bank = true)
include hsome hverified

theorem starts_again (hf : AppFresh bank cfg) : Starts (boot env) bank (AppFresh bank) cfg := by
  have hfinishes : Finishes (bootStages env) (5 + 0) cfg fun r => r.1 = bank ∧ AppFresh r.1 r.2 := by
    refine finishes_bind (stage1_hands_over hsome cfg) ?_ ?_
    · intro p r hsame hfinish
      have hstarts := stage2_starts_fresh (hf.of_same hsame) (hverified bank)
      have hr := Outcome.finish.inj (hfinish.symm.trans hstarts)
      exact ⟨congrArg Prod.fst hr, appFresh_of_finish hfinish⟩
    · intro p s' hsame hrestart
      have hstarts := stage2_starts_fresh (hf.of_same hsame) (hverified bank)
      exact (Outcome.restart_not_finish hrestart hstarts).elim
  obtain ⟨r, ⟨rfl, hfresh⟩, m, hm, hlast⟩ := starts_of_finishes hfinishes
  exact ⟨m, hm, hlast ▸ hfresh⟩

theorem starts_first (cfg : BootConfig) : ∃ bank, Starts (boot env) bank (AppFresh bank) cfg := by
  have hfinishes : Finishes (bootStages env) 15 cfg fun r => AppFresh r.1 r.2 := by
    refine (starts_within_fifteen hsome ⟨.a, hverified .a⟩ cfg).of_invariant (I := fun _ => True)
      trivial (fun _ _ _ _ => trivial) ?_
    intro t r _ hfinish
    unfold bootStages at hfinish
    cases hfirst : stage1Main env t with
    | restart t' =>
      rw [hfirst] at hfinish
      cases hfinish
    | finish p =>
      rw [hfirst] at hfinish
      exact appFresh_of_finish hfinish
  obtain ⟨r, hfresh, m, hm, hlast⟩ := starts_of_finishes hfinishes
  exact ⟨r.1, m, hm, hlast ▸ hfresh⟩

end Verified

theorem app_eq_none (hnone : ¬ ∃ bank, Stage1Accepts env bank) (cfg : BootConfig) :
    (boot env cfg).app = none := by
  rcases stage1_cases env cfg with ⟨haccepts, -⟩ | hrestart
  · exact absurd ⟨_, haccepts⟩ hnone
  · rw [boot, hrestart]

end EndNode

/-! ## The zonal gateway -/

namespace Zonal

/-- Stage 2 will read `bank` behind the startup software, with no failed boot counted against it and
no update pending. -/
structure AppFresh (bank : BootBank) (cfg : BootConfig) : Prop where
  active : bankOf cfg.appActive = bank
  count : stage2GetAppBootCount cfg bank = 0
  idle : cfg.otaPending = 0

theorem AppFresh.of_same {cfg' : BootConfig} (hf : AppFresh bank cfg) (hsame : SameApps cfg cfg') :
    AppFresh bank cfg' where
  active := hsame.active ▸ hf.active
  count := (hsame.count bank).trans hf.count
  idle := hsame.otaPending.trans hf.idle

section Verified
variable (hsome : ∃ bank, stage1VerifyStage2 env (stage2Meta bank) = true)
  (hverified : ∀ bank, stage2VerifyApp env (appMeta bank) = true)
include hsome hverified

/-- One boot of a controller without a pending update: the active bank is started, or the other one
is active afterwards. -/
theorem boot_cases (hidle : cfg.otaPending = 0) :
    ((boot env cfg).app = some (bankOf cfg.appActive) ∧
      AppFresh (bankOf cfg.appActive) (boot env cfg).config) ∨
    (stage2GetAppBootCount cfg (bankOf cfg.appActive) ≠ 0 ∧ (boot env cfg).app = none ∧
      AppFresh (bankOf cfg.appActive).other (boot env cfg).config) := by
  obtain ⟨bank, cfg', hjump, hsame, hcrc⟩ := start_hands_over hsome cfg
  have hidle' : cfg'.otaPending = 0 := hsame.otaPending.trans hidle
  have hread : stage2ReadActiveApp env cfg' = bankOf cfg.appActive := by
    rw [stage2ReadActiveApp, if_pos hcrc, hsame.active]
  by_cases hcount : stage2GetAppBootCount cfg' (bankOf cfg.appActive) + 1 < maxBootAttempts
  · left
    have hstarts := stage2_starts (idle_of_zero hidle') hread hcount (hverified _)
    rw [boot, hjump]
    dsimp only
    rw [hstarts]
    refine ⟨rfl, ?_, appCount_reset _ _, ?_⟩
    · rw [appActive_stage2ResetAppBootCount, appActive_stage2IncrementAppBootCount, hsame.active]
    · rw [otaPending_stage2ResetAppBootCount, otaPending_stage2IncrementAppBootCount, hidle']
  · right
    have hrestart := stage2_falls_back (idle_of_zero hidle') hread fun h => hcount h.1
    obtain ⟨hactive, hzero, hota⟩ :=
      switchApp_fresh env (stage2IncrementAppBootCount env cfg' (bankOf cfg.appActive))
    rw [appActive_stage2IncrementAppBootCount, hsame.active] at hactive hzero
    rw [boot, hjump]
    dsimp only
    rw [hrestart]
    refine ⟨?_, rfl, hactive, hzero, ?_⟩
    · intro h
      exact hcount (EndNode.one_lt_maxBootAttempts ((hsame.count _).trans h))
    · rw [hota, otaPending_stage2IncrementAppBootCount, hidle']

theorem starts_again (hf : AppFresh bank cfg) : Starts (boot env) bank (AppFresh bank) cfg := by
  obtain ⟨rfl, hcount, hidle⟩ := hf
  rcases boot_cases hsome hverified hidle with ⟨happ, hfresh⟩ | ⟨hnonzero, -⟩
  · exact ⟨1, by rw [startedApps, happ]; rfl, hfresh⟩
  · exact absurd hcount hnonzero

theorem starts_first (hidle : cfg.otaPending = 0) :
    ∃ bank, Starts (boot env) bank (AppFresh bank) cfg := by
  rcases boot_cases hsome hverified hidle with ⟨happ, hfresh⟩ | ⟨-, happ, hfresh⟩
  · exact ⟨_, 1, by rw [startedApps, happ]; rfl, hfresh⟩
  · obtain ⟨m, hm, hlast⟩ := starts_again hsome hverified hfresh
    exact ⟨_, m + 1, by rw [startedApps, happ, hm]; rfl, hlast⟩

end Verified

theorem app_eq_none (hnone : ¬ ∃ bank, stage1VerifyStage2 env (stage2Meta bank) = true)
    (cfg : BootConfig) : (boot env cfg).app = none := by
  obtain ⟨cfg', -, -, ⟨bank, -, hverified⟩ | ⟨hsafe, -⟩⟩ := start_cases env cfg
  · exact absurd ⟨bank, hverified⟩ hnone
  · rw [boot, hsafe]

end Zonal

/-! ## Boot-loop protection -/

/-- **Boot loops.** With two applications that verify, on either node and from any configuration
without a pending update: no bank is started more than three times in a row exactly when no Stage 2
bank passes its check, so that no application is started at all. -/
theorem atMostThreeInARow_iff (env : BootEnv) (cfg : BootConfig) :
    ((∀ bank, EndNode.stage2VerifyApplication env bank = true) →
      (AtMostThreeInARow (EndNode.boot env) cfg ↔ ¬ ∃ bank, EndNode.Stage1Accepts env bank)) ∧
    ((∀ bank, Zonal.stage2VerifyApp env (appMeta bank) = true) → cfg.otaPending = 0 →
      (AtMostThreeInARow (Zonal.boot env) cfg ↔
        ¬ ∃ bank, Zonal.stage1VerifyStage2 env (stage2Meta bank) = true)) := by
  constructor
  · intro hverified
    refine ⟨fun hlimit hsome => ?_, fun hnone => atMostThree_of_none (EndNode.app_eq_none hnone) cfg⟩
    obtain ⟨bank, hfirst⟩ := EndNode.starts_first hsome hverified cfg
    exact not_atMostThree_of_starts (fun _ => EndNode.starts_again hsome hverified) hfirst hlimit
  · intro hverified hidle
    refine ⟨fun hlimit hsome => ?_, fun hnone => atMostThree_of_none (Zonal.app_eq_none hnone) cfg⟩
    obtain ⟨bank, hfirst⟩ := Zonal.starts_first hsome hverified hidle
    exact not_atMostThree_of_starts (fun _ => Zonal.starts_again hsome hverified) hfirst hlimit

theorem atMostThreeInARow_without_stage2 :
    AtMostThreeInARow (EndNode.boot (envWith [appMeta .a, appMeta .b])) (cleanConfig (envWith [])) ∧
    AtMostThreeInARow (Zonal.boot (envWith [appMeta .a, appMeta .b])) (cleanConfig (envWith [])) := by
  have hiff := atMostThreeInARow_iff (envWith [appMeta .a, appMeta .b]) (cleanConfig (envWith []))
  refine ⟨(hiff.1 ?_).mpr ?_, (hiff.2 ?_ rfl).mpr ?_⟩
  · intro bank
    cases bank <;> decide
  · rintro ⟨bank, hmagic, -⟩
    cases bank <;> exact absurd hmagic (by decide)
  · intro bank
    cases bank <;> decide
  · rintro ⟨bank, hbank⟩
    cases bank <;> exact absurd hbank (by decide)

/-- Four good images and a clean configuration: on both nodes, an application that resets is started
without end. -/
theorem bootLoop_unprotected : ∃ env cfg, CrcValid env cfg ∧ cfg.otaPending = 0 ∧
    (∀ bank, EndNode.stage2VerifyApplication env bank = true ∧
      Zonal.stage2VerifyApp env (appMeta bank) = true) ∧
    ¬ AtMostThreeInARow (EndNode.boot env) cfg ∧ ¬ AtMostThreeInARow (Zonal.boot env) cfg := by
  let env := envWith [stage2Meta .a, stage2Meta .b, appMeta .a, appMeta .b]
  have happ : ∀ bank, EndNode.stage2VerifyApplication env bank = true := by
    intro bank
    cases bank <;> decide
  have happ' : ∀ bank, Zonal.stage2VerifyApp env (appMeta bank) = true := by
    intro bank
    cases bank <;> decide
  have hstage2 : ∃ bank, EndNode.Stage1Accepts env bank := ⟨.a, by decide, by decide⟩
  have hstage2' : ∃ bank, Zonal.stage1VerifyStage2 env (stage2Meta bank) = true := ⟨.a, by decide⟩
  have hfresh : EndNode.AppFresh .a (cleanConfig env) := ⟨rfl, rfl⟩
  have hfresh' : Zonal.AppFresh .a (cleanConfig env) := ⟨rfl, rfl, rfl⟩
  refine ⟨env, cleanConfig env, crcValid_updateCrc _, rfl, fun bank => ⟨happ bank, happ' bank⟩, ?_, ?_⟩
  · exact not_atMostThree_of_starts (fun _ => EndNode.starts_again hstage2 happ)
      (EndNode.starts_again hstage2 happ hfresh)
  · exact not_atMostThree_of_starts (fun _ => Zonal.starts_again hstage2' happ')
      (Zonal.starts_again hstage2' happ' hfresh')

end Mcus.Boot
