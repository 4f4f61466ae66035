import Mcus.Boot.EndNode

/-! # The end-node ECU recovers

Whatever the configuration holds, Stage 1 reaches a bank it accepts within five boots: a fallback
leaves the new bank with a count of zero, so the bank is given up at most once more, and a stale CRC
only sends Stage 1 to bank A in between. Stage 2 needs three passes: a bank it falls back to starts
with a count of zero and is started unless it fails verification.
-/

namespace Mcus.Boot.EndNode
open Restart
set_option autoImplicit false

variable {env : BootEnv} {cfg : BootConfig} {bank : BootBank}

theorem one_lt_maxBootAttempts {count : UInt8} (hzero : count = 0) : count + 1 < maxBootAttempts := by
  rw [hzero]
  decide

/-! ## Stage 1 -/

/-- Stage 1 will read `bank`, with no failed boot counted against it. -/
structure Settled (env : BootEnv) (bank : BootBank) (cfg : BootConfig) : Prop where
  stored : bankOf cfg.stage2Active = bank
  count : stage1GetBootCount cfg bank = 0
  read : CrcValid env cfg ∨ bank = .a

theorem Settled.readActive (hs : Settled env bank cfg) : stage1ReadActiveStage2 env cfg = bank := by
  unfold stage1ReadActiveStage2
  split
  case isTrue => exact hs.stored
  case isFalse hcrc => exact (hs.read.resolve_left hcrc).symm

abbrev Stage1Within (env : BootEnv) (n : ℕ) (cfg : BootConfig) : Prop :=
  Finishes (stage1Main env) n cfg fun _ => True

theorem within_of_settled (hs : Settled env bank cfg) (haccepts : Stage1Accepts env bank) :
    Stage1Within env 1 cfg :=
  finishes_of_finish (stage1_jumps hs.readActive (one_lt_maxBootAttempts hs.count) haccepts) trivial

/-- What a fallback leaves when `bank` was the selected bank. -/
structure FallenBack (env : BootEnv) (cfg : BootConfig) (bank : BootBank) (cfg' : BootConfig) : Prop where
  stored : bankOf cfg'.stage2Active = bank.other
  count : stage1GetBootCount cfg' bank.other = 0
  left : stage1ReadActiveStage2 env cfg = bank.other →
    stage1GetBootCount cfg' bank = stage1GetBootCount cfg bank
  crc : stage1ReadActiveStage2 env cfg = bank → stage1GetBootCount cfg bank.other = 0 →
    CrcValid env cfg'

theorem fallenBack_of_restart {cfg' : BootConfig} (hbank : bankOf cfg.stage2Active = bank)
    (hs : stage1Main env cfg = .restart cfg') : FallenBack env cfg bank cfg' := by
  obtain rfl := eq_of_stage1_restart hs
  have hsame : ∀ read, bankOf (stage1IncrementBootCount env cfg read).stage2Active = bank :=
    fun read => by rw [stage2Active_stage1IncrementBootCount, hbank]
  constructor
  · rw [fallback_bank, hsame]
  · rw [← hsame (stage1ReadActiveStage2 env cfg)]
    exact fallback_count env _
  · intro hother
    have hleft := fallback_count_left env (stage1IncrementBootCount env cfg bank.other)
    have hkeep := @bootCount_increment_other env cfg bank.other
    rw [BootBank.other_other] at hkeep
    rw [hsame] at hleft
    rw [hother, hleft, hkeep]
  · intro hread hzero
    refine fallback_crcValid ?_
    rw [hsame, hread, bootCount_increment_other, hzero]

theorem not_accepts_of_restart {cfg' : BootConfig} (hs : Settled env bank cfg)
    (hrestart : stage1Main env cfg = .restart cfg') : ¬ Stage1Accepts env bank := by
  intro haccepts
  have hjump := stage1_jumps hs.readActive (one_lt_maxBootAttempts hs.count) haccepts
  exact Outcome.restart_not_finish hrestart hjump

section Banks
variable (hsome : ∃ bank, Stage1Accepts env bank)
include hsome

theorem accepts_other (hnot : ¬ Stage1Accepts env bank) : Stage1Accepts env bank.other := by
  obtain ⟨bank', haccepts⟩ := hsome
  rcases bank.eq_or_other bank' with rfl | rfl
  · exact absurd haccepts hnot
  · exact haccepts

theorem within_two_of_settled_a (hs : Settled env .a cfg) (hb : stage1GetBootCount cfg .b = 0) :
    Stage1Within env 2 cfg := by
  refine finishes_of_cases (fun _ _ => trivial) ?_
  intro cfg' hrestart
  have hfallen := fallenBack_of_restart hs.stored hrestart
  exact within_of_settled ⟨hfallen.stored, hfallen.count, Or.inl (hfallen.crc hs.readActive hb)⟩
    (accepts_other hsome (not_accepts_of_restart hs hrestart))

/-- Bank B settled: two boots, for bank A is read whatever the CRC. -/
theorem within_two_of_settled_b (hs : Settled env .b cfg) : Stage1Within env 2 cfg := by
  refine finishes_of_cases (fun _ _ => trivial) ?_
  intro cfg' hrestart
  have hfallen := fallenBack_of_restart hs.stored hrestart
  exact within_of_settled ⟨hfallen.stored, hfallen.count, Or.inr rfl⟩
    (accepts_other hsome (not_accepts_of_restart hs hrestart))

/-- Bank B fallen back to: at most three boots, one of them astray in bank A. -/
theorem within_three_of_fallen_to_b (hstored : bankOf cfg.stage2Active = .b)
    (hcount : stage1GetBootCount cfg .b = 0) : Stage1Within env 3 cfg := by
  by_cases hcrc : CrcValid env cfg
  · exact (within_two_of_settled_b hsome ⟨hstored, hcount, Or.inl hcrc⟩).mono (by decide)
  · have hread : stage1ReadActiveStage2 env cfg = .a := if_neg hcrc
    refine finishes_of_cases (fun _ _ => trivial) ?_
    intro cfg' hrestart
    have hfallen := fallenBack_of_restart hstored hrestart
    exact within_two_of_settled_a hsome ⟨hfallen.stored, hfallen.count, Or.inr rfl⟩
      ((hfallen.left hread).trans hcount)

theorem within_four_of_fallenBack {cfg' : BootConfig} (hfallen : FallenBack env cfg bank cfg') :
    Stage1Within env 4 cfg' := by
  cases bank with
  | a => exact (within_three_of_fallen_to_b hsome hfallen.stored hfallen.count).mono (by decide)
  | b =>
    have hsettled : Settled env .a cfg' := ⟨hfallen.stored, hfallen.count, Or.inr rfl⟩
    refine finishes_of_cases (fun _ _ => trivial) ?_
    intro cfg'' hrestart
    have hagain := fallenBack_of_restart hsettled.stored hrestart
    exact within_three_of_fallen_to_b hsome hagain.stored hagain.count

/-- From any configuration, Stage 1 jumps to a bank it accepts within five boots. -/
theorem stage1_within_five (cfg : BootConfig) : Stage1Within env 5 cfg := by
  refine finishes_of_cases (fun _ _ => trivial) ?_
  intro cfg' hrestart
  exact within_four_of_fallenBack hsome (fallenBack_of_restart rfl hrestart)

end Banks

/-! ## Stage 2 behind Stage 1 -/

theorem sameApps_of_restart {cfg' : BootConfig} (hrestart : stage1Main env cfg = .restart cfg') :
    SameApps cfg cfg' := by
  obtain rfl := eq_of_stage1_restart hrestart
  exact (sameApps_stage1IncrementBootCount cfg _).trans (fallback_sameApps env _)

theorem sameApps_of_finish {p : BootBank × BootConfig} (hfinish : stage1Main env cfg = .finish p) :
    SameApps cfg p.2 := by
  obtain rfl := eq_of_stage1_finish hfinish
  exact (sameApps_stage1IncrementBootCount cfg _).trans (sameApps_stage1ResetBootCount _ _)

def bootStages (env : BootEnv) (cfg : BootConfig) : Outcome BootConfig (BootBank × BootConfig) :=
  (stage1Main env cfg).bind fun p => stage2Main env p.2

abbrev StartsWithin (env : BootEnv) (n : ℕ) (cfg : BootConfig) : Prop :=
  Finishes (bootStages env) n cfg fun r => stage2VerifyApplication env r.1 = true

structure AppFresh (bank : BootBank) (cfg : BootConfig) : Prop where
  read : stage2ReadActiveApp cfg = bank
  count : stage2GetAppBootCount cfg bank = 0

theorem AppFresh.of_same {cfg' : BootConfig} (hf : AppFresh bank cfg) (hsame : SameApps cfg cfg') :
    AppFresh bank cfg' where
  read := by rw [← hf.read, stage2ReadActiveApp, stage2ReadActiveApp, hsame.active]
  count := (hsame.count bank).trans hf.count

theorem stage2_starts_fresh (hf : AppFresh bank cfg)
    (hverified : stage2VerifyApplication env bank = true) : stage2Main env cfg =
      .finish (bank, stage2ResetAppBootCount env (stage2IncrementAppBootCount env cfg bank) bank) :=
  stage2_starts hf.read (one_lt_maxBootAttempts hf.count) hverified

theorem verified_of_finish {r : BootBank × BootConfig} (hfinish : stage2Main env cfg = .finish r) :
    stage2VerifyApplication env r.1 = true := by
  obtain ⟨hverified, rfl⟩ := eq_of_stage2_finish hfinish
  exact hverified

theorem appFresh_of_restart {cfg' : BootConfig} (hrestart : stage2Main env cfg = .restart cfg') :
    AppFresh (stage2ReadActiveApp cfg).other cfg' := by
  obtain rfl := eq_of_stage2_restart hrestart
  have hsame : stage2ReadActiveApp (stage2IncrementAppBootCount env cfg (stage2ReadActiveApp cfg)) =
      stage2ReadActiveApp cfg := by
    rw [stage2ReadActiveApp, appActive_stage2IncrementAppBootCount]
    rfl
  refine ⟨by rw [fallbackApp_bank, hsame], ?_⟩
  have hcount := @fallbackApp_count env (stage2IncrementAppBootCount env cfg (stage2ReadActiveApp cfg))
  rwa [hsame] at hcount

theorem stage1_hands_over (hsome : ∃ bank, Stage1Accepts env bank) (cfg : BootConfig) :
    Finishes (stage1Main env) 5 cfg fun p => SameApps cfg p.2 :=
  (stage1_within_five hsome cfg).of_invariant (I := fun t => SameApps cfg t) (.refl cfg)
    (fun _ _ hsame hrestart => hsame.trans (sameApps_of_restart hrestart))
    (fun _ _ hsame hfinish => hsame.trans (sameApps_of_finish hfinish))

section Apps
variable (hsome : ∃ bank, Stage1Accepts env bank)
include hsome

theorem startsWithin_round {n : ℕ} (cfg : BootConfig)
    (hrestart : ∀ t t', SameApps cfg t → stage2Main env t = .restart t' → StartsWithin env n t') :
    StartsWithin env (5 + n) cfg :=
  finishes_bind (stage1_hands_over hsome cfg) (fun _ _ _ hfinish => verified_of_finish hfinish)
    (fun p s' hsame hs' => hrestart p.2 s' hsame hs')

theorem startsWithin_of_verified (hf : AppFresh bank cfg)
    (hverified : stage2VerifyApplication env bank = true) : StartsWithin env 5 cfg := by
  refine startsWithin_round (n := 0) hsome cfg ?_
  intro t t' hsame hrestart
  exact (Outcome.restart_not_finish hrestart (stage2_starts_fresh (hf.of_same hsame) hverified)).elim

theorem starts_within_fifteen (happ : ∃ bank, stage2VerifyApplication env bank = true)
    (cfg : BootConfig) : StartsWithin env 15 cfg := by
  refine startsWithin_round (n := 10) hsome cfg ?_
  intro t t' _ hrestart
  have hfresh := appFresh_of_restart hrestart
  generalize (stage2ReadActiveApp t).other = bank at hfresh
  by_cases hverified : stage2VerifyApplication env bank = true
  · exact (startsWithin_of_verified hsome hfresh hverified).mono (by decide)
  -- the bank fallen back to fails too, so the other one is verified
  refine startsWithin_round (n := 5) hsome t' ?_
  intro u u' hsame hagain
  have hother : stage2VerifyApplication env bank.other = true := by
    obtain ⟨bank', hbank'⟩ := happ
    rcases bank.eq_or_other bank' with rfl | rfl
    · exact absurd hbank' hverified
    · exact hbank'
  have hfresh' := appFresh_of_restart hagain
  rw [(hfresh.of_same hsame).read] at hfresh'
  exact startsWithin_of_verified hsome hfresh' hother

end Apps

/-! ## Boot by boot -/

theorem boot_jumps_checked (env : BootEnv) (cfg : BootConfig) :
    (∀ bank, (boot env cfg).stage2 = some bank → Stage1Accepts env bank) ∧
    ∀ app, (boot env cfg).app = some app → stage2VerifyApplication env app = true := by
  unfold boot
  rcases stage1_cases env cfg with ⟨haccepts, hfinish⟩ | hrestart
  · rw [hfinish]
    dsimp only
    cases hstage2 : stage2Main env _ with
    | restart cfg' =>
      refine ⟨?_, fun app happ => by cases happ⟩
      intro bank hbank
      exact Option.some.inj hbank ▸ haccepts
    | finish r =>
      refine ⟨?_, ?_⟩
      · intro bank hbank
        exact Option.some.inj hbank ▸ haccepts
      · intro app happ
        exact Option.some.inj happ ▸ verified_of_finish hstage2
  · rw [hrestart]
    constructor
    · intro bank hbank
      cases hbank
    · intro app happ
      cases happ

theorem boot_of_restart {cfg' : BootConfig} (h : bootStages env cfg = .restart cfg') :
    (boot env cfg).app = none ∧ (boot env cfg).config = cfg' := by
  unfold bootStages at h
  unfold boot
  cases hfirst : stage1Main env cfg with
  | restart t =>
    rw [hfirst] at h
    exact ⟨rfl, Outcome.restart.inj h⟩
  | finish p =>
    rw [hfirst] at h
    have hsecond : stage2Main env p.2 = .restart cfg' := h
    dsimp only
    rw [hsecond]
    exact ⟨rfl, rfl⟩

theorem boot_of_finish {r : BootBank × BootConfig} (h : bootStages env cfg = .finish r) :
    (boot env cfg).app = some r.1 ∧ (boot env cfg).config = r.2 := by
  unfold bootStages at h
  unfold boot
  cases hfirst : stage1Main env cfg with
  | restart t =>
    rw [hfirst] at h
    cases h
  | finish p =>
    rw [hfirst] at h
    have hsecond : stage2Main env p.2 = .finish r := h
    dsimp only
    rw [hsecond]
    exact ⟨rfl, rfl⟩

theorem bootRun_ends {n : ℕ} (h : StartsWithin env n cfg) :
    ∃ record app, (bootRun env n cfg).getLast? = some record ∧ record.app = some app ∧
      stage2VerifyApplication env app = true := by
  induction n generalizing cfg with
  | zero => exact absurd h id
  | succ n ih =>
    cases hstages : bootStages env cfg with
    | restart cfg' =>
      rw [StartsWithin, Finishes, hstages] at h
      obtain ⟨happ, hconfig⟩ := boot_of_restart hstages
      obtain ⟨record, app, hlast, hrecord, hverified⟩ := ih h
      refine ⟨record, app, ?_, hrecord, hverified⟩
      rw [bootRun]
      simp only [happ, hconfig, Option.isSome_none, Bool.false_eq_true, if_false]
      rw [List.getLast?_cons, hlast]
      rfl
    | finish r =>
      rw [StartsWithin, Finishes, hstages] at h
      have happ := (boot_of_finish hstages).1
      refine ⟨boot env cfg, r.1, ?_, happ, h⟩
      rw [bootRun]
      simp [happ]

theorem mem_bootRun {n : ℕ} {record : BootRecord} (h : record ∈ bootRun env n cfg) :
    ∃ t, record = boot env t := by
  induction n generalizing cfg with
  | zero => exact absurd h List.not_mem_nil
  | succ n ih =>
    rw [bootRun] at h
    split at h
    case isTrue => exact ⟨cfg, List.mem_singleton.mp h⟩
    case isFalse =>
      rcases List.mem_cons.mp h with rfl | h
      · exact ⟨cfg, rfl⟩
      · exact ih h

/-- **Recovery.** With one good image in each stage, at most twenty boots lead from any
configuration to a verified application, and none of them jumps to an image that fails its check. -/
theorem ecu_recovers (env : BootEnv) (cfg : BootConfig) (hstage2 : ∃ bank, Stage1Accepts env bank)
    (happ : ∃ bank, stage2VerifyApplication env bank = true) :
    (∃ record app, (bootRun env 20 cfg).getLast? = some record ∧ record.app = some app ∧
      stage2VerifyApplication env app = true) ∧
    ∀ record ∈ bootRun env 20 cfg, (∀ bank, record.stage2 = some bank → Stage1Accepts env bank) ∧
      ∀ app, record.app = some app → stage2VerifyApplication env app = true := by
  constructor
  · exact bootRun_ends ((starts_within_fifteen hstage2 happ cfg).mono (by decide))
  · intro record hrecord
    obtain ⟨t, rfl⟩ := mem_bootRun hrecord
    exact boot_jumps_checked env t

/-- Only Stage 2 bank B and application bank B are good, and the CRC of the configuration is not. -/
theorem ecu_recovers_in_bank_b :
    ∃ record app, (bootRun (envWith [stage2Meta .b, appMeta .b]) 20
      ⟨1, 2, 7, 0, 255, 9, 0, Vector.replicate 9 0, 0⟩).getLast? = some record ∧
      record.app = some app ∧ stage2VerifyApplication (envWith [stage2Meta .b, appMeta .b]) app = true :=
  (ecu_recovers (envWith [stage2Meta .b, appMeta .b]) _ ⟨.b, by decide, by decide⟩
    ⟨.b, by decide⟩).1

end Mcus.Boot.EndNode
