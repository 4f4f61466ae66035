import Mcus.Boot.ConfigIntegrity

/-! # Where a fallback of Stage 1 leads

`stage1_switch_to_fallback` toggles the stored selector, computes the CRC, and then clears the count
of the new bank behind it. A record that fails the check sends Stage 1 to bank A, so the next boot
tries bank B only if clearing the count changed nothing, and never if the fallback started from a
corrupted record that named bank B.
-/

namespace Mcus.Boot.EndNode
open Checksum Restart
set_option autoImplicit false

variable {env : BootEnv} {cfg next : BootConfig}

/-! ## What Stage 1 reads -/

theorem readActive_of_bank_a (hbank : bankOf cfg.stage2Active = .a) :
    stage1ReadActiveStage2 env cfg = .a := by
  unfold stage1ReadActiveStage2
  split
  · exact hbank
  · rfl

theorem readActive_b_iff : stage1ReadActiveStage2 env cfg = .b ↔
    CrcValid env cfg ∧ bankOf cfg.stage2Active = .b := by
  unfold stage1ReadActiveStage2
  by_cases hcrc : CrcValid env cfg <;> simp [hcrc]

/-! ## The fallback -/

/-- The boot tries bank B, or the selector names bank A and no boot of bank B is counted. -/
def FallbackReachesOther (env : BootEnv) (cfg : BootConfig) : Prop :=
  stage1ReadActiveStage2 env cfg = .b ∨
    (bankOf cfg.stage2Active = .a ∧ stage1GetBootCount cfg .b = 0)

theorem bank_of_restart (hrestart : stage1Main env cfg = .restart next) :
    bankOf next.stage2Active = (bankOf cfg.stage2Active).other := by
  rw [eq_of_stage1_restart hrestart, fallback_bank, stage2Active_stage1IncrementBootCount]

/-- Bank A was tried and is the stored bank: the new record passes the check exactly when no boot of
bank B was counted. -/
theorem crcValid_of_restart_iff (hdetects : Detects env.calculateCrc32)
    (hrestart : stage1Main env cfg = .restart next) (hbank : bankOf cfg.stage2Active = .a) :
    CrcValid env next ↔ stage1GetBootCount cfg .b = 0 := by
  have hread : stage1ReadActiveStage2 env cfg = .a := readActive_of_bank_a hbank
  have hother : (bankOf (stage1IncrementBootCount env cfg .a).stage2Active).other = .b := by
    rw [stage2Active_stage1IncrementBootCount, hbank]
    rfl
  have hcount : stage1GetBootCount (stage1IncrementBootCount env cfg .a) .b =
      stage1GetBootCount cfg .b := bootCount_increment_other cfg .a
  rw [eq_of_stage1_restart hrestart, hread]
  constructor
  · intro hvalid
    have hzero := fallback_count_zero hdetects hvalid
    rw [hother, hcount] at hzero
    exact hzero
  · intro hzero
    refine fallback_crcValid ?_
    rw [hother, hcount]
    exact hzero

/-- **A fallback changes the bank.** The boot behind a fallback tries the other bank exactly when the
fallback gave up bank B, or gave up bank A as the stored bank with no boot of bank B counted. -/
theorem fallback_changes_bank_iff (hdetects : Detects env.calculateCrc32)
    (hrestart : stage1Main env cfg = .restart next) :
    stage1ReadActiveStage2 env next = (stage1ReadActiveStage2 env cfg).other ↔
      FallbackReachesOther env cfg := by
  have hnext := bank_of_restart hrestart
  unfold FallbackReachesOther
  cases hread : stage1ReadActiveStage2 env cfg with
  | b =>
    have hstored : bankOf cfg.stage2Active = .b := (readActive_b_iff.mp hread).2
    rw [hstored] at hnext
    exact ⟨fun _ => Or.inl rfl, fun _ => readActive_of_bank_a hnext⟩
  | a =>
    have hcrc := crcValid_of_restart_iff hdetects hrestart
    show stage1ReadActiveStage2 env next = .b ↔ _
    rw [readActive_b_iff, hnext]
    cases hstored : bankOf cfg.stage2Active with
    | a => simp [BootBank.other, hcrc hstored]
    | b => simp [BootBank.other]

/-- No bank is bootable, the record is clean and names bank A. -/
theorem fallback_changes_bank_clean :
    stage1ReadActiveStage2 (envWith []) (stage1SwitchToFallback (envWith [])
      (stage1IncrementBootCount (envWith []) (cleanConfig (envWith [])) .a)) =
        (stage1ReadActiveStage2 (envWith []) (cleanConfig (envWith []))).other ↔
      FallbackReachesOther (envWith []) (cleanConfig (envWith [])) :=
  fallback_changes_bank_iff crc32_detects (by decide +kernel)

/-- The record names bank A, which is not bootable, and counts one failed boot of bank B. -/
theorem fallback_retries_bank :
    ¬ ∀ (env : BootEnv) (cfg next : BootConfig), stage1Main env cfg = .restart next →
      stage1ReadActiveStage2 env next = (stage1ReadActiveStage2 env cfg).other := by
  intro hchanges
  let env := envWith []
  let cfg := updateCrc env ⟨0, 0, 1, 0, 0, 0, 0, Vector.replicate 9 0, 0⟩
  have hrestart : stage1Main env cfg =
      .restart (stage1SwitchToFallback env (stage1IncrementBootCount env cfg .a)) := by
    decide +kernel
  exact absurd (hchanges env cfg _ hrestart) (by decide +kernel)

end Mcus.Boot.EndNode
