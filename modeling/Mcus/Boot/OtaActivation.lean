import Mathlib.Algebra.Group.Nat.Even
import Mcus.Boot.Zonal

/-! # Power losses while an update is activated

`stage2_process_ota` changes the configuration by five stores. The first one flips the active
application, and the fourth one clears the pending flag. A power loss between the two makes the next
boot flip the selector once more, whatever became of the CRC: the startup software computes it again
before Stage 2 looks at the record.
-/

namespace Mcus.Boot.Zonal
set_option autoImplicit false

/-- The stores of `stage2_process_ota` to the configuration: those of `stage2_switch_app`, then those
of `stage2_clear_ota_pending`. -/
def otaStores (env : BootEnv) : List (BootConfig → BootConfig) :=
  [fun cfg => { cfg with appActive := toggle cfg.appActive },
    updateCrc env,
    fun cfg => if cfg.appActive = 0 then { cfg with appBootCntA := 0 } else { cfg with appBootCntB := 0 },
    fun cfg => { cfg with otaPending := 0 },
    updateCrc env]

/-- The record when the power is lost behind `k` of the stores. -/
def processOtaUpTo (env : BootEnv) (k : ℕ) (cfg : BootConfig) : BootConfig :=
  ((otaStores env).take k).foldl (fun cfg store => store cfg) cfg

/-- A boot from `_start` on that loses power behind `k` of the stores. -/
def bootUpTo (env : BootEnv) (k : ℕ) (cfg : BootConfig) : BootConfig :=
  match start env cfg with
  | .safeMode cfg => cfg
  | .jump _ cfg => if stage2CheckOtaPending cfg then processOtaUpTo env k cfg else cfg

/-- Boots until no update is pending: one for each power loss listed, and one that is left alone. -/
def bootsUntilActivated (env : BootEnv) : List ℕ → BootConfig → BootConfig
  | [], cfg => if cfg.otaPending = 0 then cfg else (boot env cfg).config
  | k :: ks, cfg => if cfg.otaPending = 0 then cfg else bootsUntilActivated env ks (bootUpTo env k cfg)

variable {env : BootEnv} {cfg : BootConfig} {k : ℕ}

/-! ## One interrupted run -/

/-- The stores are those of the modelled function. -/
theorem processOtaUpTo_all (hk : 5 ≤ k) : processOtaUpTo env k cfg = stage2ProcessOta env cfg := by
  have htake : (otaStores env).take k = otaStores env := List.take_of_length_le hk
  rw [processOtaUpTo, htake]
  rfl

theorem otaPending_processOtaUpTo (env : BootEnv) (cfg : BootConfig) (k : ℕ) :
    (processOtaUpTo env k cfg).otaPending = if k < 4 then cfg.otaPending else 0 := by
  match k with
  | 0 => rfl
  | 1 => rfl
  | 2 => rfl
  | 3 =>
    simp only [processOtaUpTo, otaStores, List.take_succ_cons, List.take_zero, List.foldl_cons,
      List.foldl_nil]
    split <;> rfl
  | 4 => rfl
  | k + 5 =>
    rw [processOtaUpTo_all (Nat.le_add_left 5 k), if_neg (by omega)]
    rfl

theorem appActive_stage2ProcessOta :
    (stage2ProcessOta env cfg).appActive = toggle cfg.appActive := by
  unfold stage2ProcessOta stage2ClearOtaPending stage2SwitchApp
  dsimp only
  split <;> rfl

theorem appActive_processOtaUpTo (env : BootEnv) (cfg : BootConfig) (k : ℕ) :
    (processOtaUpTo env k cfg).appActive = if k = 0 then cfg.appActive else toggle cfg.appActive := by
  match k with
  | 0 => rfl
  | 1 => rfl
  | 2 => rfl
  | 3 | 4 =>
    simp only [processOtaUpTo, otaStores, List.take_succ_cons, List.take_zero, List.foldl_cons,
      List.foldl_nil]
    split <;> rfl
  | k + 5 =>
    rw [processOtaUpTo_all (Nat.le_add_left 5 k), appActive_stage2ProcessOta, if_neg (by omega)]

theorem stage2CheckOtaPending_of_same {cfg' : BootConfig} (hsame : SameApps cfg cfg')
    (hpending : cfg.otaPending = 1) : stage2CheckOtaPending cfg' = true := by
  rw [stage2CheckOtaPending, hsame.otaPending, hpending]
  rfl

theorem bootUpTo_of_jump (hsome : ∃ bank, stage1VerifyStage2 env (stage2Meta bank) = true)
    (hpending : cfg.otaPending = 1) :
    ∃ cfg', SameApps cfg cfg' ∧ bootUpTo env k cfg = processOtaUpTo env k cfg' := by
  obtain ⟨bank, cfg', hjump, hsame, -⟩ := start_hands_over hsome cfg
  refine ⟨cfg', hsame, ?_⟩
  simp only [bootUpTo, hjump, stage2CheckOtaPending_of_same hsame hpending, if_true]

/-! ## Any number of power losses -/

/-- The power losses, up to the one behind the clearing of the flag, that come behind the flip. -/
def halfWritten (ks : List ℕ) : ℕ := (ks.takeWhile (· < 4)).countP (0 < ·)

theorem halfWritten_cons (k : ℕ) (ks : List ℕ) : halfWritten (k :: ks) =
    if 4 ≤ k then 0 else if k = 0 then halfWritten ks else halfWritten ks + 1 := by
  unfold halfWritten
  by_cases hk : k < 4
  · rw [List.takeWhile_cons_of_pos (by simpa using hk), List.countP_cons, if_neg (Nat.not_le.mpr hk)]
    cases k <;> simp
  · rw [List.takeWhile_cons_of_neg (by simpa using hk), if_pos (Nat.not_lt.mp hk)]
    rfl

/-- A boot without a pending update is the last one. -/
theorem bootsUntilActivated_of_done (ks : List ℕ) (hdone : cfg.otaPending = 0) :
    bootsUntilActivated env ks cfg = cfg := by
  cases ks with
  | nil => rw [bootsUntilActivated, if_pos hdone]
  | cons k ks => rw [bootsUntilActivated, if_pos hdone]

/-- From a pending update on, every such loss adds one flip. -/
theorem bootsUntilActivated_spec (hsome : ∃ bank, stage1VerifyStage2 env (stage2Meta bank) = true)
    (ks : List ℕ) (hpending : cfg.otaPending = 1) :
    (bootsUntilActivated env ks cfg).otaPending = 0 ∧
      (bootsUntilActivated env ks cfg).appActive = toggle^[halfWritten ks + 1] cfg.appActive := by
  have hnonzero : cfg.otaPending ≠ 0 := by simp [hpending]
  induction ks generalizing cfg with
  | nil =>
    obtain ⟨bank, cfg', hjump, hsame, -⟩ := start_hands_over hsome cfg
    have hboot : (boot env cfg).config = stage2ProcessOta env cfg' := by
      simp only [boot, hjump, stage2Main, stage2CheckOtaPending_of_same hsame hpending, if_true]
    rw [bootsUntilActivated, if_neg hnonzero, hboot]
    refine ⟨rfl, ?_⟩
    rw [appActive_stage2ProcessOta, hsame.active]
    rfl
  | cons k ks ih =>
    obtain ⟨cfg', hsame, hboot⟩ := bootUpTo_of_jump (k := k) hsome hpending
    have hota := otaPending_processOtaUpTo env cfg' k
    have happ := appActive_processOtaUpTo env cfg' k
    rw [hsame.otaPending] at hota
    rw [hsame.active] at happ
    rw [bootsUntilActivated, if_neg hnonzero, hboot, halfWritten_cons]
    generalize processOtaUpTo env k cfg' = next at hota happ ⊢
    by_cases hk : 4 ≤ k
    · rw [if_neg (Nat.not_lt.mpr hk)] at hota
      rw [if_neg (by omega)] at happ
      rw [bootsUntilActivated_of_done ks hota, if_pos hk]
      exact ⟨hota, happ⟩
    · rw [if_pos (Nat.not_le.mp hk), hpending] at hota
      obtain ⟨hzero, hactive⟩ := ih hota (by simp [hota])
      refine ⟨hzero, ?_⟩
      rw [hactive, happ, if_neg hk]
      split
      case isTrue => rfl
      case isFalse => rw [← Function.iterate_succ_apply]

theorem toggle_iterate_eq_iff (n : ℕ) (x : UInt8) : toggle^[n + 1] x = toggle x ↔ Even n := by
  have hthree : ∀ x, toggle (toggle (toggle x)) = toggle x := by
    intro x
    unfold toggle
    split <;> simp
  have htwo : ∀ x, toggle (toggle x) ≠ toggle x := by
    intro x
    unfold toggle
    split <;> simp
  have hstep : ∀ n, toggle^[n + 1] x = if Even n then toggle x else toggle (toggle x) := by
    intro n
    induction n with
    | zero => rfl
    | succ n ih =>
      rw [Function.iterate_succ_apply', ih]
      by_cases heven : Even n
      · rw [if_pos heven, if_neg (by rw [Nat.even_add_one]; exact not_not.mpr heven)]
      · rw [if_neg heven, if_pos (Nat.even_add_one.mpr heven), hthree]
  rw [hstep]
  split
  case isTrue heven => exact iff_of_true rfl heven
  case isFalse hodd => exact iff_of_false (htwo x) hodd

/-- Without a Stage 2 bank every boot ends in safe mode, and the update stays pending. -/
theorem bootsUntilActivated_safeMode (hnone : ¬ ∃ bank, stage1VerifyStage2 env (stage2Meta bank) = true)
    (ks : List ℕ) (hpending : cfg.otaPending = 1) :
    (bootsUntilActivated env ks cfg).otaPending = 1 := by
  have hnonzero : cfg.otaPending ≠ 0 := by simp [hpending]
  obtain ⟨cfg', hsame, -, ⟨bank, -, hbank⟩ | ⟨hsafe, -⟩⟩ := start_cases env cfg
  · exact absurd ⟨bank, hbank⟩ hnone
  induction ks generalizing cfg cfg' with
  | nil =>
    rw [bootsUntilActivated, if_neg hnonzero, boot, hsafe]
    exact hsame.otaPending.trans hpending
  | cons k ks ih =>
    have hpending' : cfg'.otaPending = 1 := hsame.otaPending.trans hpending
    have hboot : bootUpTo env k cfg = cfg' := by simp only [bootUpTo, hsafe]
    rw [bootsUntilActivated, if_neg hnonzero, hboot]
    obtain ⟨cfg'', hsame', -, ⟨bank, -, hbank⟩ | ⟨hsafe', -⟩⟩ := start_cases env cfg'
    · exact absurd ⟨bank, hbank⟩ hnone
    · exact ih hpending' (by simp [hpending']) cfg'' hsame' hsafe'

/-- **Activation.** The first power loss interrupts `stage2_process_ota` behind `k` stores, the
others interrupt the boots that follow. With a Stage 2 bank to boot the update is over in the end,
and then the active application is that of an uninterrupted run exactly when an even number of the
losses fell between the flip and the clearing of the flag. -/
theorem activation_survives_iff (env : BootEnv) (cfg : BootConfig) (hpending : cfg.otaPending = 1)
    (k : ℕ) (ks : List ℕ) :
    ((∃ bank, stage1VerifyStage2 env (stage2Meta bank) = true) →
      (bootsUntilActivated env ks (processOtaUpTo env k cfg)).otaPending = 0) ∧
    ((bootsUntilActivated env ks (processOtaUpTo env k cfg)).otaPending = 0 →
      ((bootsUntilActivated env ks (processOtaUpTo env k cfg)).appActive =
        (stage2ProcessOta env cfg).appActive ↔ Even (halfWritten (k :: ks)))) := by
  have hota := otaPending_processOtaUpTo env cfg k
  have happ := appActive_processOtaUpTo env cfg k
  rw [appActive_stage2ProcessOta, halfWritten_cons]
  generalize processOtaUpTo env k cfg = next at hota happ ⊢
  by_cases hk : 4 ≤ k
  · rw [if_neg (Nat.not_lt.mpr hk)] at hota
    rw [if_neg (by omega)] at happ
    rw [bootsUntilActivated_of_done ks hota, if_pos hk]
    exact ⟨fun _ => hota, fun _ => iff_of_true happ (by decide)⟩
  · rw [if_pos (Nat.not_le.mp hk), hpending] at hota
    by_cases hsome : ∃ bank, stage1VerifyStage2 env (stage2Meta bank) = true
    · obtain ⟨hzero, hactive⟩ := bootsUntilActivated_spec hsome ks hota
      refine ⟨fun _ => hzero, fun _ => ?_⟩
      rw [hactive, happ, if_neg hk, ← toggle_iterate_eq_iff _ cfg.appActive]
      split
      case isTrue => rfl
      case isFalse => rw [← Function.iterate_succ_apply]
    · have hstuck := bootsUntilActivated_safeMode hsome ks hota
      refine ⟨fun h => absurd h hsome, fun hzero => ?_⟩
      rw [hstuck] at hzero
      cases hzero

/-- Two losses directly behind the flip. -/
theorem activation_survives_two_losses :
    (bootsUntilActivated (envWith [stage2Meta .a]) [1]
      (processOtaUpTo (envWith [stage2Meta .a]) 1 ⟨0, 0, 0, 0, 0, 0, 1, Vector.replicate 9 0, 0⟩)).appActive =
    (stage2ProcessOta (envWith [stage2Meta .a]) ⟨0, 0, 0, 0, 0, 0, 1, Vector.replicate 9 0, 0⟩).appActive := by
  have hspec := activation_survives_iff (envWith [stage2Meta .a])
    ⟨0, 0, 0, 0, 0, 0, 1, Vector.replicate 9 0, 0⟩ rfl 1 [1]
  exact (hspec.2 (hspec.1 ⟨.a, by decide⟩)).mpr (by decide)

/-- One loss directly behind the flip, from a record with a valid CRC: the old application is active
again. -/
theorem activation_flipped_back :
    ∃ env cfg, CrcValid env cfg ∧ cfg.otaPending = 1 ∧
      (bootsUntilActivated env [] (processOtaUpTo env 1 cfg)).otaPending = 0 ∧
      (bootsUntilActivated env [] (processOtaUpTo env 1 cfg)).appActive ≠
        (stage2ProcessOta env cfg).appActive := by
  let env := envWith [stage2Meta .a]
  let cfg := updateCrc env ⟨0, 0, 0, 0, 0, 0, 1, Vector.replicate 9 0, 0⟩
  have hsome : ∃ bank, stage1VerifyStage2 env (stage2Meta bank) = true := ⟨.a, by decide⟩
  have hpending : (processOtaUpTo env 1 cfg).otaPending = 1 := rfl
  obtain ⟨hzero, hactive⟩ := bootsUntilActivated_spec hsome [] hpending
  refine ⟨env, cfg, crcValid_updateCrc _, rfl, hzero, ?_⟩
  rw [hactive, appActive_stage2ProcessOta, appActive_processOtaUpTo]
  decide

end Mcus.Boot.Zonal
