import Mcus.Boot.BootView

/-! # A healthy Stage 2 bank of the zonal gateway

`_start` counts a boot of the bank it tries, and nothing on the way to a running application clears
that count: `stage1_reset_boot_count` is called only for the bank that `_start` changes to. Three
good boots therefore use up the limit of `MAX_BOOT_ATTEMPTS`, and the fourth tries the other bank.
-/

namespace Mcus.Boot.Zonal
set_option autoImplicit false

/-- A configuration with nothing counted against Stage 2, and an active bank and an active
application that verify. -/
structure Healthy (env : BootEnv) (cfg : BootConfig) : Prop where
  crc : CrcValid env cfg
  count : ∀ bank, stage1GetBootCount cfg bank = 0
  idle : cfg.otaPending = 0
  stage2 : stage1VerifyStage2 env (stage2Meta (bankOf cfg.stage2Active)) = true
  app : stage2VerifyApp env (appMeta (bankOf cfg.appActive)) = true

/-- A boot behind boots that all started an application jumps to the selected bank. -/
def StaysInUse (env : BootEnv) (cfg : BootConfig) : Prop :=
  ∀ n, (∀ k < n, (boot env (configAfter (boot env) k cfg)).app.isSome = true) →
    (boot env (configAfter (boot env) n cfg)).stage2 = some (bankOf cfg.stage2Active)

variable {env : BootEnv} {cfg : BootConfig}

theorem boot_jumps_first (hverified : stage1VerifyStage2 env (stage2Meta (firstBank env cfg)) = true) :
    (boot env cfg).stage2 = some (firstBank env cfg) :=
  stage2_eq_some_iff.mpr ⟨hverified, Or.inl rfl⟩

theorem Healthy.handsOver (h : Healthy env cfg) : HandsOver env := ⟨_, h.stage2⟩

/-! ## Good boots use up the limit -/

/-- `k` boots are counted against the selected bank, and the next one will start the application. -/
structure Counting (env : BootEnv) (k : UInt8) (cfg : BootConfig) : Prop where
  crc : CrcValid env cfg
  idle : cfg.otaPending = 0
  count : (viewOf cfg).count (viewOf cfg).stage2 = k
  starts : (viewOf cfg).StartsApp (verifiesApp env)

theorem Counting.read {k : UInt8} (h : Counting env k cfg) :
    (viewOf cfg).read (verdict env cfg) = (viewOf cfg).stage2 := by
  rw [verdict, decide_eq_true h.crc]
  rfl

theorem Counting.firstBank {k : UInt8} (h : Counting env k cfg) :
    firstBank env cfg =
      if k < maxBootAttempts then (viewOf cfg).stage2 else (viewOf cfg).stage2.other := by
  rw [firstBank_eq, firstView, h.read, h.count]

theorem Counting.step {k : UInt8} (hhands : HandsOver env) (h : Counting env k cfg)
    (hk : k < maxBootAttempts) : Counting env (k + 1) (boot env cfg).config where
  crc := (boot_starts h.idle hhands h.starts).2
  idle := (boot_view h.idle).2
  count := by
    have hcounted := countedView_read (viewOf cfg) (verdict env cfg)
    rw [h.read, h.count, if_pos hk] at hcounted
    rw [(boot_view h.idle).1, bootView_stage2, bootView_count, hcounted]
  starts := by
    rw [(boot_view h.idle).1]
    exact startsApp_bootView h.starts

theorem Healthy.counting (h : Healthy env cfg)
    (hcount : stage2GetAppBootCount cfg (bankOf cfg.appActive) + 1 < maxBootAttempts) :
    Counting env 0 cfg :=
  ⟨h.crc, h.idle, h.count _, hcount, h.app⟩

/-- After `k` good boots, three at most, the count is `k`. -/
theorem counting_after (hhands : HandsOver env) (h : Counting env 0 cfg) {k : ℕ} (hk : k ≤ 3) :
    Counting env (UInt8.ofNat k) (configAfter (boot env) k cfg) := by
  induction k with
  | zero => exact h
  | succ k ih =>
    have hlt : UInt8.ofNat k < maxBootAttempts := by
      match k, hk with
      | 0, _ | 1, _ | 2, _ => decide
    have hnext := (ih (by omega)).step hhands hlt
    rw [configAfter_succ, UInt8.ofNat_add]
    exact hnext

theorem not_staysInUse (h : Healthy env cfg)
    (hother : stage1VerifyStage2 env (stage2Meta (bankOf cfg.stage2Active).other) = true)
    (hcount : stage2GetAppBootCount cfg (bankOf cfg.appActive) + 1 < maxBootAttempts) :
    ¬ StaysInUse env cfg := by
  intro hstays
  have hcounting := fun k hk => counting_after h.handsOver (h.counting hcount) (k := k) hk
  have hjump := hstays 3 fun k hk =>
    (boot_starts (hcounting k hk.le).idle h.handsOver (hcounting k hk.le).starts).1
  have hfirst : firstBank env (configAfter (boot env) 3 cfg) = (bankOf cfg.stage2Active).other := by
    rw [(hcounting 3 le_rfl).firstBank, stage2_after h.idle]
    rfl
  rw [boot_jumps_first (hfirst ▸ hother), hfirst] at hjump
  exact BootBank.other_ne _ (Option.some.inj hjump)

/-! ## What keeps the bank -/

theorem staysInUse_of_single (h : Healthy env cfg)
    (hother : stage1VerifyStage2 env (stage2Meta (bankOf cfg.stage2Active).other) = false) :
    StaysInUse env cfg := by
  intro n _
  obtain ⟨next, -, -, ⟨bank, hjump, hbank⟩ | ⟨-, hnone⟩⟩ := start_cases env (configAfter (boot env) n cfg)
  · have hselected := start_jumps_iff.mp ⟨next, hjump⟩
    rcases (bankOf cfg.stage2Active).eq_or_other bank with rfl | rfl
    · exact stage2_eq_some_iff.mpr hselected
    · exact absurd (hother.symm.trans hbank) (by simp)
  · exact absurd (h.stage2.symm.trans (hnone _)) (by simp)

theorem staysInUse_of_failed_start (h : Healthy env cfg)
    (hcount : ¬ stage2GetAppBootCount cfg (bankOf cfg.appActive) + 1 < maxBootAttempts) :
    StaysInUse env cfg := by
  have hfails : ¬ (viewOf cfg).StartsApp (verifiesApp env) := fun hstarts => hcount hstarts.1
  intro n hgood
  cases n with
  | zero =>
    have hfirst : firstBank env cfg = bankOf cfg.stage2Active := by
      rw [firstBank, stage1ReadActiveStage2, if_pos h.crc, stage1CheckBootLimit, h.count]
      rfl
    rw [← hfirst]
    exact boot_jumps_first (hfirst ▸ h.stage2)
  | succ n =>
    have happ := hgood 0 (Nat.succ_pos n)
    rw [configAfter, boot_fails h.idle hfails] at happ
    cases happ

/-- **A healthy bank.** It stays in use exactly when the other bank fails verification, so that
there is nothing to move to, or the first boot fails already because of the boots counted against
the application. -/
theorem healthy_staysInUse_iff (h : Healthy env cfg) : StaysInUse env cfg ↔
    stage1VerifyStage2 env (stage2Meta (bankOf cfg.stage2Active).other) = false ∨
      ¬ stage2GetAppBootCount cfg (bankOf cfg.appActive) + 1 < maxBootAttempts := by
  constructor
  · intro hstays
    by_contra hneither
    obtain ⟨hother, hcount⟩ := not_or.mp hneither
    exact not_staysInUse h (by simpa using hother) (not_not.mp hcount) hstays
  · rintro (hother | hcount)
    · exact staysInUse_of_single h hother
    · exact staysInUse_of_failed_start h hcount

theorem healthy_staysInUse_bank_a :
    let env := envWith [stage2Meta .a, appMeta .a]
    StaysInUse env (cleanConfig env) :=
  (healthy_staysInUse_iff ⟨crcValid_updateCrc _, fun bank => by cases bank <;> rfl, rfl, by decide,
    by decide⟩).mpr (Or.inl (by decide))

/-- Four good images and a clean configuration: the fourth boot leaves bank A. -/
theorem healthy_bank_left : ∃ env cfg, Healthy env cfg ∧ ¬ StaysInUse env cfg := by
  let env := envWith [stage2Meta .a, stage2Meta .b, appMeta .a]
  have hhealthy : Healthy env (cleanConfig env) :=
    ⟨crcValid_updateCrc _, fun bank => by cases bank <;> rfl, rfl, by decide, by decide⟩
  exact ⟨env, _, hhealthy, not_staysInUse hhealthy (by decide) (by decide)⟩

end Mcus.Boot.Zonal
