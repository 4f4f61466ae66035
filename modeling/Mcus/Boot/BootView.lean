import Mcus.Boot.SecureBoot
import Mathlib.Logic.Function.Basic

/-! # A boot as a step on what it reads

A boot looks at the two selectors, the four counters and the verdict of the CRC check, never at the
bytes behind them. `View` holds these, the steps below say what one boot of either node makes of
them, and the loaders refine the steps.
-/

namespace Mcus.Boot
open Restart
set_option autoImplicit false

/-- The banks the selectors name, and the boot counters. -/
@[ext] structure View where
  stage2 : BootBank
  count : BootBank → UInt8
  app : BootBank
  appCount : BootBank → UInt8

def viewOf (cfg : BootConfig) : View where
  stage2 := bankOf cfg.stage2Active
  count := stage1GetBootCount cfg
  app := bankOf cfg.appActive
  appCount := stage2GetAppBootCount cfg

/-- The banks a boot tries: the Stage 2 banks in the order in which they are checked, and the
application whose start is counted. -/
structure Attempts where
  stage2 : List BootBank
  app : Option BootBank
  deriving DecidableEq

def verdict (env : BootEnv) (cfg : BootConfig) : Bool := decide (CrcValid env cfg)

namespace View
variable (v : View)

def setCount (bank : BootBank) (n : UInt8) : View := { v with count := Function.update v.count bank n }

def setAppCount (bank : BootBank) (n : UInt8) : View :=
  { v with appCount := Function.update v.appCount bank n }

def read (trusted : Bool) : BootBank := if trusted then v.stage2 else .a

/-- Stage 2 starts the active application. -/
def StartsApp (verifies : BootBank → Bool) : Prop :=
  v.appCount v.app + 1 < maxBootAttempts ∧ verifies v.app = true

instance (verifies : BootBank → Bool) : Decidable (v.StartsApp verifies) :=
  inferInstanceAs (Decidable (_ ∧ _))

/-- Stage 2: the active application is started, or the other one is active with a count of zero. -/
def tryApp (verifies : BootBank → Bool) : View :=
  if v.StartsApp verifies then v.setAppCount v.app 0
  else { v.setAppCount v.app (v.appCount v.app + 1) with app := v.app.other }.setAppCount v.app.other 0

variable (verifies : BootBank → Bool)

@[simp] theorem tryApp_stage2 : (v.tryApp verifies).stage2 = v.stage2 := by unfold tryApp; split <;> rfl

@[simp] theorem tryApp_count : (v.tryApp verifies).count = v.count := by unfold tryApp; split <;> rfl

end View

theorem BootBank.other_ne (bank : BootBank) : bank.other ≠ bank := by cases bank <;> exact (nomatch ·)

theorem configAfter_succ (boot : BootConfig → BootRecord) (n : ℕ) (cfg : BootConfig) :
    configAfter boot (n + 1) cfg = (boot (configAfter boot n cfg)).config := by
  induction n generalizing cfg with
  | zero => rfl
  | succ n ih => exact ih (boot cfg).config

/-! ## The operations on the view -/

section Operations
variable (env : BootEnv) (cfg : BootConfig) (bank : BootBank)

theorem read_eq : stage1ReadActiveStage2 env cfg = (viewOf cfg).read (verdict env cfg) := by
  simp [stage1ReadActiveStage2, View.read, verdict, viewOf]

theorem viewOf_stage1IncrementBootCount : viewOf (stage1IncrementBootCount env cfg bank) =
    (viewOf cfg).setCount bank ((viewOf cfg).count bank + 1) := by
  ext bank' <;> cases bank <;> try rfl
  all_goals cases bank' <;> rfl

theorem viewOf_stage1ResetBootCount : viewOf (stage1ResetBootCount env cfg bank) =
    (viewOf cfg).setCount bank 0 := by
  ext bank' <;> cases bank <;> try rfl
  all_goals cases bank' <;> rfl

theorem viewOf_stage2IncrementAppBootCount : viewOf (stage2IncrementAppBootCount env cfg bank) =
    (viewOf cfg).setAppCount bank ((viewOf cfg).appCount bank + 1) := by
  ext bank' <;> cases bank <;> try rfl
  all_goals cases bank' <;> rfl

theorem viewOf_stage2ResetAppBootCount : viewOf (stage2ResetAppBootCount env cfg bank) =
    (viewOf cfg).setAppCount bank 0 := by
  ext bank' <;> cases bank <;> try rfl
  all_goals cases bank' <;> rfl

end Operations

/-! ## The end-node ECU -/

namespace EndNode
variable (env : BootEnv)

instance (bank : BootBank) : Decidable (Stage1Accepts env bank) := inferInstanceAs (Decidable (_ ∧ _))

/-- Stage 1 jumps to `bank` once it has counted the boot. -/
def JumpsTo (v : View) (bank : BootBank) : Prop :=
  v.count bank + 1 < maxBootAttempts ∧ Stage1Accepts env bank

instance (v : View) (bank : BootBank) : Decidable (JumpsTo env v bank) :=
  inferInstanceAs (Decidable (_ ∧ _))

def bootView (v : View) (trusted : Bool) : View :=
  let bank := v.read trusted
  if JumpsTo env v bank then (v.setCount bank 0).tryApp (stage2VerifyApplication env)
  else { v.setCount bank (v.count bank + 1) with stage2 := v.stage2.other }.setCount v.stage2.other 0

/-- Stage 1 checks the bank it reads; the application is tried behind the jump. -/
def attempts (cfg : BootConfig) : Attempts where
  stage2 := [stage1ReadActiveStage2 env cfg]
  app :=
    match stage1Main env cfg with
    | .restart _ => none
    | .finish (_, cfg) => some (stage2ReadActiveApp cfg)

def attemptsView (v : View) (trusted : Bool) : Attempts where
  stage2 := [v.read trusted]
  app := if JumpsTo env v (v.read trusted) then some v.app else none

variable {env} {cfg : BootConfig}

theorem viewOf_stage1SwitchToFallback : viewOf (stage1SwitchToFallback env cfg) =
    { viewOf cfg with stage2 := (viewOf cfg).stage2.other }.setCount (viewOf cfg).stage2.other 0 := by
  ext bank
  · exact fallback_bank env cfg
  · by_cases hzero : cfg.stage2Active = 0 <;> cases bank <;>
      simp [stage1SwitchToFallback, toggle, hzero, updateCrc, viewOf, View.setCount, bankOf,
        BootBank.other, stage1GetBootCount]
  · exact congrArg bankOf (fallback_sameApps env cfg).active
  · exact congrArg UInt8.toNat ((fallback_sameApps env cfg).count bank)

theorem viewOf_stage2SwitchToFallbackApp : viewOf (stage2SwitchToFallbackApp env cfg) =
    { viewOf cfg with app := (viewOf cfg).app.other }.setAppCount (viewOf cfg).app.other 0 := by
  ext bank <;> by_cases hzero : cfg.appActive = 0 <;> try cases bank
  all_goals simp [stage2SwitchToFallbackApp, toggle, hzero, updateCrc, viewOf, View.setAppCount, bankOf,
    BootBank.other, stage1GetBootCount, stage2GetAppBootCount]

/-- Stage 2 of the end node, on the view. -/
theorem stage2_view : (∀ r, stage2Main env cfg = .finish r →
      viewOf r.2 = (viewOf cfg).tryApp (stage2VerifyApplication env)) ∧
    ∀ next, stage2Main env cfg = .restart next →
      viewOf next = (viewOf cfg).tryApp (stage2VerifyApplication env) := by
  by_cases hstarts : (viewOf cfg).StartsApp (stage2VerifyApplication env)
  · have hmain : stage2Main env cfg = _ := stage2_starts rfl hstarts.1 hstarts.2
    constructor
    · intro r hr
      obtain rfl := Outcome.finish.inj (hr.symm.trans hmain)
      rw [View.tryApp, if_pos hstarts, viewOf_stage2ResetAppBootCount, viewOf_stage2IncrementAppBootCount]
      simp [View.setAppCount, viewOf, stage2ReadActiveApp]
    · intro next hnext
      exact (Outcome.restart_not_finish hnext hmain).elim
  · have hmain : stage2Main env cfg = _ := stage2_falls_back rfl hstarts
    constructor
    · intro r hr
      exact (Outcome.restart_not_finish hmain hr).elim
    · intro next hnext
      obtain rfl := Outcome.restart.inj (hnext.symm.trans hmain)
      rw [View.tryApp, if_neg hstarts, viewOf_stage2SwitchToFallbackApp, viewOf_stage2IncrementAppBootCount]
      rfl

theorem stage1_view_of_jump (hjump : JumpsTo env (viewOf cfg) ((viewOf cfg).read (verdict env cfg))) :
    ∃ next, stage1Main env cfg = .finish ((viewOf cfg).read (verdict env cfg), next) ∧
      viewOf next = (viewOf cfg).setCount ((viewOf cfg).read (verdict env cfg)) 0 := by
  refine ⟨_, stage1_jumps (read_eq env cfg) hjump.1 hjump.2, ?_⟩
  rw [viewOf_stage1ResetBootCount, viewOf_stage1IncrementBootCount]
  simp [View.setCount]

theorem stage1_view_of_fallback (hstays : ¬ JumpsTo env (viewOf cfg) ((viewOf cfg).read (verdict env cfg))) :
    ∃ next, stage1Main env cfg = .restart next ∧
      viewOf next = bootView env (viewOf cfg) (verdict env cfg) := by
  refine ⟨_, stage1_falls_back (read_eq env cfg) hstays, ?_⟩
  rw [bootView, if_neg hstays, viewOf_stage1SwitchToFallback, viewOf_stage1IncrementBootCount]
  rfl

/-- The boot refines the step on the view. -/
theorem viewOf_boot (env : BootEnv) (cfg : BootConfig) :
    viewOf (boot env cfg).config = bootView env (viewOf cfg) (verdict env cfg) := by
  unfold boot
  by_cases hjump : JumpsTo env (viewOf cfg) ((viewOf cfg).read (verdict env cfg))
  · obtain ⟨next, hmain, hview⟩ := stage1_view_of_jump hjump
    rw [hmain, bootView, if_pos hjump, ← hview]
    dsimp only
    cases hstage2 : stage2Main env next with
    | restart cfg' => exact stage2_view.2 _ hstage2
    | finish r => exact stage2_view.1 _ hstage2
  · obtain ⟨next, hmain, hview⟩ := stage1_view_of_fallback hjump
    rw [hmain, hview]

theorem attempts_eq (env : BootEnv) (cfg : BootConfig) :
    attempts env cfg = attemptsView env (viewOf cfg) (verdict env cfg) := by
  unfold attempts attemptsView
  rw [read_eq]
  by_cases hjump : JumpsTo env (viewOf cfg) ((viewOf cfg).read (verdict env cfg))
  · obtain ⟨next, hmain, hview⟩ := stage1_view_of_jump hjump
    rw [hmain, if_pos hjump]
    exact congrArg (fun v : View => Attempts.mk _ (some v.app)) hview
  · obtain ⟨next, hmain, -⟩ := stage1_view_of_fallback hjump
    rw [hmain, if_neg hjump]

end EndNode

/-! ## The zonal gateway -/

namespace Zonal
variable (env : BootEnv)

/-- Some Stage 2 image verifies, so that `_start` does not end in safe mode. -/
def HandsOver : Prop := ∃ bank, stage1VerifyStage2 env (stage2Meta bank) = true

theorem handsOver_iff : HandsOver env ↔ stage1VerifyStage2 env (stage2Meta .a) = true ∨
    stage1VerifyStage2 env (stage2Meta .b) = true := by
  constructor
  · rintro ⟨_ | _, h⟩
    · exact Or.inl h
    · exact Or.inr h
  · rintro (h | h)
    · exact ⟨_, h⟩
    · exact ⟨_, h⟩

instance : Decidable (HandsOver env) := decidable_of_iff' _ (handsOver_iff env)

abbrev verifiesApp (bank : BootBank) : Bool := stage2VerifyApp env (appMeta bank)

def firstView (v : View) (trusted : Bool) : BootBank :=
  if v.count (v.read trusted) < maxBootAttempts then v.read trusted else (v.read trusted).other

/-- `_start` has counted the boot of the bank it tries first. -/
def countedView (v : View) (trusted : Bool) : View :=
  let kept := if v.count (v.read trusted) < maxBootAttempts then v else v.setCount (v.read trusted).other 0
  kept.setCount (firstView v trusted) (kept.count (firstView v trusted) + 1)

def bootView (v : View) (trusted : Bool) : View :=
  if HandsOver env then (countedView v trusted).tryApp (verifiesApp env) else countedView v trusted

/-- `_start` verifies the bank it counted and, when that fails, the other one; behind a jump, and
without a pending update, Stage 2 tries the active application. -/
def attempts (cfg : BootConfig) : Attempts where
  stage2 :=
    if stage1VerifyStage2 env (stage2Meta (firstBank env cfg)) then [firstBank env cfg]
    else [firstBank env cfg, (firstBank env cfg).other]
  app :=
    match start env cfg with
    | .safeMode _ => none
    | .jump _ cfg => if stage2CheckOtaPending cfg then none else some (stage2ReadActiveApp env cfg)

def attemptsView (v : View) (trusted : Bool) : Attempts where
  stage2 :=
    if stage1VerifyStage2 env (stage2Meta (firstView v trusted)) then [firstView v trusted]
    else [firstView v trusted, (firstView v trusted).other]
  app := if HandsOver env then some v.app else none

variable {env} {cfg : BootConfig}

theorem firstBank_eq : firstBank env cfg = firstView (viewOf cfg) (verdict env cfg) := by
  unfold firstBank firstView
  rw [read_eq]
  by_cases hcount : (viewOf cfg).count ((viewOf cfg).read (verdict env cfg)) < maxBootAttempts
  · rw [if_pos hcount]
    exact if_pos (decide_eq_true hcount)
  · rw [if_neg hcount]
    exact if_neg fun h => hcount (of_decide_eq_true h)

theorem viewOf_stage2SwitchApp : viewOf (stage2SwitchApp env cfg) =
    { viewOf cfg with app := (viewOf cfg).app.other }.setAppCount (viewOf cfg).app.other 0 := by
  ext bank <;> by_cases hzero : cfg.appActive = 0 <;> try cases bank
  all_goals simp [stage2SwitchApp, toggle, hzero, updateCrc, viewOf, View.setAppCount, bankOf,
    BootBank.other, stage1GetBootCount, stage2GetAppBootCount]

/-- The configuration in which `_start` has counted the boot. -/
def counted (env : BootEnv) (cfg : BootConfig) : BootConfig :=
  let read := stage1ReadActiveStage2 env cfg
  stage1IncrementBootCount env
    (if stage1CheckBootLimit cfg read then cfg else stage1ResetBootCount env cfg read.other)
    (firstBank env cfg)

theorem start_eq (env : BootEnv) (cfg : BootConfig) : start env cfg =
    if stage1VerifyStage2 env (stage2Meta (firstBank env cfg)) then
      .jump (firstBank env cfg) (counted env cfg)
    else if stage1VerifyStage2 env (stage2Meta (firstBank env cfg).other) then
      .jump (firstBank env cfg).other (counted env cfg)
    else .safeMode (counted env cfg) := by
  unfold start counted firstBank
  dsimp only
  generalize stage1CheckBootLimit cfg (stage1ReadActiveStage2 env cfg) = within
  cases within <;> simp only [Bool.not_true, Bool.not_false, Bool.false_eq_true, if_true, if_false]

theorem viewOf_counted (env : BootEnv) (cfg : BootConfig) :
    viewOf (counted env cfg) = countedView (viewOf cfg) (verdict env cfg) := by
  unfold counted countedView
  rw [viewOf_stage1IncrementBootCount, firstBank_eq, read_eq]
  by_cases hcount : stage1GetBootCount cfg ((viewOf cfg).read (verdict env cfg)) < maxBootAttempts
  · have hwithin : stage1CheckBootLimit cfg ((viewOf cfg).read (verdict env cfg)) = true :=
      decide_eq_true hcount
    have hview : (viewOf cfg).count ((viewOf cfg).read (verdict env cfg)) < maxBootAttempts := hcount
    rw [if_pos hwithin, if_pos hview]
  · have hexceeded : ¬ stage1CheckBootLimit cfg ((viewOf cfg).read (verdict env cfg)) = true :=
      fun h => hcount (of_decide_eq_true h)
    have hview : ¬ (viewOf cfg).count ((viewOf cfg).read (verdict env cfg)) < maxBootAttempts := hcount
    rw [if_neg hexceeded, if_neg hview, viewOf_stage1ResetBootCount]

/-- What `_start` hands on, and when it hands on at all. -/
theorem start_outcome (env : BootEnv) (cfg : BootConfig) :
    (HandsOver env ∧ ∃ bank, start env cfg = .jump bank (counted env cfg)) ∨
      ¬ HandsOver env ∧ start env cfg = .safeMode (counted env cfg) := by
  rw [start_eq]
  split
  case isTrue hfirst => exact Or.inl ⟨⟨_, hfirst⟩, _, rfl⟩
  case isFalse hfirst =>
    split
    case isTrue hother => exact Or.inl ⟨⟨_, hother⟩, _, rfl⟩
    case isFalse hother =>
      refine Or.inr ⟨?_, rfl⟩
      rintro ⟨bank, hbank⟩
      rcases (firstBank env cfg).eq_or_other bank with rfl | rfl
      · exact hfirst hbank
      · exact hother hbank

theorem crcValid_counted (env : BootEnv) (cfg : BootConfig) : CrcValid env (counted env cfg) :=
  crcValid_stage1IncrementBootCount _ _

theorem otaPending_counted (env : BootEnv) (cfg : BootConfig) :
    (counted env cfg).otaPending = cfg.otaPending := by
  unfold counted
  refine (sameApps_stage1IncrementBootCount _ _).otaPending.trans ?_
  split
  case isTrue => rfl
  case isFalse => exact (sameApps_stage1ResetBootCount cfg _).otaPending

/-- Stage 2 of the zonal gateway, on the view: what it leaves is idle, and it passes the CRC check
when it started the application. -/
theorem stage2_view (hcrc : CrcValid env cfg) (hidle : cfg.otaPending = 0) :
    (∃ r, stage2Main env cfg = .finish r ∧ r.2.otaPending = 0 ∧ CrcValid env r.2 ∧
      (viewOf cfg).StartsApp (verifiesApp env) ∧
      viewOf r.2 = (viewOf cfg).tryApp (verifiesApp env)) ∨
    ∃ next, stage2Main env cfg = .restart next ∧ next.otaPending = 0 ∧
      ¬ (viewOf cfg).StartsApp (verifiesApp env) ∧
      viewOf next = (viewOf cfg).tryApp (verifiesApp env) := by
  have hread : stage2ReadActiveApp env cfg = bankOf cfg.appActive := if_pos hcrc
  by_cases hstarts : (viewOf cfg).StartsApp (verifiesApp env)
  · left
    refine ⟨_, stage2_starts (idle_of_zero hidle) hread hstarts.1 hstarts.2, ?_, ?_, hstarts, ?_⟩
    · simpa using hidle
    · dsimp only
      cases bankOf cfg.appActive <;> rfl
    · rw [View.tryApp, if_pos hstarts, viewOf_stage2ResetAppBootCount, viewOf_stage2IncrementAppBootCount]
      simp [View.setAppCount, viewOf]
  · right
    refine ⟨_, stage2_falls_back (idle_of_zero hidle) hread hstarts, ?_, hstarts, ?_⟩
    · rw [(switchApp_fresh env _).2.2, otaPending_stage2IncrementAppBootCount, hidle]
    · rw [View.tryApp, if_neg hstarts, viewOf_stage2SwitchApp, viewOf_stage2IncrementAppBootCount]
      rfl

/-- One boot without a pending update: it refines the step on the view. -/
theorem boot_view (hidle : cfg.otaPending = 0) :
    viewOf (boot env cfg).config = bootView env (viewOf cfg) (verdict env cfg) ∧
      (boot env cfg).config.otaPending = 0 := by
  have hcounted := (otaPending_counted env cfg).trans hidle
  unfold boot bootView
  rcases start_outcome env cfg with ⟨hhands, bank, hjump⟩ | ⟨hsafe, hstart⟩
  · rw [hjump, if_pos hhands, ← viewOf_counted]
    dsimp only
    rcases stage2_view (crcValid_counted env cfg) hcounted with
      ⟨r, hmain, hota, -, -, hview⟩ | ⟨next, hmain, hota, -, hview⟩
    · rw [hmain]
      exact ⟨hview, hota⟩
    · rw [hmain]
      exact ⟨hview, hota⟩
  · rw [hstart, if_neg hsafe, ← viewOf_counted]
    exact ⟨rfl, hcounted⟩

theorem attempts_eq (hidle : cfg.otaPending = 0) :
    attempts env cfg = attemptsView env (viewOf cfg) (verdict env cfg) := by
  have hcounted := idle_of_zero ((otaPending_counted env cfg).trans hidle)
  have happ : stage2ReadActiveApp env (counted env cfg) = (viewOf cfg).app := by
    have hview := congrArg View.app (viewOf_counted env cfg)
    rw [stage2ReadActiveApp, if_pos (crcValid_counted env cfg)]
    refine hview.trans ?_
    unfold countedView
    dsimp only
    split <;> rfl
  unfold attempts attemptsView
  rw [firstBank_eq]
  rcases start_outcome env cfg with ⟨hhands, bank, hjump⟩ | ⟨hsafe, hstart⟩
  · rw [hjump, if_pos hhands]
    dsimp only
    rw [hcounted, happ]
    rfl
  · rw [hstart, if_neg hsafe]

@[simp] theorem countedView_app (v : View) (trusted : Bool) : (countedView v trusted).app = v.app := by
  unfold countedView; split <;> rfl

@[simp] theorem countedView_appCount (v : View) (trusted : Bool) :
    (countedView v trusted).appCount = v.appCount := by
  unfold countedView; split <;> rfl

/-- The count of the bank read stops at the limit: from there on the other bank is counted. -/
theorem countedView_read (v : View) (trusted : Bool) :
    (countedView v trusted).count (v.read trusted) =
      if v.count (v.read trusted) < maxBootAttempts then v.count (v.read trusted) + 1
      else v.count (v.read trusted) := by
  have hne : v.read trusted ≠ (v.read trusted).other := (BootBank.other_ne _).symm
  unfold countedView firstView
  split <;> simp [View.setCount, Function.update_of_ne hne]

@[simp] theorem bootView_stage2 (v : View) (trusted : Bool) : (bootView env v trusted).stage2 = v.stage2 := by
  have hcounted : (countedView v trusted).stage2 = v.stage2 := by unfold countedView; split <;> rfl
  unfold bootView
  split
  · rw [View.tryApp_stage2, hcounted]
  · exact hcounted

@[simp] theorem bootView_count (v : View) (trusted : Bool) :
    (bootView env v trusted).count = (countedView v trusted).count := by
  unfold bootView
  split
  · exact View.tryApp_count _ _
  · rfl

theorem startsApp_countedView (v : View) (trusted : Bool) :
    (countedView v trusted).StartsApp (verifiesApp env) ↔ v.StartsApp (verifiesApp env) := by
  simp [View.StartsApp]

theorem startsApp_bootView {v : View} {trusted : Bool} (hstarts : v.StartsApp (verifiesApp env)) :
    (bootView env v trusted).StartsApp (verifiesApp env) := by
  unfold bootView
  split
  case isTrue =>
    have hcounted := (startsApp_countedView v trusted).mpr hstarts
    rw [View.tryApp, if_pos hcounted]
    refine ⟨?_, hcounted.2⟩
    simp only [View.setAppCount, Function.update_self]
    decide
  case isFalse => exact (startsApp_countedView v trusted).mpr hstarts

/-- A boot that starts its application leaves a configuration that passes the CRC check. -/
theorem boot_starts (hidle : cfg.otaPending = 0) (hhands : HandsOver env)
    (hstarts : (viewOf cfg).StartsApp (verifiesApp env)) :
    (boot env cfg).app.isSome = true ∧ CrcValid env (boot env cfg).config := by
  have hcounted := (otaPending_counted env cfg).trans hidle
  unfold boot
  rcases start_outcome env cfg with ⟨-, bank, hjump⟩ | ⟨hsafe, -⟩
  · rw [hjump]
    dsimp only
    rcases stage2_view (crcValid_counted env cfg) hcounted with
      ⟨r, hmain, -, hcrc, -, -⟩ | ⟨next, -, -, hfails, -⟩
    · rw [hmain]
      exact ⟨rfl, hcrc⟩
    · rw [viewOf_counted, startsApp_countedView] at hfails
      exact absurd hstarts hfails
  · exact absurd hhands hsafe

theorem boot_fails (hidle : cfg.otaPending = 0) (hfails : ¬ (viewOf cfg).StartsApp (verifiesApp env)) :
    (boot env cfg).app = none := by
  have hcounted := (otaPending_counted env cfg).trans hidle
  unfold boot
  rcases start_outcome env cfg with ⟨-, bank, hjump⟩ | ⟨-, hstart⟩
  · rw [hjump]
    dsimp only
    rcases stage2_view (crcValid_counted env cfg) hcounted with
      ⟨r, -, -, -, hstarts, -⟩ | ⟨next, hmain, -, -, -⟩
    · rw [viewOf_counted, startsApp_countedView] at hstarts
      exact absurd hstarts hfails
    · rw [hmain]
  · rw [hstart]

theorem boot_safeMode (hsafe : ¬ HandsOver env) (cfg : BootConfig) : CrcValid env (boot env cfg).config := by
  unfold boot
  rcases start_outcome env cfg with ⟨hhands, -⟩ | ⟨-, hstart⟩
  · exact absurd hhands hsafe
  · rw [hstart]
    exact crcValid_counted env cfg

/-! ### Boots in a row -/

theorem idle_after (hidle : cfg.otaPending = 0) (n : ℕ) : (configAfter (boot env) n cfg).otaPending = 0 := by
  induction n with
  | zero => exact hidle
  | succ n ih => rw [configAfter_succ]; exact (boot_view ih).2

theorem viewOf_after (hidle : cfg.otaPending = 0) (n : ℕ) :
    viewOf (configAfter (boot env) (n + 1) cfg) = bootView env (viewOf (configAfter (boot env) n cfg))
      (verdict env (configAfter (boot env) n cfg)) := by
  rw [configAfter_succ]
  exact (boot_view (idle_after hidle n)).1

/-- The startup software never writes the selector. -/
theorem stage2_after (hidle : cfg.otaPending = 0) (n : ℕ) :
    (viewOf (configAfter (boot env) n cfg)).stage2 = bankOf cfg.stage2Active := by
  induction n with
  | zero => rfl
  | succ n ih => rw [viewOf_after hidle, bootView_stage2, ih]

end Zonal
end Mcus.Boot
