import Mcus.Boot.BootView
import Mcus.Boot.EndNodeRecovery
import Mathlib.Data.Nat.Find

/-! # The selectors of a corrupted configuration

A record that fails the CRC check sends Stage 1 to bank A, whatever its selectors say. But the boot
that finds it corrupted counts itself in it and computes the CRC again, over the corrupted selectors
with the rest: Stage 2 of the zonal gateway and the next Stage 1 of either node then trust them, and
Stage 2 of the end node never checks the CRC at all.
-/

namespace Mcus.Boot
open Restart
set_option autoImplicit false

/-- Two corrupted records without a pending update that differ in the selectors at most. -/
structure CorruptedPair (env : BootEnv) (cfg cfg' : BootConfig) : Prop where
  selectors : ∃ stage2 app, cfg' = { cfg with stage2Active := stage2, appActive := app }
  left : ¬ CrcValid env cfg
  right : ¬ CrcValid env cfg'
  idle : cfg.otaPending = 0

/-- Every boot of a run from one record tries the banks that the same boot tries from the other. -/
def SameAttempts (boot : BootConfig → BootRecord) (attempts : BootConfig → Attempts)
    (cfg cfg' : BootConfig) : Prop :=
  ∀ n, attempts (configAfter boot n cfg) = attempts (configAfter boot n cfg')

/-- The record passes the CRC check and names bank B; any other sends Stage 1 to bank A. -/
def NamesB (env : BootEnv) (cfg : BootConfig) : Prop := CrcValid env cfg ∧ bankOf cfg.stage2Active = .b

section Pair
variable {env : BootEnv} {cfg cfg' : BootConfig}

theorem read_iff : (viewOf cfg).read (verdict env cfg) = .b ↔ NamesB env cfg := by
  unfold View.read verdict NamesB
  by_cases hcrc : CrcValid env cfg <;> simp [hcrc, viewOf]

theorem read_eq_iff : (viewOf cfg).read (verdict env cfg) = (viewOf cfg').read (verdict env cfg') ↔
    (NamesB env cfg ↔ NamesB env cfg') := by
  rw [← read_iff, ← read_iff]
  generalize (viewOf cfg).read (verdict env cfg) = read
  generalize (viewOf cfg').read (verdict env cfg') = read'
  cases read <;> cases read' <;> simp

theorem read_of_crcValid (hcrc : CrcValid env cfg) :
    (viewOf cfg).read (verdict env cfg) = bankOf cfg.stage2Active := by
  rw [verdict, decide_eq_true hcrc]
  rfl

theorem read_of_bank_a (hbank : (viewOf cfg).stage2 = .a) : (viewOf cfg).read (verdict env cfg) = .a := by
  unfold View.read
  split
  · exact hbank
  · rfl

/-- The views agree in all but the Stage 2 selector, and in the application where one is tried. -/
structure Alike (tries : Prop) (v v' : View) : Prop where
  count : v'.count = v.count
  appCount : v'.appCount = v.appCount
  app : tries → v'.app = v.app

theorem CorruptedPair.alike {tries : Prop} (h : CorruptedPair env cfg cfg')
    (happ : tries → bankOf cfg'.appActive = bankOf cfg.appActive) :
    Alike tries (viewOf cfg) (viewOf cfg') := by
  obtain ⟨stage2, app, rfl⟩ := h.selectors
  exact ⟨rfl, rfl, happ⟩

theorem CorruptedPair.idle' (h : CorruptedPair env cfg cfg') : cfg'.otaPending = 0 := by
  obtain ⟨stage2, app, rfl⟩ := h.selectors
  exact h.idle

theorem CorruptedPair.symm (h : CorruptedPair env cfg cfg') : CorruptedPair env cfg' cfg := by
  obtain ⟨stage2, app, rfl⟩ := h.selectors
  exact ⟨⟨cfg.stage2Active, cfg.appActive, rfl⟩, h.right, h.left, h.idle⟩

theorem Alike.tryApp {tries : Prop} {v v' : View} {verifies : BootBank → Bool} (h : Alike tries v v')
    (happ : v'.app = v.app) : Alike tries (v.tryApp verifies) (v'.tryApp verifies) := by
  have hstarts : v'.StartsApp verifies ↔ v.StartsApp verifies := by
    simp only [View.StartsApp, h.appCount, happ]
  unfold View.tryApp
  by_cases hs : v.StartsApp verifies
  · rw [if_pos hs, if_pos (hstarts.mpr hs)]
    refine ⟨h.count, ?_, fun _ => happ⟩
    simp only [View.setAppCount, h.appCount, happ]
  · rw [if_neg hs, if_neg (mt hstarts.mp hs)]
    refine ⟨h.count, ?_, fun _ => congrArg BootBank.other happ⟩
    simp only [View.setAppCount, h.appCount, happ]

end Pair

/-! ## The zonal gateway -/

namespace Zonal
variable {env : BootEnv} {cfg cfg' : BootConfig}

section Step
variable {v v' : View} {trusted trusted' : Bool} (h : Alike (HandsOver env) v v')
  (hread : v'.read trusted' = v.read trusted)
include h hread

theorem firstView_congr : firstView v' trusted' = firstView v trusted := by
  unfold firstView
  rw [hread, h.count]

theorem alike_countedView : Alike (HandsOver env) (countedView v trusted) (countedView v' trusted') := by
  refine ⟨?_, ?_, ?_⟩
  · unfold countedView
    rw [firstView_congr h hread, hread, h.count]
    by_cases hcount : v.count (v.read trusted) < maxBootAttempts
    · simp only [if_pos hcount, View.setCount, h.count]
    · simp only [if_neg hcount, View.setCount, h.count]
  · rw [countedView_appCount, countedView_appCount, h.appCount]
  · rw [countedView_app, countedView_app]
    exact h.app

/-- One boot keeps the views alike. -/
theorem alike_bootView : Alike (HandsOver env) (bootView env v trusted) (bootView env v' trusted') := by
  have hcounted := alike_countedView h hread
  unfold bootView
  split
  case isTrue hhands => exact hcounted.tryApp (hcounted.app hhands)
  case isFalse => exact hcounted

theorem attemptsView_congr : attemptsView env v' trusted' = attemptsView env v trusted := by
  unfold attemptsView
  rw [firstView_congr h hread]
  by_cases hhands : HandsOver env
  · rw [if_pos hhands, if_pos hhands, h.app hhands]
  · rw [if_neg hhands, if_neg hhands]

end Step

theorem alike_after (h : CorruptedPair env cfg cfg')
    (happ : HandsOver env → bankOf cfg'.appActive = bankOf cfg.appActive)
    (hnames : ∀ n, NamesB env (configAfter (boot env) (n + 1) cfg) ↔
      NamesB env (configAfter (boot env) (n + 1) cfg')) (n : ℕ) :
    Alike (HandsOver env) (viewOf (configAfter (boot env) n cfg)) (viewOf (configAfter (boot env) n cfg')) ∧
      (NamesB env (configAfter (boot env) n cfg) ↔ NamesB env (configAfter (boot env) n cfg')) := by
  induction n with
  | zero => exact ⟨h.alike happ, iff_of_false (fun hn => h.left hn.1) fun hn => h.right hn.1⟩
  | succ n ih =>
    refine ⟨?_, hnames n⟩
    rw [viewOf_after h.idle, viewOf_after h.idle']
    exact alike_bootView ih.1 (read_eq_iff.mpr ih.2).symm

/-- **Zonal gateway.** Where no later boot believes one record that names bank B and not the other,
and both name the same application, all boots try the same banks. -/
theorem sameAttempts_of_namesB (h : CorruptedPair env cfg cfg')
    (happ : HandsOver env → bankOf cfg'.appActive = bankOf cfg.appActive)
    (hnames : ∀ n, NamesB env (configAfter (boot env) (n + 1) cfg) ↔
      NamesB env (configAfter (boot env) (n + 1) cfg')) :
    SameAttempts (boot env) (attempts env) cfg cfg' := by
  intro n
  obtain ⟨halike, hsame⟩ := alike_after h happ hnames n
  rw [attempts_eq (idle_after h.idle n), attempts_eq (idle_after h.idle' n)]
  exact (attemptsView_congr halike (read_eq_iff.mpr hsame).symm).symm

/-! ### What the selectors decide -/

theorem bootView_fails {v : View} (trusted : Bool) (hhands : HandsOver env)
    (hfails : ¬ v.StartsApp (verifiesApp env)) :
    (bootView env v trusted).app = v.app.other ∧ (bootView env v trusted).appCount v.app.other = 0 := by
  have hcounted := mt (startsApp_countedView v trusted).mp hfails
  rw [bootView, if_pos hhands, View.tryApp, if_neg hcounted]
  simp [View.setAppCount]

theorem startsApp_of_fresh {v : View} (hcount : v.appCount v.app = 0)
    (hverified : verifiesApp env v.app = true) : v.StartsApp (verifiesApp env) :=
  ⟨by rw [hcount]; decide, hverified⟩

/-- Two boots, and every later one starts its application. -/
theorem startsApp_after (hhands : HandsOver env) (happ : ∃ bank, verifiesApp env bank = true)
    (hidle : cfg.otaPending = 0) (n : ℕ) :
    (viewOf (configAfter (boot env) (n + 2) cfg)).StartsApp (verifiesApp env) := by
  induction n with
  | zero =>
    rw [viewOf_after hidle, viewOf_after hidle]
    generalize verdict env (configAfter (boot env) (0 + 1) cfg) = trusted'
    generalize verdict env (configAfter (boot env) 0 cfg) = trusted
    generalize viewOf (configAfter (boot env) 0 cfg) = v
    by_cases hnow : v.StartsApp (verifiesApp env)
    · exact startsApp_bootView (startsApp_bootView hnow)
    obtain ⟨hother, hzero⟩ := bootView_fails trusted hhands hnow
    by_cases hnext : (bootView env v trusted).StartsApp (verifiesApp env)
    · exact startsApp_bootView hnext
    -- the bank changed to does not verify, so the first one does
    obtain ⟨hback, hzero'⟩ := bootView_fails trusted' hhands hnext
    have hfirst : verifiesApp env v.app = true := by
      obtain ⟨bank, hbank⟩ := happ
      rcases v.app.eq_or_other bank with rfl | rfl
      · exact hbank
      · exact absurd (startsApp_of_fresh (hother ▸ hzero) (hother ▸ hbank)) hnext
    rw [hother, BootBank.other_other] at hback hzero'
    exact startsApp_of_fresh (hback ▸ hzero') (hback ▸ hfirst)
  | succ n ih =>
    rw [viewOf_after hidle]
    exact startsApp_bootView ih

/-- Without a Stage 2 to jump to, or with an application to start, the gateway comes to believe its
configuration for good. -/
theorem crcValid_after (hgood : ¬ HandsOver env ∨ ∃ bank, verifiesApp env bank = true)
    (hidle : cfg.otaPending = 0) (n : ℕ) : CrcValid env (configAfter (boot env) (n + 3) cfg) := by
  rw [configAfter_succ]
  by_cases hhands : HandsOver env
  · have happ := hgood.resolve_left (not_not.mpr hhands)
    exact (boot_starts (idle_after hidle _) hhands (startsApp_after hhands happ hidle n)).2
  · exact boot_safeMode hhands _

/-- From then on the selected bank is counted up to the limit. -/
theorem count_after (hgood : ¬ HandsOver env ∨ ∃ bank, verifiesApp env bank = true)
    (hidle : cfg.otaPending = 0) (k : ℕ) :
    min k 3 ≤ ((viewOf (configAfter (boot env) (k + 3) cfg)).count (bankOf cfg.stage2Active)).toNat := by
  induction k with
  | zero => exact Nat.zero_le _
  | succ k ih =>
    have hread : (viewOf (configAfter (boot env) (k + 3) cfg)).read
        (verdict env (configAfter (boot env) (k + 3) cfg)) = bankOf cfg.stage2Active :=
      (read_of_crcValid (crcValid_after hgood hidle k)).trans (stage2_after hidle _)
    have hcounted := countedView_read (viewOf (configAfter (boot env) (k + 3) cfg))
      (verdict env (configAfter (boot env) (k + 3) cfg))
    rw [Nat.add_right_comm k 1 3, viewOf_after hidle, bootView_count]
    rw [hread] at hcounted
    rw [hcounted]
    generalize (viewOf (configAfter (boot env) (k + 3) cfg)).count (bankOf cfg.stage2Active) = count at ih ⊢
    split
    case isTrue hlt =>
      have hlt : count.toNat < 3 := UInt8.lt_iff_toNat_lt.mp hlt
      have hadd : (count + 1).toNat = count.toNat + 1 := by
        rw [UInt8.toNat_add]
        exact Nat.mod_eq_of_lt (by simp; omega)
      omega
    case isFalse hge =>
      have hge : 3 ≤ count.toNat := UInt8.le_iff_toNat_le.mp (UInt8.not_lt.mp hge)
      omega

theorem firstBank_after (hgood : ¬ HandsOver env ∨ ∃ bank, verifiesApp env bank = true)
    (hidle : cfg.otaPending = 0) :
    firstBank env (configAfter (boot env) 6 cfg) = (bankOf cfg.stage2Active).other := by
  have hcount := count_after hgood hidle 3
  have hread : (viewOf (configAfter (boot env) 6 cfg)).read
      (verdict env (configAfter (boot env) 6 cfg)) = bankOf cfg.stage2Active :=
    (read_of_crcValid (crcValid_after hgood hidle 3)).trans (stage2_after hidle _)
  have hlimit : maxBootAttempts ≤
      (viewOf (configAfter (boot env) 6 cfg)).count (bankOf cfg.stage2Active) :=
    UInt8.le_iff_toNat_le.mpr hcount
  rw [firstBank_eq, firstView, hread]
  exact if_neg (UInt8.not_lt.mpr hlimit)

theorem attempts_head (env : BootEnv) (cfg : BootConfig) :
    (attempts env cfg).stage2.head? = some (firstBank env cfg) := by
  unfold attempts
  dsimp only
  split <;> rfl

theorem banks_of_sameAttempts (h : CorruptedPair env cfg cfg')
    (hsame : SameAttempts (boot env) (attempts env) cfg cfg') :
    (HandsOver env → bankOf cfg'.appActive = bankOf cfg.appActive) ∧
      ((¬ HandsOver env ∨ ∃ bank, verifiesApp env bank = true) →
        bankOf cfg'.stage2Active = bankOf cfg.stage2Active) := by
  constructor
  · intro hhands
    have hfirst := congrArg Attempts.app (hsame 0)
    rw [configAfter, configAfter, attempts_eq h.idle, attempts_eq h.idle'] at hfirst
    simp only [attemptsView, if_pos hhands, Option.some.injEq] at hfirst
    exact hfirst.symm
  · intro hgood
    have hhead := congrArg (fun a : Attempts => a.stage2.head?) (hsame 6)
    simp only [attempts_head, Option.some.injEq] at hhead
    rw [firstBank_after hgood h.idle, firstBank_after hgood h.idle'] at hhead
    rw [← BootBank.other_other (bankOf cfg'.stage2Active), ← hhead, BootBank.other_other]

end Zonal

/-! ## The end-node ECU -/

namespace EndNode
variable {env : BootEnv} {cfg cfg' : BootConfig}

/-- Stage 1 has an image to jump to. -/
abbrev Jumps (env : BootEnv) : Prop := ∃ bank, Stage1Accepts env bank

section Step
variable {v v' : View} {trusted trusted' : Bool} (h : Alike (Jumps env) v v')
  (hread : v'.read trusted' = v.read trusted)
include h hread

theorem jumpsTo_congr : JumpsTo env v' (v'.read trusted') ↔ JumpsTo env v (v.read trusted) := by
  rw [hread, JumpsTo, JumpsTo, h.count]

theorem attemptsView_congr : attemptsView env v' trusted' = attemptsView env v trusted := by
  unfold attemptsView
  by_cases hjump : JumpsTo env v (v.read trusted)
  · rw [if_pos hjump, if_pos ((jumpsTo_congr h hread).mpr hjump), hread, h.app ⟨_, hjump.2⟩]
  · rw [if_neg hjump, if_neg (mt (jumpsTo_congr h hread).mp hjump), hread]

/-- One boot keeps the views alike, and the selected banks the same. -/
theorem alike_bootView (hbank : v'.stage2 = v.stage2) :
    Alike (Jumps env) (bootView env v trusted) (bootView env v' trusted') ∧
      (bootView env v' trusted').stage2 = (bootView env v trusted).stage2 := by
  unfold bootView
  by_cases hjump : JumpsTo env v (v.read trusted)
  · have halike : Alike (Jumps env) (v.setCount (v.read trusted) 0) (v'.setCount (v'.read trusted') 0) := by
      refine ⟨?_, h.appCount, h.app⟩
      simp only [View.setCount, h.count, hread]
    rw [if_pos hjump, if_pos ((jumpsTo_congr h hread).mpr hjump)]
    refine ⟨halike.tryApp (h.app ⟨_, hjump.2⟩), ?_⟩
    rw [View.tryApp_stage2, View.tryApp_stage2]
    exact hbank
  · rw [if_neg hjump, if_neg (mt (jumpsTo_congr h hread).mp hjump)]
    refine ⟨⟨?_, h.appCount, h.app⟩, congrArg BootBank.other hbank⟩
    simp only [View.setCount, h.count, hread, hbank]

end Step

theorem viewOf_after (cfg : BootConfig) (n : ℕ) :
    viewOf (configAfter (boot env) (n + 1) cfg) = bootView env (viewOf (configAfter (boot env) n cfg))
      (verdict env (configAfter (boot env) n cfg)) := by
  rw [configAfter_succ, viewOf_boot]

/-- The CRC check gives both records the same verdict whenever they name bank B behind a boot. -/
def SameVerdicts (env : BootEnv) (cfg cfg' : BootConfig) : Prop :=
  ∀ n, bankOf (configAfter (boot env) (n + 1) cfg).stage2Active = .b →
    (CrcValid env (configAfter (boot env) (n + 1) cfg) ↔ CrcValid env (configAfter (boot env) (n + 1) cfg'))

theorem namesB_congr (hbank : bankOf cfg'.stage2Active = bankOf cfg.stage2Active)
    (hcrc : bankOf cfg.stage2Active = .b → (CrcValid env cfg ↔ CrcValid env cfg')) :
    NamesB env cfg ↔ NamesB env cfg' := by
  unfold NamesB
  rw [hbank]
  exact and_congr_left hcrc

theorem alike_after (h : CorruptedPair env cfg cfg')
    (hbank : bankOf cfg'.stage2Active = bankOf cfg.stage2Active)
    (happ : Jumps env → bankOf cfg'.appActive = bankOf cfg.appActive)
    (hverdicts : SameVerdicts env cfg cfg') (n : ℕ) :
    Alike (Jumps env) (viewOf (configAfter (boot env) n cfg)) (viewOf (configAfter (boot env) n cfg')) ∧
      (viewOf (configAfter (boot env) n cfg')).stage2 = (viewOf (configAfter (boot env) n cfg)).stage2 ∧
      (NamesB env (configAfter (boot env) n cfg) ↔ NamesB env (configAfter (boot env) n cfg')) := by
  induction n with
  | zero => exact ⟨h.alike happ, hbank, iff_of_false (fun hn => h.left hn.1) fun hn => h.right hn.1⟩
  | succ n ih =>
    have hstep := alike_bootView ih.1 (read_eq_iff.mpr ih.2.2).symm ih.2.1
    rw [← viewOf_after, ← viewOf_after] at hstep
    exact ⟨hstep.1, hstep.2, namesB_congr hstep.2 (hverdicts n)⟩

theorem sameAttempts_of_banks (h : CorruptedPair env cfg cfg')
    (hbank : bankOf cfg'.stage2Active = bankOf cfg.stage2Active)
    (happ : Jumps env → bankOf cfg'.appActive = bankOf cfg.appActive)
    (hverdicts : SameVerdicts env cfg cfg') : SameAttempts (boot env) (attempts env) cfg cfg' := by
  intro n
  obtain ⟨halike, -, hsame⟩ := alike_after h hbank happ hverdicts n
  rw [attempts_eq, attempts_eq]
  exact (attemptsView_congr halike (read_eq_iff.mpr hsame).symm).symm

/-! ### What the selectors decide -/

theorem crcValid_of_jump (hjump : JumpsTo env (viewOf cfg) ((viewOf cfg).read (verdict env cfg))) :
    CrcValid env (boot env cfg).config := by
  obtain ⟨next, hmain, -⟩ := stage1_view_of_jump hjump
  unfold boot
  rw [hmain]
  dsimp only
  rcases stage2_cases env next with ⟨-, hfinish⟩ | hrestart
  · rw [hfinish]
    dsimp only
    cases stage2ReadActiveApp next <;> exact crcValid_updateCrc _
  · rw [hrestart]
    exact crcValid_updateCrc _

/-- The fallback from bank A to bank B leaves a valid CRC when nothing was counted against bank B. -/
theorem crcValid_of_fallback (hstays : ¬ JumpsTo env (viewOf cfg) ((viewOf cfg).read (verdict env cfg)))
    (hbank : (viewOf cfg).stage2 = .a) (hcount : (viewOf cfg).count .b = 0) :
    CrcValid env (boot env cfg).config := by
  have hread : (viewOf cfg).read (verdict env cfg) = .a := read_of_bank_a hbank
  have hbank : bankOf cfg.stage2Active = .a := hbank
  unfold boot
  rw [stage1_falls_back (read_eq env cfg) hstays, hread]
  refine fallback_crcValid ?_
  rw [stage2Active_stage1IncrementBootCount, hbank]
  exact (bootCount_increment_other cfg .a).trans hcount

theorem bootView_falls_back {v : View} {trusted : Bool} (hstays : ¬ JumpsTo env v (v.read trusted)) :
    bootView env v trusted =
      { v.setCount (v.read trusted) (v.count (v.read trusted) + 1) with
        stage2 := v.stage2.other }.setCount v.stage2.other 0 := if_neg hstays

section Same
variable (hsame : SameAttempts (boot env) (attempts env) cfg cfg') (n : ℕ)
include hsame

theorem sameView : attemptsView env (viewOf (configAfter (boot env) n cfg))
      (verdict env (configAfter (boot env) n cfg)) =
    attemptsView env (viewOf (configAfter (boot env) n cfg'))
      (verdict env (configAfter (boot env) n cfg')) := by
  rw [← attempts_eq, ← attempts_eq]
  exact hsame n

theorem read_of_same : (viewOf (configAfter (boot env) n cfg)).read
      (verdict env (configAfter (boot env) n cfg)) =
    (viewOf (configAfter (boot env) n cfg')).read (verdict env (configAfter (boot env) n cfg')) :=
  (List.cons.inj (congrArg Attempts.stage2 (sameView hsame n))).1

theorem jumpsTo_of_same : JumpsTo env (viewOf (configAfter (boot env) n cfg))
      ((viewOf (configAfter (boot env) n cfg)).read (verdict env (configAfter (boot env) n cfg))) ↔
    JumpsTo env (viewOf (configAfter (boot env) n cfg'))
      ((viewOf (configAfter (boot env) n cfg')).read (verdict env (configAfter (boot env) n cfg'))) := by
  have happ := congrArg (fun a : Attempts => a.app.isSome) (sameView hsame n)
  simpa [attemptsView, apply_ite Option.isSome] using happ

end Same

/-- While the two runs try the same banks but select different ones, both read bank A and fall
back, for a jump would leave two valid CRCs. -/
theorem falls_back_of_ne (hsame : SameAttempts (boot env) (attempts env) cfg cfg') {n : ℕ}
    (hne : (viewOf (configAfter (boot env) n cfg)).stage2 ≠ (viewOf (configAfter (boot env) n cfg')).stage2) :
    ¬ JumpsTo env (viewOf (configAfter (boot env) n cfg))
      ((viewOf (configAfter (boot env) n cfg)).read (verdict env (configAfter (boot env) n cfg))) := by
  intro hjump
  have hjump' := (jumpsTo_of_same hsame n).mp hjump
  have hnext := read_of_same hsame (n + 1)
  have hcrc := crcValid_of_jump hjump
  have hcrc' := crcValid_of_jump hjump'
  rw [← configAfter_succ] at hcrc hcrc'
  have hkept : (viewOf (configAfter (boot env) (n + 1) cfg)).stage2 =
      (viewOf (configAfter (boot env) n cfg)).stage2 := by
    rw [viewOf_after, bootView, if_pos hjump, View.tryApp_stage2]
    rfl
  have hkept' : (viewOf (configAfter (boot env) (n + 1) cfg')).stage2 =
      (viewOf (configAfter (boot env) n cfg')).stage2 := by
    rw [viewOf_after, bootView, if_pos hjump', View.tryApp_stage2]
    rfl
  rw [read_of_crcValid hcrc, read_of_crcValid hcrc'] at hnext
  exact hne (hkept.symm.trans (hnext.trans hkept'))

theorem stage2_after_fallback {n : ℕ} (hstays : ¬ JumpsTo env (viewOf (configAfter (boot env) n cfg))
      ((viewOf (configAfter (boot env) n cfg)).read (verdict env (configAfter (boot env) n cfg)))) :
    (viewOf (configAfter (boot env) (n + 1) cfg)).stage2 =
      (viewOf (configAfter (boot env) n cfg)).stage2.other := by
  rw [viewOf_after, bootView_falls_back hstays]
  rfl

theorem selects_other (hsame : SameAttempts (boot env) (attempts env) cfg cfg') {n : ℕ} {bank : BootBank}
    (hleft : (viewOf (configAfter (boot env) n cfg)).stage2 = bank)
    (hright : (viewOf (configAfter (boot env) n cfg')).stage2 = bank.other) :
    (viewOf (configAfter (boot env) (n + 1) cfg)).stage2 = bank.other ∧
      (viewOf (configAfter (boot env) (n + 1) cfg')).stage2 = bank := by
  have hne : bank ≠ bank.other := bank.other_ne.symm
  have hstays := falls_back_of_ne (n := n) hsame (by rwa [hleft, hright])
  constructor
  · rw [stage2_after_fallback hstays, hleft]
  · rw [stage2_after_fallback (mt (jumpsTo_of_same hsame n).mpr hstays), hright, BootBank.other_other]

/-- Bank A is selected in one record and bank B in the other, and nothing is counted against bank B
in the first: the next boot selects bank B with a valid CRC in the first record. -/
theorem not_same_of_fresh_b (hsame : SameAttempts (boot env) (attempts env) cfg cfg') {n : ℕ}
    (hleft : (viewOf (configAfter (boot env) n cfg)).stage2 = .a)
    (hright : (viewOf (configAfter (boot env) n cfg')).stage2 = .b)
    (hcount : (viewOf (configAfter (boot env) n cfg)).count .b = 0) : False := by
  have hne : (viewOf (configAfter (boot env) n cfg)).stage2 ≠
      (viewOf (configAfter (boot env) n cfg')).stage2 := by
    rw [hleft, hright]
    exact nofun
  obtain ⟨hnext, hnext'⟩ := selects_other hsame hleft hright
  have hcrc : CrcValid env (configAfter (boot env) (n + 1) cfg) := by
    rw [configAfter_succ]
    exact crcValid_of_fallback (falls_back_of_ne hsame hne) hleft hcount
  have hread := (read_of_same hsame (n + 1)).trans (read_of_bank_a hnext')
  have hbank : bankOf (configAfter (boot env) (n + 1) cfg).stage2Active = .b := hnext
  rw [read_of_crcValid hcrc, hbank] at hread
  cases hread

theorem falls_back_view (hsame : SameAttempts (boot env) (attempts env) cfg cfg') {n : ℕ} {bank : BootBank}
    (hleft : (viewOf (configAfter (boot env) n cfg)).stage2 = bank)
    (hright : (viewOf (configAfter (boot env) n cfg')).stage2 = bank.other) :
    (viewOf (configAfter (boot env) (n + 1) cfg)).count bank.other = 0 := by
  have hne : bank ≠ bank.other := bank.other_ne.symm
  have hstays := falls_back_of_ne (n := n) hsame (by rwa [hleft, hright])
  rw [viewOf_after, bootView_falls_back hstays, hleft]
  simp [View.setCount]

/-- Bank A is selected in one record and bank B in the other: the fourth boot tells them apart at
the latest. The first one changes to bank B, with a count of zero, the second one reads bank A and
changes back, and the third one is the case above. -/
theorem not_same_of_a_b (hsame : SameAttempts (boot env) (attempts env) cfg cfg')
    (ha : bankOf cfg.stage2Active = .a) (hb : bankOf cfg'.stage2Active = .b) : False := by
  have hleft : (viewOf (configAfter (boot env) 0 cfg)).stage2 = .a := ha
  have hright : (viewOf (configAfter (boot env) 0 cfg')).stage2 = .b := hb
  obtain ⟨hleft_one, hright_one⟩ := selects_other (n := 0) hsame hleft hright
  obtain ⟨hleft_two, hright_two⟩ := selects_other (n := 0 + 1) hsame hleft_one hright_one
  have hcount_one := falls_back_view (n := 0) hsame hleft hright
  refine not_same_of_fresh_b (n := 0 + 1 + 1) hsame hleft_two hright_two ?_
  have hne : (viewOf (configAfter (boot env) (0 + 1) cfg)).stage2 ≠
      (viewOf (configAfter (boot env) (0 + 1) cfg')).stage2 := by
    rw [hleft_one, hright_one]
    exact nofun
  have hread := (read_of_same hsame (0 + 1)).trans (read_of_bank_a hright_one)
  rw [viewOf_after, bootView_falls_back (falls_back_of_ne hsame hne), hleft_one, hread]
  exact hcount_one

theorem stage2_of_same (hsame : SameAttempts (boot env) (attempts env) cfg cfg') :
    bankOf cfg'.stage2Active = bankOf cfg.stage2Active := by
  have hsame' : SameAttempts (boot env) (attempts env) cfg' cfg := fun n => (hsame n).symm
  cases hleft : bankOf cfg.stage2Active <;> cases hright : bankOf cfg'.stage2Active
  · rfl
  · exact (not_same_of_a_b hsame hleft hright).elim
  · exact (not_same_of_a_b hsame' hright hleft).elim
  · rfl

theorem sameVerdicts_of_same (hsame : SameAttempts (boot env) (attempts env) cfg cfg') :
    SameVerdicts env cfg cfg' := by
  have hbanks : ∀ n, (viewOf (configAfter (boot env) n cfg')).stage2 =
      (viewOf (configAfter (boot env) n cfg)).stage2 := by
    intro n
    induction n with
    | zero => exact stage2_of_same hsame
    | succ n ih =>
      have hjumps := jumpsTo_of_same hsame n
      rw [viewOf_after, viewOf_after]
      unfold bootView
      by_cases hjump : JumpsTo env (viewOf (configAfter (boot env) n cfg))
          ((viewOf (configAfter (boot env) n cfg)).read (verdict env (configAfter (boot env) n cfg)))
      · rw [if_pos hjump, if_pos (hjumps.mp hjump), View.tryApp_stage2, View.tryApp_stage2]
        exact ih
      · rw [if_neg hjump, if_neg (mt hjumps.mpr hjump)]
        exact congrArg BootBank.other ih
  intro n hb
  have hnames := read_eq_iff.mp (read_of_same hsame (n + 1))
  have hb' : bankOf (configAfter (boot env) (n + 1) cfg').stage2Active = .b := (hbanks (n + 1)).trans hb
  exact ⟨fun hcrc => (hnames.mp ⟨hcrc, hb⟩).1, fun hcrc => (hnames.mpr ⟨hcrc, hb'⟩).1⟩

theorem exists_jump {k : ℕ} (hwithin : Stage1Within env k cfg) :
    ∃ n, JumpsTo env (viewOf (configAfter (boot env) n cfg))
      ((viewOf (configAfter (boot env) n cfg)).read (verdict env (configAfter (boot env) n cfg))) := by
  induction k generalizing cfg with
  | zero => exact absurd hwithin id
  | succ k ih =>
    by_cases hjump : JumpsTo env (viewOf cfg) ((viewOf cfg).read (verdict env cfg))
    · exact ⟨0, hjump⟩
    · obtain ⟨next, hmain, -⟩ := stage1_view_of_fallback hjump
      have hnext : (boot env cfg).config = next := by rw [boot, hmain]
      rw [Stage1Within, Finishes, hmain] at hwithin
      obtain ⟨n, hn⟩ := ih hwithin
      rw [← hnext] at hn
      exact ⟨n + 1, hn⟩

/-- Until the first jump nothing writes the application selector. -/
theorem app_until_jump {n : ℕ} (hstays : ∀ k < n, ¬ JumpsTo env (viewOf (configAfter (boot env) k cfg))
      ((viewOf (configAfter (boot env) k cfg)).read (verdict env (configAfter (boot env) k cfg)))) :
    (viewOf (configAfter (boot env) n cfg)).app = bankOf cfg.appActive := by
  induction n with
  | zero => rfl
  | succ n ih =>
    rw [viewOf_after, bootView_falls_back (hstays n (Nat.lt_succ_self n))]
    exact ih fun k hk => hstays k (Nat.lt_succ_of_lt hk)

theorem app_of_same (hsame : SameAttempts (boot env) (attempts env) cfg cfg') (hjumps : Jumps env) :
    bankOf cfg'.appActive = bankOf cfg.appActive := by
  have hexists := exists_jump (stage1_within_five hjumps cfg)
  have hjump := Nat.find_spec hexists
  have hbefore := fun k hk => Nat.find_min hexists (m := k) hk
  generalize Nat.find hexists = n at hjump hbefore
  have hbefore' := fun k hk => mt (jumpsTo_of_same hsame k).mpr (hbefore k hk)
  have happ := congrArg Attempts.app (sameView hsame n)
  simp only [attemptsView, if_pos hjump, if_pos ((jumpsTo_of_same hsame n).mp hjump),
    Option.some.injEq] at happ
  rw [app_until_jump hbefore, app_until_jump hbefore'] at happ
  exact happ.symm

end EndNode

/-! ## Both nodes -/

/-- **Corrupted selectors.** On the end node two corrupted records make the same attempts exactly
when they name the same Stage 2 bank and, where Stage 1 can jump at all, the same application, and
no later CRC check tells them apart while they name bank B. On the zonal gateway it is enough that
no later boot believes one record that names bank B and not the other, and that they name the same
application where a Stage 2 image verifies. Both are needed as long as the gateway ends in safe mode
or has an application to start. -/
theorem corruptedPair_sameAttempts (env : BootEnv) (cfg cfg' : BootConfig)
    (h : CorruptedPair env cfg cfg') :
    (SameAttempts (EndNode.boot env) (EndNode.attempts env) cfg cfg' ↔
      bankOf cfg'.stage2Active = bankOf cfg.stage2Active ∧
      (EndNode.Jumps env → bankOf cfg'.appActive = bankOf cfg.appActive) ∧
      EndNode.SameVerdicts env cfg cfg') ∧
    ((Zonal.HandsOver env → bankOf cfg'.appActive = bankOf cfg.appActive) →
      (∀ n, NamesB env (configAfter (Zonal.boot env) (n + 1) cfg) ↔
        NamesB env (configAfter (Zonal.boot env) (n + 1) cfg')) →
      SameAttempts (Zonal.boot env) (Zonal.attempts env) cfg cfg') ∧
    (SameAttempts (Zonal.boot env) (Zonal.attempts env) cfg cfg' →
      (Zonal.HandsOver env → bankOf cfg'.appActive = bankOf cfg.appActive) ∧
      ((¬ Zonal.HandsOver env ∨ ∃ bank, Zonal.verifiesApp env bank = true) →
        bankOf cfg'.stage2Active = bankOf cfg.stage2Active)) := by
  refine ⟨⟨fun hsame => ?_, fun hbanks => ?_⟩, Zonal.sameAttempts_of_namesB h, Zonal.banks_of_sameAttempts h⟩
  · exact ⟨EndNode.stage2_of_same hsame, EndNode.app_of_same hsame, EndNode.sameVerdicts_of_same hsame⟩
  · exact EndNode.sameAttempts_of_banks h hbanks.1 hbanks.2.1 hbanks.2.2

/-- A record with a wrong CRC and the given selectors. -/
def corruptedConfig (stage2Active appActive : UInt8) : BootConfig :=
  ⟨stage2Active, 0, 0, appActive, 0, 0, 0, Vector.replicate 9 0, 0⟩

/-- Two spellings of bank B in a blank flash. -/
theorem sameAttempts_of_spellings :
    SameAttempts (EndNode.boot (envWith [])) (EndNode.attempts (envWith []))
      (corruptedConfig 1 0) (corruptedConfig 2 0) ∧
    SameAttempts (Zonal.boot (envWith [])) (Zonal.attempts (envWith []))
      (corruptedConfig 1 0) (corruptedConfig 2 0) := by
  have hpair : CorruptedPair (envWith []) (corruptedConfig 1 0) (corruptedConfig 2 0) :=
    ⟨⟨2, 0, rfl⟩, by decide +kernel, by decide +kernel, rfl⟩
  have hsafe : ¬ Zonal.HandsOver (envWith []) := by decide
  obtain ⟨hend, hzonal, -⟩ := corruptedPair_sameAttempts (envWith []) _ _ hpair
  refine ⟨hend.mpr ⟨rfl, fun _ => rfl, ?_⟩, hzonal (fun _ => rfl) ?_⟩
  · -- the fallback of the first boot rewrites the selector
    have hfirst : (EndNode.boot (envWith []) (corruptedConfig 1 0)).config =
        (EndNode.boot (envWith []) (corruptedConfig 2 0)).config := by decide +kernel
    intro n _
    rw [configAfter, configAfter, hfirst]
  · intro n
    have hvalid : ∀ cfg, CrcValid (envWith []) (configAfter (Zonal.boot (envWith [])) (n + 1) cfg) := by
      intro cfg
      rw [configAfter_succ]
      exact Zonal.boot_safeMode hsafe _
    have hbank : ∀ cfg : BootConfig, cfg.otaPending = 0 → bankOf cfg.stage2Active = .b →
        bankOf (configAfter (Zonal.boot (envWith [])) (n + 1) cfg).stage2Active = .b :=
      fun cfg hidle hb => (Zonal.stage2_after hidle (n + 1)).trans hb
    exact iff_of_true ⟨hvalid _, hbank _ rfl rfl⟩ ⟨hvalid _, hbank _ rfl rfl⟩

/-- Four good images, and a corrupted record that selects bank A against one that selects bank B:
on both nodes the second boot tries another Stage 2 bank and, on the same records but for the
application selector, the first one another application. -/
theorem corrupted_selectors_believed : ∃ env cfg,
    (∃ cfg', CorruptedPair env cfg cfg' ∧
      ¬ SameAttempts (EndNode.boot env) (EndNode.attempts env) cfg cfg' ∧
      ¬ SameAttempts (Zonal.boot env) (Zonal.attempts env) cfg cfg') ∧
    ∃ cfg', CorruptedPair env cfg cfg' ∧ EndNode.attempts env cfg ≠ EndNode.attempts env cfg' ∧
      Zonal.attempts env cfg ≠ Zonal.attempts env cfg' := by
  let env := envWith [stage2Meta .a, stage2Meta .b, appMeta .a, appMeta .b]
  have hpair : CorruptedPair env (corruptedConfig 0 0) (corruptedConfig 1 0) :=
    ⟨⟨1, 0, rfl⟩, by decide +kernel, by decide +kernel, rfl⟩
  have hpair' : CorruptedPair env (corruptedConfig 0 0) (corruptedConfig 0 1) :=
    ⟨⟨0, 1, rfl⟩, by decide +kernel, by decide +kernel, rfl⟩
  refine ⟨env, corruptedConfig 0 0, ⟨_, hpair, ?_, ?_⟩, _, hpair', ?_, ?_⟩
  · intro hsame
    exact absurd (EndNode.stage2_of_same hsame) (by decide)
  · intro hsame
    exact absurd ((Zonal.banks_of_sameAttempts hpair hsame).2 (Or.inr ⟨.a, by decide⟩)) (by decide)
  · decide +kernel
  · decide +kernel

end Mcus.Boot
