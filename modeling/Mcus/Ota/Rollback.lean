import Mcus.Ota.NoBrick

/-! # Undoing an installation

`rollback` turns away from the bank that was active when its manager was constructed. The installation
switched to exactly that bank's counterpart, so only a manager constructed behind the installation,
while the new bank is active, takes it back; the one that installed switches to the new bank again.
-/

namespace Mcus.Ota
open Runs
set_option autoImplicit false

/-- An `install` that returned true. -/
def installs (e : OtaStep) : Bool :=
  match e.input with
  | .install => e.output.ok
  | _ => false

/-- A new manager; its construction always succeeds. -/
def restarts (e : OtaStep) : Bool :=
  match e.input with
  | .restart => e.output.ok
  | _ => false

/-- A rollback that returns true leaves the bank active that was so before the last installation. -/
def Undoes (past : List OtaStep) (s : OtaSystem) (c : OtaCall) : Prop :=
  match c with
  | .rollback => ∀ e, lastWhere installs past = some e → s.rollback.2.ok = true →
      s.rollback.1.bootloader.activeBank = e.pre.bootloader.activeBank
  | _ => True

/-- A rollback to a valid bank comes behind a restart since the installation, and the last one found the
installed bank active. -/
def RestartedInto (past : List OtaStep) (s : OtaSystem) (c : OtaCall) : Prop :=
  match c with
  | .rollback => ∀ e, lastWhere installs past = some e →
      s.bootloader.isValidFirmware s.manager.getTargetBank = true →
        ∃ r, lastWhere restarts (sinceLast installs past) = some r ∧
          r.pre.bootloader.activeBank = e.post.bootloader.activeBank
  | _ => True

variable {past : List OtaStep} {s s' : OtaSystem} {e x : OtaStep}

/-! ## What the manager remembers -/

/-- The bank that was active at the last construction, if the manager that installed was constructed
before: its own bank, or what a later restart found. -/
def rememberedBank (past : List OtaStep) (e : OtaStep) : BootBank :=
  match lastWhere restarts (sinceLast installs past) with
  | none => e.pre.bootloader.activeBank
  | some r => r.pre.bootloader.activeBank

/-- An installation from one bank to the other. -/
structure Switches (e : OtaStep) : Prop where
  pre : e.pre.bootloader.activeBank ≠ .invalid
  post : e.post.bootloader.activeBank ≠ .invalid
  ne : e.post.bootloader.activeBank ≠ e.pre.bootloader.activeBank

/-- Until it installs, fails or rolls back, a manager's own bank is the active one; behind an
installation it is the remembered one. -/
structure Remembers (past : List OtaStep) (s : OtaSystem) : Prop where
  active : s.bootloader.activeBank ≠ .invalid
  current : s.manager.currentBank ≠ .invalid
  ready : s.manager.state = .idle ∨ s.manager.state = .downloading ∨ s.manager.state = .verifying →
    s.bootloader.activeBank = s.manager.currentBank
  installed : ∀ e, lastWhere installs past = some e →
    Switches e ∧ s.manager.currentBank = rememberedBank past e

theorem getTargetBank_valid (m : OtaManager) : m.getTargetBank ≠ .invalid := by
  unfold OtaManager.getTargetBank
  split <;> decide

/-- Of two banks, the one that is not this one is the other. -/
theorem eq_of_ne_ne {a b c : BootBank} (ha : a ≠ .invalid) (hb : b ≠ .invalid) (hc : c ≠ .invalid) (hac : a ≠ c)
    (hbc : b ≠ c) : a = b := by
  cases a <;> cases b <;> cases c <;> simp_all

theorem rememberedBank_concat (hinstalls : installs x = false) (hrestarts : restarts x = false) :
    rememberedBank (past ++ [x]) e = rememberedBank past e := by
  rw [rememberedBank, sinceLast_concat_neg hinstalls, lastWhere_concat_neg hrestarts]
  rfl

theorem unmarked_of_refused (h : x.output.ok = false) : installs x = false ∧ restarts x = false := by
  unfold installs restarts
  rw [h]
  cases x.input <;> exact ⟨rfl, rfl⟩

/-- A call that neither installs nor restarts, and leaves the manager its bank. -/
theorem Remembers.of_quiet (h : Remembers past s) (hinstalls : installs x = false)
    (hrestarts : restarts x = false) (hactive : s'.bootloader.activeBank ≠ .invalid)
    (hcurrent : s'.manager.currentBank = s.manager.currentBank)
    (hready : s'.manager.state = .idle ∨ s'.manager.state = .downloading ∨ s'.manager.state = .verifying →
      s'.bootloader.activeBank = s'.manager.currentBank) : Remembers (past ++ [x]) s' where
  active := hactive
  current := hcurrent ▸ h.current
  ready := hready
  installed e he := by
    rw [lastWhere_concat_neg hinstalls] at he
    rw [rememberedBank_concat hinstalls hrestarts, hcurrent]
    exact h.installed e he

theorem remembers_step (past : List OtaStep) (s : OtaSystem) (c : OtaCall) (h : Remembers past s) :
    Remembers (past ++ [otaMachine.stepAt s c]) (otaMachine.stepAt s c).post := by
  have heffect := effect s c
  change Remembers (past ++ [⟨s, c, (s.call c).2, (s.call c).1⟩]) (s.call c).1
  generalize s.call c = r at heffect ⊢
  cases heffect with
  | refused c error =>
    obtain ⟨hinstalls, hrestarts⟩ := unmarked_of_refused (x := ⟨s, c, .refused error, s⟩) rfl
    exact h.of_quiet hinstalls hrestarts h.active rfl h.ready
  | started size metadata s' hidle hstate hcurrent hboot =>
    refine h.of_quiet rfl rfl (hboot ▸ h.active) hcurrent fun _ => ?_
    rw [hboot, hcurrent]
    exact h.ready (Or.inl hidle)
  | written offset data s' hdownloading hstate hcurrent hboot =>
    refine h.of_quiet rfl rfl (hboot ▸ h.active) hcurrent fun _ => ?_
    rw [hboot, hcurrent]
    exact h.ready (Or.inr (Or.inl hdownloading))
  | verified saved hdownloading =>
    exact h.of_quiet rfl rfl h.active rfl fun _ => h.ready (Or.inr (Or.inl hdownloading))
  | failed c error =>
    obtain ⟨hinstalls, hrestarts⟩ := unmarked_of_refused (x := ⟨s, c, .refused error, s.setState .failed⟩) rfl
    exact h.of_quiet hinstalls hrestarts h.active rfl nofun
  | installed b hverifying hactive =>
    have hmine := h.ready (Or.inr (Or.inr hverifying))
    have hinstalls :
        installs ⟨s, .install, ⟨true, none, []⟩, { s with bootloader := b }.setState .success⟩ = true := rfl
    constructor
    · exact hactive ▸ getTargetBank_valid _
    · exact h.current
    · exact nofun
    · intro e he
      rw [lastWhere_concat_pos hinstalls] at he
      obtain rfl := Option.some.inj he
      refine ⟨⟨h.active, hactive ▸ getTargetBank_valid _, ?_⟩, ?_⟩
      · change b.activeBank ≠ s.bootloader.activeBank
        rw [hactive, hmine]
        exact getTargetBank_ne _
      · rw [rememberedBank, sinceLast_concat_pos hinstalls]
        exact hmine.symm
  | rolledBack b hvalid hactive =>
    exact h.of_quiet rfl rfl (hactive ▸ getTargetBank_valid _) rfl nofun
  | restarted =>
    have hinstalls : installs ⟨s, .restart, s.restart.2, s.restart.1⟩ = false := rfl
    have hrestarts : restarts ⟨s, .restart, s.restart.2, s.restart.1⟩ = true := rfl
    constructor
    · exact h.active
    · exact h.active
    · exact fun _ => rfl
    · intro e he
      rw [lastWhere_concat_neg hinstalls] at he
      refine ⟨(h.installed e he).1, ?_⟩
      rw [rememberedBank, sinceLast_concat_neg hinstalls, lastWhere_concat_pos hrestarts]
      rfl

theorem remembers_init {b : Bootloader} (hb : b.activeBank ≠ .invalid) : Remembers [] ⟨.construct b, b⟩ where
  active := hb
  current := hb
  ready _ := rfl
  installed e he := by
    rw [lastWhere_nil] at he
    cases he

/-! ## The direction of a rollback -/

theorem rollback_ok_iff :
    s.rollback.2.ok = true ↔ s.bootloader.isValidFirmware s.manager.getTargetBank = true := by
  rw [rollback_eq]
  split
  case isTrue hvalid => exact iff_of_true rfl hvalid
  case isFalse hinvalid => exact iff_of_false Bool.false_ne_true hinvalid

theorem rollback_activeBank (hok : s.rollback.2.ok = true) :
    s.rollback.1.bootloader.activeBank = s.manager.getTargetBank := by
  rw [rollback_eq, if_pos (rollback_ok_iff.mp hok)]
  rfl

/-- The rollback turns back exactly if the remembered bank is the installed one. -/
theorem target_undoes_iff (h : Remembers past s) (he : lastWhere installs past = some e) :
    s.manager.getTargetBank = e.pre.bootloader.activeBank ↔
      ∃ r, lastWhere restarts (sinceLast installs past) = some r ∧
        r.pre.bootloader.activeBank = e.post.bootloader.activeBank := by
  obtain ⟨hswitches, hcurrent⟩ := h.installed e he
  have htarget := getTargetBank_ne s.manager
  have hflip : s.manager.getTargetBank = e.pre.bootloader.activeBank ↔
      s.manager.currentBank = e.post.bootloader.activeBank := by
    constructor
    · intro hpre
      exact eq_of_ne_ne h.current hswitches.post hswitches.pre (hpre ▸ htarget.symm) hswitches.ne
    · intro hpost
      exact eq_of_ne_ne (getTargetBank_valid _) hswitches.pre hswitches.post (hpost ▸ htarget) hswitches.ne.symm
  rw [hflip, hcurrent, rememberedBank]
  cases lastWhere restarts (sinceLast installs past) with
  | none => exact iff_of_false hswitches.ne.symm fun ⟨_, hnone, _⟩ => by cases hnone
  | some r =>
    constructor
    · exact fun hr => ⟨r, rfl, hr⟩
    · rintro ⟨_, hsome, hr⟩
      obtain rfl := Option.some.inj hsome
      exact hr

/-- **Rollback.** Rollbacks undo installations exactly if each one that meets a valid bank belongs to a
manager that was constructed while the installed bank was active. -/
theorem rollbacks_undo_iff (b : Bootloader) (calls : List OtaCall) (hb : b.activeBank ≠ .invalid) :
    otaMachine.Admits Undoes ⟨.construct b, b⟩ calls ↔
      otaMachine.Admits RestartedInto ⟨.construct b, b⟩ calls := by
  refine Machine.admits_iff_of_invariant (remembers_init hb) ?_
    (fun past s c h _ => remembers_step past s c h) calls
  intro past s c h
  cases c with
  | rollback =>
    refine forall_congr' fun e => forall_congr' fun he => ?_
    rw [← rollback_ok_iff]
    refine forall_congr' fun hok => ?_
    rw [rollback_activeBank hok]
    exact target_undoes_iff h he
  | _ => exact Iff.rfl

/-- An update of one byte, installed. -/
def installCalls : List OtaCall := [.startDownload 1 ⟨1, 1, 1, []⟩, .writeBlock 0 [0xAA], .verify true, .install]

/-- With a restart behind the installation, bank A is active again. -/
theorem rollbacks_undo_restarted :
    otaMachine.Admits Undoes ⟨.construct ⟨.bankA, true, false⟩, ⟨.bankA, true, false⟩⟩
      (installCalls ++ [.restart] ++ [.rollback]) := by
  refine (rollbacks_undo_iff _ _ (by decide)).mpr (Machine.admits_concat.mpr ⟨?_, ?_⟩)
  · intro past c rest hcalls
    have hmem : c ∈ installCalls ++ [.restart] := by simp [hcalls]
    cases c with
    | rollback => exact absurd hmem (by simp [installCalls])
    | _ => trivial
  · intro e he _
    refine ⟨_, rfl, ?_⟩
    obtain rfl := Option.some.inj he
    rfl

/-- Without one, the rollback returns true and bank B stays active. -/
theorem rollback_keeps_new_bank : ¬ ∀ (b : Bootloader) (calls : List OtaCall), b.activeBank ≠ .invalid →
    otaMachine.Admits Undoes ⟨.construct b, b⟩ calls := by
  intro hall
  have hundoes := hall ⟨.bankA, true, false⟩ (installCalls ++ [.rollback]) (by decide) installCalls .rollback []
    rfl
  exact absurd (hundoes _ rfl rfl) (by decide)

end Mcus.Ota
