import Mcus.Ota.Manager

/-! # Rolling back into a half-written bank

An image is intact as long as its bank was neither erased nor written since it was last verified.
Installing is safe, for it switches to a bank that was verified by the same manager. Rolling back is
not: it looks only at a flag that an earlier installation set, and starting a download erases the
bank without clearing the flag.
-/

namespace Mcus.Ota
open Runs
set_option autoImplicit false

abbrev OtaStep := Step OtaSystem OtaCall CallResult

def touches (bank : BootBank) (e : OtaStep) : Bool := e.output.flash.any fun op => op.bank == bank

def verifies (bank : BootBank) (e : OtaStep) : Bool :=
  match e.input with
  | .verify _ => e.output.ok && e.pre.manager.getTargetBank == bank
  | _ => false

def startsDownload (bank : BootBank) (e : OtaStep) : Bool :=
  match e.input with
  | .startDownload _ _ => e.output.ok && e.pre.manager.getTargetBank == bank
  | _ => false

/-- Neither erased nor written since the image was last verified, or since the beginning. -/
def Intact (past : List OtaStep) (bank : BootBank) : Prop :=
  ¬ MarkedSince (verifies bank) (touches bank) past

/-- A download into the bank was started, and has not been verified. -/
def Unverified (past : List OtaStep) (bank : BootBank) : Prop :=
  MarkedSince (verifies bank) (startsDownload bank) past

/-- A rollback meets a bank that is not marked valid, or has no unverified download. -/
def RollsBackSafely (past : List OtaStep) (s : OtaSystem) (c : OtaCall) : Prop :=
  match c with
  | .rollback => s.bootloader.isValidFirmware s.manager.getTargetBank = true →
      ¬ Unverified past s.manager.getTargetBank
  | _ => True

variable {past : List OtaStep} {s s' : OtaSystem} {c : OtaCall} {r : OtaSystem × CallResult}
  {e : OtaStep} {bank : BootBank}

/-! ## Marks of a step -/

theorem intact_of_untouched (htouches : touches bank e = false) (h : Intact past bank) :
    Intact (past ++ [e]) bank :=
  fun hmarked => h (markedSince_concat_of_unmarked htouches hmarked)

theorem intact_of_verifies (hverifies : verifies bank e = true) : Intact (past ++ [e]) bank :=
  not_markedSince_concat hverifies past

theorem unverified_concat (hverifies : verifies bank e = false) :
    Unverified (past ++ [e]) bank ↔ Unverified past bank ∨ startsDownload bank e = true :=
  markedSince_concat hverifies past

theorem verifies_eq_false (h : e.output.ok = false) : verifies bank e = false := by
  unfold verifies
  split
  · rw [h, Bool.false_and]
  · rfl

theorem touches_eq_false (h : e.output.flash = []) : touches bank e = false := by
  rw [touches, h, List.any_nil]

/-! ## The invariant -/

/-- The active bank is intact. While a download may go on it is the manager's own bank, and the
verified image is in the other one. A bank that is not intact has an unverified download. -/
structure Safe (past : List OtaStep) (s : OtaSystem) : Prop where
  intact : Intact past s.bootloader.activeBank
  active : s.manager.state = .idle ∨ s.manager.state = .downloading ∨ s.manager.state = .verifying →
    s.bootloader.activeBank = s.manager.currentBank
  verified : s.manager.state = .verifying → Intact past s.manager.getTargetBank
  downloading : s.manager.state = .downloading → Unverified past s.manager.getTargetBank
  touched : ∀ bank, ¬ Intact past bank → Unverified past bank

theorem safe_factory (bankBValid : Bool) : Safe [] (factory bankBValid) := by
  have hintact : ∀ bank, Intact [] bank := fun _ => not_markedSince_nil
  constructor
  · exact hintact _
  · exact fun _ => rfl
  · intro h
    cases h
  · intro h
    cases h
  · exact fun bank h => absurd (hintact bank) h

/-- A step that leaves the flash alone and verifies nothing. -/
theorem Safe.of_quiet (h : Safe past s) (htouches : ∀ bank, touches bank e = false)
    (hverifies : ∀ bank, verifies bank e = false) : Safe (past ++ [e]) s where
  intact := intact_of_untouched (htouches _) h.intact
  active := h.active
  verified hstate := intact_of_untouched (htouches _) (h.verified hstate)
  downloading hstate := (unverified_concat (hverifies _)).mpr (Or.inl (h.downloading hstate))
  touched bank hbank := by
    have hpast : ¬ Intact past bank := fun hintact => hbank (intact_of_untouched (htouches bank) hintact)
    exact (unverified_concat (hverifies bank)).mpr (Or.inl (h.touched bank hpast))

/-- A state in which no download can go on is safe as soon as the active bank is intact. -/
theorem Safe.of_ended (h : Safe past s) (hstate : s'.manager.state = .failed ∨ s'.manager.state = .success)
    (hintact : Intact past s'.bootloader.activeBank) : Safe past s' := by
  constructor
  · exact hintact
  · rcases hstate with hstate | hstate <;> simp [hstate]
  · rcases hstate with hstate | hstate <;> simp [hstate]
  · rcases hstate with hstate | hstate <;> simp [hstate]
  · exact h.touched

/-- A download goes on in the target bank: it is erased or written, and nothing else is. -/
theorem Safe.of_download (h : Safe past s) (hstate : s.manager.state = .idle ∨ s.manager.state = .downloading)
    (hstate' : s'.manager.state = .downloading) (hcurrent : s'.manager.currentBank = s.manager.currentBank)
    (hboot : s'.bootloader = s.bootloader)
    (htouches : ∀ bank, bank ≠ s.manager.getTargetBank → touches bank e = false)
    (hverifies : ∀ bank, verifies bank e = false)
    (hstarted : Unverified (past ++ [e]) s.manager.getTargetBank) : Safe (past ++ [e]) s' := by
  have htarget : s'.manager.getTargetBank = s.manager.getTargetBank := by
    rw [OtaManager.getTargetBank, hcurrent]
    rfl
  have hactive : s.bootloader.activeBank = s.manager.currentBank := h.active (by tauto)
  constructor
  · rw [hboot, hactive]
    exact intact_of_untouched (htouches _ (getTargetBank_ne _).symm) (hactive ▸ h.intact)
  · intro _
    rw [hboot, hcurrent, hactive]
  · simp [hstate']
  · intro _
    rw [htarget]
    exact hstarted
  · intro bank hbank
    by_cases hne : bank = s.manager.getTargetBank
    · exact hne ▸ hstarted
    · have hpast : ¬ Intact past bank :=
        fun hintact => hbank (intact_of_untouched (htouches bank hne) hintact)
      exact (unverified_concat (hverifies bank)).mpr (Or.inl (h.touched bank hpast))

theorem Effect.safe (he : Effect s c r) (h : Safe past s) (hc : RollsBackSafely past s c) :
    Safe (past ++ [⟨s, c, r.2, r.1⟩]) r.1 := by
  cases he with
  | refused c error =>
    exact h.of_quiet (fun _ => touches_eq_false rfl) (fun _ => verifies_eq_false rfl)
  | started size metadata s' hidle hstate hcurrent hboot =>
    refine h.of_download (Or.inl hidle) hstate hcurrent hboot ?_ (fun _ => rfl) ?_
    · intro bank hne
      simpa [touches, FlashOp.bank] using hne.symm
    · refine (unverified_concat rfl).mpr (Or.inr ?_)
      simp [startsDownload]
  | written offset data s' hdownloading hstate hcurrent hboot =>
    refine h.of_download (Or.inr hdownloading) hstate hcurrent hboot ?_ (fun _ => rfl) ?_
    · intro bank hne
      simpa [touches, FlashOp.bank] using hne.symm
    · exact (unverified_concat rfl).mpr (Or.inl (h.downloading hdownloading))
  | verified saved hdownloading =>
    have htouches : ∀ bank, touches bank (⟨s, .verify saved, ⟨true, none, []⟩, s.setState .verifying⟩ :
        OtaStep) = false := fun _ => touches_eq_false rfl
    constructor
    · exact intact_of_untouched (htouches _) h.intact
    · exact fun _ => h.active (Or.inr (Or.inl hdownloading))
    · intro _
      exact intact_of_verifies (by simp [verifies])
    · intro hstate
      cases hstate
    · intro bank hbank
      have hverifies : verifies bank (⟨s, .verify saved, ⟨true, none, []⟩, s.setState .verifying⟩ :
          OtaStep) = false :=
        eq_false_of_ne_true fun hverifies => hbank (intact_of_verifies hverifies)
      have hpast : ¬ Intact past bank := fun hintact => hbank (intact_of_untouched (htouches bank) hintact)
      exact (unverified_concat hverifies).mpr (Or.inl (h.touched bank hpast))
  | failed c error =>
    have hended : Safe past (s.setState .failed) := h.of_ended (Or.inl rfl) h.intact
    exact hended.of_quiet (fun _ => touches_eq_false rfl) (fun _ => verifies_eq_false rfl)
  | installed b hverifying hactive =>
    refine (h.of_ended (Or.inr rfl) ?_).of_quiet (fun _ => touches_eq_false rfl) (fun _ => rfl)
    exact hactive ▸ h.verified hverifying
  | rolledBack b hvalid hactive =>
    refine (h.of_ended (Or.inr rfl) ?_).of_quiet (fun _ => touches_eq_false rfl) (fun _ => rfl)
    have hintact : Intact past s.manager.getTargetBank :=
      by_contra fun hnot => hc hvalid (h.touched _ hnot)
    exact hactive ▸ hintact
  | restarted =>
    have hsafe : Safe past s.restart.1 := by
      constructor
      · exact h.intact
      · exact fun _ => rfl
      · intro hstate
        cases hstate
      · intro hstate
        cases hstate
      · exact h.touched
    exact hsafe.of_quiet (fun _ => touches_eq_false rfl) (fun _ => rfl)

/-! ## Whole runs -/

/-- In every state of the run the active bank is intact. -/
def NeverBricked (s : OtaSystem) (calls : List OtaCall) : Prop :=
  ∀ past, past <+: calls →
    Intact (otaMachine.trace s past) (otaMachine.run s past).bootloader.activeBank

theorem Effect.touches_of_startsDownload (he : Effect s c r)
    (h : startsDownload bank ⟨s, c, r.2, r.1⟩ = true) : touches bank ⟨s, c, r.2, r.1⟩ = true := by
  cases he with
  | started size metadata s' => simpa [startsDownload, touches, FlashOp.bank] using h
  | refused c error => cases c <;> simp [startsDownload, CallResult.refused] at h
  | failed c error => cases c <;> simp [startsDownload, CallResult.refused] at h
  | _ => cases h

theorem not_intact_of_unverified {calls : List OtaCall} (h : Unverified (otaMachine.trace s calls) bank) :
    ¬ Intact (otaMachine.trace s calls) bank := by
  obtain ⟨e, he, hstarts⟩ := h
  obtain ⟨t, c, rfl⟩ := otaMachine.eq_stepAt_of_mem_trace (mem_of_mem_sinceLast he)
  exact not_not.mpr ⟨_, he, (effect t c).touches_of_startsDownload hstarts⟩

theorem safe_of_admits {calls : List OtaCall} (h : Safe [] s)
    (hcalls : otaMachine.Admits RollsBackSafely s calls) :
    Safe (otaMachine.trace s calls) (otaMachine.run s calls) :=
  Machine.induction_of_admits (M := otaMachine) h (fun _ t c hsafe hc => (effect t c).safe hsafe hc) calls hcalls

/-- A rollback to a bank that is marked valid makes it active. -/
theorem activeBank_rollback (hvalid : s.bootloader.isValidFirmware s.manager.getTargetBank = true) :
    (otaMachine.stepAt s .rollback).post.bootloader.activeBank = s.manager.getTargetBank ∧
      (otaMachine.stepAt s .rollback).output.flash = [] := by
  change s.rollback.1.bootloader.activeBank = _ ∧ s.rollback.2.flash = []
  rw [rollback_eq, if_pos hvalid]
  exact ⟨rfl, rfl⟩

/-- **No brick.** From bank A active, valid and intact: the active bank stays intact in every state
of a run exactly when no rollback goes to a bank that is marked valid and has an unverified
download. -/
theorem neverBricked_iff (bankBValid : Bool) (calls : List OtaCall) :
    NeverBricked (factory bankBValid) calls ↔
      otaMachine.Admits RollsBackSafely (factory bankBValid) calls := by
  constructor
  · intro h past c rest hcalls
    cases c with
    | rollback =>
      intro hvalid hunverified
      obtain ⟨hactive, hflash⟩ := activeBank_rollback hvalid
      have hintact := h (past ++ [.rollback]) ⟨rest, by rw [hcalls, List.append_assoc]; rfl⟩
      rw [Machine.trace_concat, Machine.run_concat] at hintact
      have hbank := hactive ▸ hintact
      refine not_intact_of_unverified hunverified fun hmarked => hbank ?_
      exact (markedSince_concat rfl _).mpr (Or.inl hmarked)
    | _ => trivial
  · intro h past hpast
    obtain ⟨rest, rfl⟩ := hpast
    exact (safe_of_admits (safe_factory bankBValid) h.of_append).intact

/-- An update of bank B, a restart, an update of bank A that is given up behind the first erase, and
a rollback to bank A. -/
theorem rollback_into_erased_bank :
    ¬ NeverBricked (factory false)
      [.startDownload 4 ⟨1, 4, 7, []⟩, .writeBlock 0 [1, 2, 3, 4], .verify true, .install, .restart,
        .startDownload 4 ⟨2, 4, 9, []⟩, .rollback] := by
  intro h
  have hintact := h _ List.prefix_rfl
  refine hintact ⟨_, List.mem_append_right [] (List.mem_of_getElem? (i := 5) rfl), ?_⟩
  rfl

end Mcus.Ota
