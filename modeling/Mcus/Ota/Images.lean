import Mcus.Foundations.Patches
import Mcus.Ota.Completeness

/-! # What the banks hold

`writeToFlash` and `eraseBank` keep the firmware of a bank in a file: erasing removes it, and a block
is written at its offset. A caller that sends the blocks of an image, calls `verify` only when all of
it is there and never rolls back into an unfinished download runs, at any time, the image it verified
last in the active bank, byte for byte. File operations succeed here; `writeToFlash` does not look whether
they do.
-/

namespace Mcus.Ota
open Runs Patches
set_option autoImplicit false

/-- The bytes of each bank's file; a file that does not exist has none. -/
abbrev BankFiles := BootBank → List UInt8

def eraseBank (files : BankFiles) (bank : BootBank) : BankFiles := Function.update files bank []

def writeToFlash (files : BankFiles) (bank : BootBank) (offset : UInt32) (data : List UInt8) : BankFiles :=
  Function.update files bank (patch 0 (files bank) offset.toNat data)

def FlashOp.perform (files : BankFiles) : FlashOp → BankFiles
  | .erase bank => eraseBank files bank
  | .write bank offset data => writeToFlash files bank offset data

/-- The files after the steps. -/
def contents (files : BankFiles) (past : List OtaStep) : BankFiles :=
  past.foldl (fun files e => e.output.flash.foldl FlashOp.perform files) files

variable {image : FirmwareMetadata → List UInt8} {files : BankFiles} {past : List OtaStep} {s : OtaSystem}
  {c : OtaCall} {e : OtaStep} {bank : BootBank}

theorem contents_concat : contents files (past ++ [e]) =
    e.output.flash.foldl FlashOp.perform (contents files past) := by
  rw [contents, List.foldl_append]
  rfl

theorem contents_stepAt : contents files (past ++ [otaMachine.stepAt s c]) =
    (s.call c).2.flash.foldl FlashOp.perform (contents files past) := contents_concat

theorem perform_of_ne {op : FlashOp} (hne : op.bank ≠ bank) : op.perform files bank = files bank := by
  cases op with
  | erase _ => exact Function.update_of_ne hne.symm _ _
  | write _ _ _ => exact Function.update_of_ne hne.symm _ _

theorem foldl_perform_of_ne {ops : List FlashOp} (hne : ∀ op ∈ ops, op.bank ≠ bank) (files : BankFiles) :
    ops.foldl FlashOp.perform files bank = files bank := by
  induction ops generalizing files with
  | nil => rfl
  | cons op ops ih =>
    rw [List.foldl_cons, ih fun op hop => hne op (List.mem_cons_of_mem _ hop)]
    exact perform_of_ne (hne op List.mem_cons_self)

/-- A step leaves the files of the banks it does not touch. -/
theorem contents_of_untouched (h : touches bank e = false) :
    contents files (past ++ [e]) bank = contents files past bank := by
  rw [contents_concat]
  apply foldl_perform_of_ne
  intro op hop hbank
  have hall := List.any_eq_false.mp h op hop
  exact hall (beq_iff_eq.mpr hbank)

/-! ## The download -/

theorem getTargetBank_congr {m m' : OtaManager} (h : m'.currentBank = m.currentBank) :
    m'.getTargetBank = m.getTargetBank := by
  rw [OtaManager.getTargetBank, h]
  rfl

/-- A step behind which a download goes on has started it, or has written a block of it, or has left
it alone. -/
theorem downloading_cases (h : (s.call c).1.manager.state = .downloading) :
    (s.call c).1.manager.getTargetBank = s.manager.getTargetBank ∧
    ((∃ firmwareSize metadata, c = .startDownload firmwareSize metadata ∧
      (s.call c).2 = ⟨true, none, [.erase s.manager.getTargetBank]⟩) ∨
    s.manager.state = .downloading ∧ (s.call c).1.manager.targetMetadata = s.manager.targetMetadata ∧
      ((∃ offset data, c = .writeBlock offset data ∧
        (s.call c).2 = ⟨true, none, [.write s.manager.getTargetBank offset data]⟩) ∨
      (s.call c).2.ok = false ∧ (s.call c).2.flash = [])) := by
  have heffect := effect s c
  have hdownload := downloadEffect s c
  generalize s.call c = r at heffect hdownload h ⊢
  cases hdownload with
  | started firmwareSize metadata _ hok =>
    cases heffect with
    | started _ _ _ _ _ hcurrent =>
      exact ⟨getTargetBank_congr hcurrent, Or.inl ⟨_, _, rfl, rfl⟩⟩
    | refused => cases hok
    | failed => cases hok
  | verified _ _ hnext =>
    rw [hnext] at h
    cases h
  | remaining _ _ _ _ hdownloading => exact absurd h hdownloading
  | kept _ _ hnot _ hmetadata hstate =>
    cases heffect with
    | refused => exact ⟨rfl, Or.inr ⟨h, rfl, Or.inr ⟨rfl, rfl⟩⟩⟩
    | written _ _ _ hdownloading _ hcurrent =>
      exact ⟨getTargetBank_congr hcurrent, Or.inr ⟨hdownloading, hmetadata, Or.inl ⟨_, _, rfl, rfl⟩⟩⟩
    | started => cases hnot _ _ rfl
    | _ => cases h

/-- A `verify` that succeeds ends the download into the bank and leaves the flash alone. -/
theorem verifies_cases (h : verifies bank (otaMachine.stepAt s c) = true) :
    c = .verify true ∧ s.manager.state = .downloading ∧ s.manager.getTargetBank = bank ∧
      (s.call c).2.flash = [] := by
  have heffect := effect s c
  have hdownload := downloadEffect s c
  change verifies bank ⟨s, c, (s.call c).2, (s.call c).1⟩ = true at h
  generalize s.call c = r at heffect hdownload h ⊢
  cases heffect with
  | verified saved hdownloading =>
    have hbank : s.manager.getTargetBank = bank := by simpa [verifies] using h
    cases hdownload with
    | verified => exact ⟨rfl, hdownloading, hbank, rfl⟩
    | kept _ _ _ _ _ hstate => rw [← hstate] at hdownloading; cases hdownloading
    | remaining _ _ _ _ _ hverifying => exact absurd rfl hverifying
  | refused c => cases c <;> cases h
  | failed c => cases c <;> cases h
  | _ => cases h

/-! ## Callers that send what they announced -/

/-- A block that is going to be accepted is the piece of the announced firmware at its offset. -/
def SendsImage (image : FirmwareMetadata → List UInt8) (s : OtaSystem) (c : OtaCall) : Prop :=
  match c with
  | .writeBlock offset data =>
    (s.writeBlock offset data).2.ok = true → IsPiece (image s.manager.targetMetadata) offset.toNat data
  | _ => True

structure HonestCall (image : FirmwareMetadata → List UInt8) (past : List OtaStep) (s : OtaSystem)
    (c : OtaCall) : Prop where
  rollsBackSafely : RollsBackSafely past s c
  verifiesComplete : VerifiesComplete past s c
  sendsImage : SendsImage image s c

/-- The bank holds the firmware that was verified there last, or what it held at the beginning. -/
def HoldsVerified (image : FirmwareMetadata → List UInt8) (files : BankFiles) (past : List OtaStep)
    (bank : BootBank) : Prop :=
  contents files past bank = match lastWhere (verifies bank) past with
    | none => files bank
    | some e => image e.pre.manager.targetMetadata

/-- The blocks accepted since the last accepted `startDownload` contain byte `i`. -/
def Written (past : List OtaStep) (i : ℕ) : Prop := ∃ e ∈ sinceLast accepts past, Covers e i

structure Genuine (image : FirmwareMetadata → List UInt8) (files : BankFiles) (past : List OtaStep)
    (s : OtaSystem) : Prop where
  safe : Safe past s
  announced : Announced past s
  assembled : s.manager.state = .downloading → Assembled (image s.manager.targetMetadata)
    (contents files past s.manager.getTargetBank) (Written past)
  holds : ∀ bank, Intact past bank → HoldsVerified image files past bank

theorem holdsVerified_concat (h : Intact past bank → HoldsVerified image files past bank)
    (hverifies : verifies bank e = true → e.output.flash = [] ∧
      contents files past bank = image e.pre.manager.targetMetadata)
    (hintact : Intact (past ++ [e]) bank) : HoldsVerified image files (past ++ [e]) bank := by
  cases hbank : verifies bank e with
  | true =>
    obtain ⟨hflash, himage⟩ := hverifies hbank
    rw [HoldsVerified, lastWhere_concat_pos hbank, contents_concat, hflash]
    exact himage
  | false =>
    have hmarks := not_or.mp (mt (markedSince_concat hbank past).mpr hintact)
    rw [HoldsVerified, lastWhere_concat_neg hbank, contents_of_untouched (eq_false_of_ne_true hmarks.2)]
    exact h hmarks.1

theorem written_concat_of_accepts (h : accepts e = true) {i : ℕ} : ¬ Written (past ++ [e]) i := by
  simp [Written, sinceLast_concat_pos h]

theorem written_concat (h : accepts e = false) {i : ℕ} :
    Written (past ++ [e]) i ↔ Written past i ∨ Covers e i := by
  rw [Written, sinceLast_concat_neg h]
  simp only [List.mem_append, List.mem_singleton, or_and_right, exists_or, exists_eq_left]
  rfl

/-- Verified means assembled, and complete. -/
theorem Genuine.image_of_verifies (h : Genuine image files past s)
    (hlength : ∀ metadata, (image metadata).length = metadata.size.toNat)
    (hc : VerifiesComplete past s c) (hverifies : verifies bank (otaMachine.stepAt s c) = true) :
    contents files past bank = image s.manager.targetMetadata := by
  obtain ⟨rfl, hdownloading, rfl, -⟩ := verifies_cases hverifies
  obtain ⟨firmwareSize, metadata, hlast, hsize, hcovered⟩ := hc hdownloading rfl
  rw [h.announced (Or.inl hdownloading)] at hlast
  obtain ⟨rfl, rfl⟩ := Prod.mk.inj (Option.some.inj hlast)
  refine (h.assembled hdownloading).eq_image fun i hi => hcovered i ?_
  rwa [hsize, ← hlength]

theorem Genuine.assembled_step (h : Genuine image files past s) (hc : SendsImage image s c)
    (hstate : (s.call c).1.manager.state = .downloading) :
    Assembled (image (s.call c).1.manager.targetMetadata)
      (contents files (past ++ [otaMachine.stepAt s c]) (s.call c).1.manager.getTargetBank)
      (Written (past ++ [otaMachine.stepAt s c])) := by
  obtain ⟨htarget, ⟨firmwareSize, metadata, rfl, hr⟩ | ⟨hdownloading, hmetadata, hblock⟩⟩ :=
    downloading_cases hstate
  · have haccepts : accepts (otaMachine.stepAt s (.startDownload firmwareSize metadata)) = true := by
      change (s.call (.startDownload firmwareSize metadata)).2.ok = true
      rw [hr]
    have hempty : contents files (past ++ [otaMachine.stepAt s (.startDownload firmwareSize metadata)])
        s.manager.getTargetBank = [] := by
      rw [contents_stepAt, hr]
      exact Function.update_self _ _ _
    rw [htarget, hempty]
    exact assembled_nil.mono fun i hi => written_concat_of_accepts haccepts hi
  · have hassembled := h.assembled hdownloading
    rw [htarget, hmetadata]
    rcases hblock with ⟨offset, data, rfl, hr⟩ | ⟨hok, hflash⟩
    · have hpiece : IsPiece (image s.manager.targetMetadata) offset.toNat data := hc (by
        change (s.call (.writeBlock offset data)).2.ok = true
        rw [hr])
      have hfile : contents files (past ++ [otaMachine.stepAt s (.writeBlock offset data)])
          s.manager.getTargetBank =
          patch 0 (contents files past s.manager.getTargetBank) offset.toNat data := by
        rw [contents_stepAt, hr]
        exact Function.update_self _ _ _
      rw [hfile]
      refine (hassembled.patch hpiece).mono fun i hi => ((written_concat rfl).mp hi).imp id ?_
      rintro ⟨_, _, hinput, -, hin⟩
      cases hinput
      exact hin
    · have haccepts : accepts (otaMachine.stepAt s c) = false := accepts_of_refused fun _ _ _ => hok
      have hfile : contents files (past ++ [otaMachine.stepAt s c]) = contents files past := by
        rw [contents_stepAt, hflash]
        rfl
      rw [hfile]
      refine hassembled.mono fun i hi => ((written_concat haccepts).mp hi).resolve_right ?_
      rintro ⟨_, _, _, hcovers, -⟩
      exact absurd (hok.symm.trans hcovers) Bool.false_ne_true

theorem Genuine.step (h : Genuine image files past s)
    (hlength : ∀ metadata, (image metadata).length = metadata.size.toNat) (hc : HonestCall image past s c) :
    Genuine image files (past ++ [otaMachine.stepAt s c]) (otaMachine.stepAt s c).post where
  safe := (effect s c).safe h.safe hc.rollsBackSafely
  announced := announced_step past s c h.announced
  assembled hstate := h.assembled_step hc.sendsImage hstate
  holds bank := by
    apply holdsVerified_concat (h.holds bank)
    intro hverifies
    obtain ⟨-, -, -, hflash⟩ := verifies_cases hverifies
    exact ⟨hflash, h.image_of_verifies hlength hc.verifiesComplete hverifies⟩

theorem genuine_factory (bankBValid : Bool) : Genuine image files [] (factory bankBValid) where
  safe := safe_factory bankBValid
  announced hstate := by rcases hstate with h | h <;> cases h
  assembled hstate := by cases hstate
  holds _ _ := rfl

/-- **What runs.** From bank A active and valid, when every accepted block is a piece of the announced
firmware, every `verify` that succeeds comes behind a complete download and no rollback goes to a bank
with an unverified download: at any time the file of the active bank is the firmware verified there
last, or what it was at the beginning. -/
theorem active_bank_verified (image : FirmwareMetadata → List UInt8) (files : BankFiles) (bankBValid : Bool)
    (calls : List OtaCall) (hlength : ∀ metadata, (image metadata).length = metadata.size.toNat)
    (hcalls : otaMachine.Admits (HonestCall image) (factory bankBValid) calls) :
    ∀ past, past <+: calls →
      HoldsVerified image files (otaMachine.trace (factory bankBValid) past)
        (otaMachine.run (factory bankBValid) past).bootloader.activeBank := by
  rintro past ⟨rest, rfl⟩
  have hgenuine := Machine.induction_of_admits (M := otaMachine) (P := Genuine image files)
    (genuine_factory bankBValid) (fun _ _ _ h hc => h.step hlength hc) past hcalls.of_append
  exact hgenuine.holds _ hgenuine.safe.intact

/-- Four bytes, sent in two blocks, the second half first. -/
theorem active_bank_verified_two_blocks : ∃ image : FirmwareMetadata → List UInt8,
    image ⟨1, 4, 7, []⟩ = [1, 1, 1, 1] ∧ HoldsVerified image (fun _ => []) (otaMachine.trace (factory false)
      [.startDownload 4 ⟨1, 4, 7, []⟩, .writeBlock 2 [1, 1], .writeBlock 0 [1, 1], .verify true, .install])
      .bankB := by
  let image : FirmwareMetadata → List UInt8 := fun metadata => List.replicate metadata.size.toNat 1
  refine ⟨image, rfl, ?_⟩
  refine active_bank_verified image (fun _ => []) false
    ([.startDownload 4 ⟨1, 4, 7, []⟩, .writeBlock 2 [1, 1], .writeBlock 0 [1, 1], .verify true] ++ [.install])
    (fun _ => List.length_replicate) ?_ _ List.prefix_rfl
  have hcovered : ∀ i < 4, ∃ e ∈ sinceLast accepts (otaMachine.trace (factory false)
      [.startDownload 4 ⟨1, 4, 7, []⟩, .writeBlock 2 [1, 1], .writeBlock 0 [1, 1]]), Covers e i := by
    intro i hi
    by_cases hlow : i < 2
    · exact ⟨_, List.mem_of_getElem? (i := 1) rfl, 0, [1, 1], rfl, rfl, Nat.zero_le _, hlow⟩
    · exact ⟨_, List.mem_of_getElem? (i := 0) rfl, 2, [1, 1], rfl, rfl, Nat.le_of_not_lt hlow, hi⟩
  have hstart : otaMachine.Admits (HonestCall image) (factory false)
      ([] ++ [.startDownload 4 ⟨1, 4, 7, []⟩]) :=
    Machine.admits_concat.mpr ⟨Machine.admits_nil, trivial, trivial, trivial⟩
  have hblocks : otaMachine.Admits (HonestCall image) (factory false)
      ([.startDownload 4 ⟨1, 4, 7, []⟩] ++ [.writeBlock 2 [1, 1]] ++ [.writeBlock 0 [1, 1]]) :=
    Machine.admits_concat.mpr ⟨Machine.admits_concat.mpr ⟨hstart, trivial, trivial, fun _ => rfl⟩,
      trivial, trivial, fun _ => rfl⟩
  have hverify : otaMachine.Admits (HonestCall image) (factory false)
      ([.startDownload 4 ⟨1, 4, 7, []⟩, .writeBlock 2 [1, 1], .writeBlock 0 [1, 1]] ++ [.verify true]) :=
    Machine.admits_concat.mpr ⟨hblocks, trivial, fun _ _ => ⟨4, _, rfl, rfl, hcovered⟩, trivial⟩
  exact Machine.admits_concat.mpr ⟨hverify, trivial, trivial, trivial⟩

end Mcus.Ota
