import Mcus.Ota.NoBrick

/-! # Incomplete images

`install` asks whether `verify` was called, and `verify` asks for nothing at all: the two checks of
the image always succeed, the bytes written are only counted for the progress display, and the size
that `startDownload` is told is never compared with the size in the metadata. An image is complete
when it is installed exactly as long as the caller sees to both before it calls `verify`.
-/

namespace Mcus.Ota
open Runs
set_option autoImplicit false

/-- A `startDownload` that was accepted. -/
def accepts (e : OtaStep) : Bool :=
  match e.input with
  | .startDownload _ _ => e.output.ok
  | _ => false

/-- What the last accepted `startDownload` was given. -/
def lastDownload (past : List OtaStep) : Option (UInt32 × FirmwareMetadata) :=
  (lastWhere accepts past).bind fun e =>
    match e.input with
    | .startDownload firmwareSize metadata => some (firmwareSize, metadata)
    | _ => none

/-- A block that was accepted contains byte `i`. -/
def Covers (e : OtaStep) (i : ℕ) : Prop :=
  ∃ offset data, e.input = .writeBlock offset data ∧ e.output.ok = true ∧
    offset.toNat ≤ i ∧ i < offset.toNat + data.length

/-- The blocks accepted since the last accepted `startDownload` contain the first `size` bytes. -/
def Covered (past : List OtaStep) (size : ℕ) : Prop := ∀ i < size, ∃ e ∈ sinceLast accepts past, Covers e i

/-- The image in the target bank is all of the firmware that was announced. -/
structure Complete (past : List OtaStep) (s : OtaSystem) : Prop where
  covered : Covered past s.manager.targetSize.toNat
  size : s.manager.targetSize = s.manager.targetMetadata.size

/-- At any point of the run, `install` returns true only for a complete image. -/
def InstallsComplete (b : Bootloader) (calls : List OtaCall) : Prop :=
  ∀ past, past <+: calls → (otaMachine.run ⟨.construct b, b⟩ past).install.2.ok = true →
    Complete (otaMachine.trace ⟨.construct b, b⟩ past) (otaMachine.run ⟨.construct b, b⟩ past)

/-- A `verify` that is going to succeed comes behind a download that was announced with the size of
its metadata and whose blocks contain all of it. -/
def VerifiesComplete (past : List OtaStep) (s : OtaSystem) (c : OtaCall) : Prop :=
  match c with
  | .verify saved => s.manager.state = .downloading → saved = true →
      ∃ firmwareSize metadata, lastDownload past = some (firmwareSize, metadata) ∧
        firmwareSize = metadata.size ∧ Covered past firmwareSize.toNat
  | _ => True

variable {past : List OtaStep} {s : OtaSystem} {c : OtaCall} {e : OtaStep}

/-! ## What a call does to the download -/

/-- The kinds of call, by what they do to the download in progress. -/
inductive DownloadEffect (s : OtaSystem) : OtaCall → OtaSystem × CallResult → Prop
  | started (firmwareSize : UInt32) (metadata : FirmwareMetadata) (r : OtaSystem × CallResult)
      (hok : r.2.ok = true) (hsize : r.1.manager.targetSize = firmwareSize)
      (hmetadata : r.1.manager.targetMetadata = metadata) (hstate : r.1.manager.state = .downloading) :
      DownloadEffect s (.startDownload firmwareSize metadata) r
  | verified (r : OtaSystem × CallResult) (hdownloading : s.manager.state = .downloading)
      (hnext : r.1 = s.setState .verifying) : DownloadEffect s (.verify true) r
  | kept (c : OtaCall) (r : OtaSystem × CallResult)
      (hnot : ∀ firmwareSize metadata, c = .startDownload firmwareSize metadata → r.2.ok = false)
      (hsize : r.1.manager.targetSize = s.manager.targetSize)
      (hmetadata : r.1.manager.targetMetadata = s.manager.targetMetadata)
      (hstate : r.1.manager.state = s.manager.state)
      (hverify : c = .verify true → s.manager.state ≠ .downloading) : DownloadEffect s c r
  | remaining (c : OtaCall) (r : OtaSystem × CallResult)
      (hnot : ∀ firmwareSize metadata, c ≠ .startDownload firmwareSize metadata)
      (hverify : c ≠ .verify true)
      (hdownloading : r.1.manager.state ≠ .downloading) (hverifying : r.1.manager.state ≠ .verifying) :
      DownloadEffect s c r

theorem DownloadEffect.refused {error : String}
    (hverify : c = .verify true → s.manager.state ≠ .downloading) :
    DownloadEffect s c (s, .refused error) := .kept c _ (fun _ _ _ => rfl) rfl rfl rfl hverify

theorem downloadEffect (s : OtaSystem) (c : OtaCall) : DownloadEffect s c (s.call c) := by
  cases c with
  | startDownload firmwareSize metadata =>
    unfold OtaSystem.call OtaSystem.startDownload
    dsimp only
    split
    case isTrue => exact .refused nofun
    case isFalse =>
      split
      case isTrue => exact .refused nofun
      case isFalse => exact .started firmwareSize metadata _ rfl rfl rfl rfl
  | writeBlock offset data =>
    unfold OtaSystem.call OtaSystem.writeBlock
    dsimp only
    split
    case isTrue => exact .refused nofun
    case isFalse =>
      split
      case isTrue => exact .refused nofun
      case isFalse => exact .kept _ _ nofun rfl rfl rfl nofun
  | verify saved =>
    unfold OtaSystem.call OtaSystem.verify OtaManager.verifyCRC OtaManager.verifySignature
    dsimp only
    split
    case isTrue hstate => exact .refused fun _ => hstate
    case isFalse hstate =>
      cases saved with
      | false => exact .remaining _ _ nofun nofun nofun nofun
      | true => exact .verified _ (not_not.mp hstate) rfl
  | install =>
    unfold OtaSystem.call OtaSystem.install
    dsimp only
    split
    case isTrue => exact .refused nofun
    case isFalse =>
      rw [setActiveBank_target]
      exact .remaining _ _ nofun nofun nofun nofun
  | rollback =>
    change DownloadEffect s .rollback s.rollback
    rw [rollback_eq]
    split
    case isTrue => exact .remaining _ _ nofun nofun nofun nofun
    case isFalse => exact .remaining _ _ nofun nofun nofun nofun
  | restart => exact .remaining _ _ nofun nofun nofun nofun

theorem install_ok_iff : s.install.2.ok = true ↔ s.manager.state = .verifying := by
  unfold OtaSystem.install
  dsimp only
  split
  case isTrue hstate => exact iff_of_false Bool.false_ne_true hstate
  case isFalse hstate =>
    rw [setActiveBank_target]
    exact iff_of_true rfl (not_not.mp hstate)

/-! ## The blocks of the download -/

theorem accepts_of_refused (hnot : ∀ firmwareSize metadata,
    e.input = .startDownload firmwareSize metadata → e.output.ok = false) : accepts e = false := by
  unfold accepts
  split
  case h_1 firmwareSize metadata hinput => exact hnot _ _ hinput
  case h_2 => rfl

theorem lastDownload_concat (hnot : accepts e = false) : lastDownload (past ++ [e]) = lastDownload past := by
  rw [lastDownload, lastDownload, lastWhere_concat_neg hnot]

theorem Covered.concat {size : ℕ} (hnot : accepts e = false) (h : Covered past size) :
    Covered (past ++ [e]) size := by
  intro i hi
  obtain ⟨d, hd, hcovers⟩ := h i hi
  rw [sinceLast_concat_neg hnot]
  exact ⟨d, List.mem_append_left _ hd, hcovers⟩

/-- A step that is neither a download nor a block covers nothing. -/
theorem covered_concat_iff {size : ℕ} (hnot : accepts e = false) (hblock : ∀ i, ¬ Covers e i) :
    Covered (past ++ [e]) size ↔ Covered past size := by
  refine ⟨fun h i hi => ?_, .concat hnot⟩
  obtain ⟨d, hd, hcovers⟩ := h i hi
  rw [sinceLast_concat_neg hnot] at hd
  rcases List.mem_append.mp hd with hd | hd
  · exact ⟨d, hd, hcovers⟩
  · exact absurd (List.mem_singleton.mp hd ▸ hcovers) (hblock i)

/-- The download in progress is the last one accepted. -/
def Announced (past : List OtaStep) (s : OtaSystem) : Prop :=
  s.manager.state = .downloading ∨ s.manager.state = .verifying →
    lastDownload past = some (s.manager.targetSize, s.manager.targetMetadata)

theorem announced_step (past : List OtaStep) (s : OtaSystem) (c : OtaCall) (h : Announced past s) :
    Announced (past ++ [otaMachine.stepAt s c]) (otaMachine.stepAt s c).post := by
  have heffect := downloadEffect s c
  intro hstate
  change (s.call c).1.manager.state = .downloading ∨ (s.call c).1.manager.state = .verifying at hstate
  change lastDownload (past ++ [⟨s, c, (s.call c).2, (s.call c).1⟩]) =
    some ((s.call c).1.manager.targetSize, (s.call c).1.manager.targetMetadata)
  generalize s.call c = r at heffect hstate ⊢
  cases heffect with
  | started firmwareSize metadata _ hok hsize hmetadata =>
    have haccepts : accepts ⟨s, .startDownload firmwareSize metadata, r.2, r.1⟩ = true := hok
    rw [lastDownload, lastWhere_concat_pos haccepts, hsize, hmetadata]
    rfl
  | verified _ hdownloading hnext =>
    rw [lastDownload_concat rfl, h (Or.inl hdownloading), hnext]
    rfl
  | kept _ _ hnot hsize hmetadata hsame =>
    rw [lastDownload_concat (accepts_of_refused hnot), h (hsame ▸ hstate), hsize, hmetadata]
  | remaining _ _ _ _ hdownloading hverifying => exact (hstate.elim hdownloading hverifying).elim

theorem announced_run (b : Bootloader) (calls : List OtaCall) :
    Announced (otaMachine.trace ⟨.construct b, b⟩ calls) (otaMachine.run ⟨.construct b, b⟩ calls) :=
  Machine.induction (fun hstate => by rcases hstate with h | h <;> cases h) announced_step calls

/-- One more call decides about `install` only if it is a `verify` that succeeds. -/
theorem complete_step (hannounced : Announced past s) (hinv : s.install.2.ok = true → Complete past s) :
    ((s.call c).1.install.2.ok = true → Complete (past ++ [otaMachine.stepAt s c]) (s.call c).1) ↔
      VerifiesComplete past s c := by
  have heffect := downloadEffect s c
  rw [install_ok_iff]
  rw [install_ok_iff] at hinv
  change (_ → Complete (past ++ [⟨s, c, (s.call c).2, (s.call c).1⟩]) _) ↔ _
  generalize s.call c = r at heffect ⊢
  cases heffect with
  | started _ _ _ _ _ _ hstate =>
    rw [hstate]
    exact iff_of_true nofun trivial
  | remaining _ _ hnot hverify _ hverifying =>
    refine iff_of_true (fun hstate => absurd hstate hverifying) ?_
    cases c with
    | verify saved =>
      cases saved with
      | false => exact fun _ hsaved => absurd hsaved (by decide)
      | true => exact absurd rfl hverify
    | _ => exact trivial
  | kept _ _ hnot hsize hmetadata hsame hverify =>
    refine iff_of_true ?_ ?_
    · intro hstate
      obtain ⟨hcovered, hequal⟩ := hinv (hsame ▸ hstate)
      refine ⟨?_, by rw [hsize, hmetadata, hequal]⟩
      rw [hsize]
      exact hcovered.concat (accepts_of_refused hnot)
    · cases c with
      | verify saved =>
        intro hdownloading hsaved
        exact absurd hdownloading (hverify (hsaved ▸ rfl))
      | _ => exact trivial
  | verified _ hdownloading hnext =>
    have hlast := hannounced (Or.inl hdownloading)
    have hcovered : ∀ size, Covered (past ++ [⟨s, .verify true, r.2, r.1⟩]) size ↔ Covered past size :=
      fun size => covered_concat_iff rfl fun i h => by
        obtain ⟨_, _, hinput, -⟩ := h
        cases hinput
    rw [hnext] at hcovered ⊢
    constructor
    · intro h _ _
      obtain ⟨hall, hequal⟩ := h rfl
      exact ⟨_, _, hlast, hequal, (hcovered _).mp hall⟩
    · intro h _
      obtain ⟨firmwareSize, metadata, hlast', hequal, hall⟩ := h hdownloading rfl
      obtain ⟨rfl, rfl⟩ := Prod.mk.inj (Option.some.inj (hlast.symm.trans hlast'))
      exact ⟨(hcovered _).mpr hall, hequal⟩

/-- **Completeness.** At any point of a run `install` would activate a complete image only, exactly
when every `verify` that succeeds comes behind a download that is complete. -/
theorem installsComplete_iff (b : Bootloader) (calls : List OtaCall) :
    InstallsComplete b calls ↔ otaMachine.Admits VerifiesComplete ⟨.construct b, b⟩ calls := by
  have hempty : (OtaSystem.install ⟨.construct b, b⟩).2.ok = true →
      Complete [] (⟨.construct b, b⟩ : OtaSystem) := fun hok => by cases install_ok_iff.mp hok
  refine Machine.admits_iff_forall_prefix hempty ?_
  intro past c rest _ _ hpast
  rw [Machine.trace_concat, Machine.run_concat]
  exact complete_step (announced_run b past) hpast

/-- Two bytes are announced and the first is sent twice; five bytes are downloaded for metadata that
name nine. -/
theorem install_incomplete : ∃ b repeated short,
    ¬ InstallsComplete b repeated ∧ ¬ InstallsComplete b short := by
  refine ⟨⟨.bankA, true, false⟩,
    [.startDownload 2 ⟨1, 2, 1, []⟩, .writeBlock 0 [0xAA], .writeBlock 0 [0xAA], .verify true],
    [.startDownload 5 ⟨1, 9, 1, []⟩, .writeBlock 0 [1, 2, 3, 4, 5], .verify true], ?_, ?_⟩
  · intro hcomplete
    obtain ⟨hcovered, -⟩ := hcomplete _ (List.prefix_refl _) rfl
    obtain ⟨e, he, offset, data, hinput, -, -, hlt⟩ := hcovered 1 (by decide)
    have hinputs : (sinceLast accepts (otaMachine.trace
        ⟨.construct ⟨.bankA, true, false⟩, ⟨.bankA, true, false⟩⟩
        [.startDownload 2 ⟨1, 2, 1, []⟩, .writeBlock 0 [0xAA], .writeBlock 0 [0xAA], .verify true])).map
          (·.input) = [.writeBlock 0 [0xAA], .writeBlock 0 [0xAA], .verify true] := rfl
    have hmem := List.mem_map_of_mem (f := (·.input)) he
    rw [hinputs, hinput] at hmem
    simp only [List.mem_cons, OtaCall.writeBlock.injEq, List.not_mem_nil, reduceCtorEq, or_false,
      or_self] at hmem
    obtain ⟨rfl, rfl⟩ := hmem
    exact absurd hlt (by decide)
  · intro hcomplete
    obtain ⟨-, hsize⟩ := hcomplete _ (List.prefix_refl _) rfl
    exact absurd hsize (by decide)

end Mcus.Ota
