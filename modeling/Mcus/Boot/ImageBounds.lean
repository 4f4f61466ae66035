import Mcus.Boot.SecureBoot

/-! # How far verification reads

The length of an image is a word of its metadata. `boot_common.h` names the size of the code region
behind each metadata block, and no routine compares the two: a CRC or a signature is computed over as
many bytes as the metadata say, and none at all are as good as an image.
-/

namespace Mcus.Boot
open BlockStore
set_option autoImplicit false

/-- `REGION_A_BOOT_SIZE`, `REGION_B_BOOT_SIZE`. -/
abbrev regionBootSize : ℕ := 0x00031000

/-- `REGION_A_APP_SIZE`, `REGION_B_APP_SIZE`. -/
abbrev regionAppSize : ℕ := 0x0112D000

/-- The addresses and lengths that the CRC and the signature are computed over in `stage1_main`. -/
def EndNode.stage1Computations (env : BootEnv) (bank : BootBank) : List (ℕ × ℕ) :=
  let metadata := readMetadata env.flash (stage2Meta bank)
  if metadata.magic ≠ magicNumber then [] else [(stage2Start bank, metadata.size.toNat)]

/-- Those of `stage2_verify_application`. -/
def EndNode.stage2Computations (env : BootEnv) (bank : BootBank) : List (ℕ × ℕ) :=
  let metadata := readMetadata env.flash (appMeta bank)
  let computation := (appStart bank, metadata.size.toNat)
  if metadata.magic ≠ magicNumber then []
  else if metadata.valid ≠ 1 then []
  else if env.calculateCrc32 (load env.flash (appStart bank) metadata.size.toNat) ≠ metadata.crc32 then
    [computation]
  else [computation, computation]

/-- Those of `stage1_verify_stage2` and `stage2_verify_app`. -/
def Zonal.imageComputations (env : BootEnv) (metaAddr : ℕ) : List (ℕ × ℕ) :=
  let metadata := readMetadata env.flash metaAddr
  if metadata.magic ≠ magicNumber then []
  else if metadata.valid ≠ 1 then []
  else [(metaAddr + 0x1000, metadata.size.toNat)]

/-! ## The four routines -/

inductive Verification
  | ecuStage1
  | ecuStage2
  | gatewayStage1
  | gatewayStage2
  deriving DecidableEq, Repr

namespace Verification

def metaAddr : Verification → BootBank → ℕ
  | .ecuStage1, bank => stage2Meta bank
  | .ecuStage2, bank => appMeta bank
  | .gatewayStage1, bank => stage2Meta bank
  | .gatewayStage2, bank => appMeta bank

def codeStart : Verification → BootBank → ℕ
  | .ecuStage1, bank => stage2Start bank
  | .ecuStage2, bank => appStart bank
  | .gatewayStage1, bank => stage2Start bank
  | .gatewayStage2, bank => appStart bank

def codeSize : Verification → ℕ
  | .ecuStage1 => regionBootSize
  | .ecuStage2 => regionAppSize
  | .gatewayStage1 => regionBootSize
  | .gatewayStage2 => regionAppSize

def image (env : BootEnv) (v : Verification) (bank : BootBank) : BootMetadata :=
  readMetadata env.flash (v.metaAddr bank)

def Accepts (env : BootEnv) : Verification → BootBank → Prop
  | .ecuStage1, bank => EndNode.Stage1Accepts env bank
  | .ecuStage2, bank => EndNode.stage2VerifyApplication env bank = true
  | .gatewayStage1, bank => Zonal.stage1VerifyStage2 env (stage2Meta bank) = true
  | .gatewayStage2, bank => Zonal.stage2VerifyApp env (appMeta bank) = true

def computations (env : BootEnv) : Verification → BootBank → List (ℕ × ℕ)
  | .ecuStage1, bank => EndNode.stage1Computations env bank
  | .ecuStage2, bank => EndNode.stage2Computations env bank
  | .gatewayStage1, bank => Zonal.imageComputations env (stage2Meta bank)
  | .gatewayStage2, bank => Zonal.imageComputations env (appMeta bank)

/-- A boot jumps to the image that the routine is about. -/
def Starts (env : BootEnv) (cfg : BootConfig) : Verification → BootBank → Prop
  | .ecuStage1, bank => (EndNode.boot env cfg).stage2 = some bank
  | .ecuStage2, bank => (EndNode.boot env cfg).app = some bank
  | .gatewayStage1, bank => (Zonal.boot env cfg).stage2 = some bank
  | .gatewayStage2, bank => (Zonal.boot env cfg).app = some bank

/-- The addresses wrap around at 32 bits. -/
def readAddresses (computation : ℕ × ℕ) : List ℕ :=
  (List.range computation.2).map fun i => (computation.1 + i) % 2 ^ 32

/-- Verification stays inside the bank, and what it accepts or a boot starts is not empty. -/
structure StaysInBank (env : BootEnv) (v : Verification) (bank : BootBank) : Prop where
  accepted : v.Accepts env bank → 0 < (v.image env bank).size.toNat ∧ (v.image env bank).size.toNat ≤ v.codeSize
  reads : ∀ computation ∈ v.computations env bank, ∀ address ∈ readAddresses computation,
    v.codeStart bank ≤ address ∧ address < v.codeStart bank + v.codeSize
  started : ∀ cfg, v.Starts env cfg bank → 0 < (v.image env bank).size.toNat

/-! ## What the routines check -/

/-- The magic number, and the valid flag where it is looked at: what comes before the CRC. -/
def HeaderOk (v : Verification) (image : BootMetadata) : Prop :=
  image.magic = magicNumber ∧ (v ≠ .ecuStage1 → image.valid = 1)

/-- No bytes at all have the CRC of the metadata, and the signature where it is looked at. -/
def EmptyPasses (env : BootEnv) (v : Verification) (image : BootMetadata) : Prop :=
  env.calculateCrc32 [] = image.crc32 ∧ (v = .ecuStage2 → env.verifyDilithiumSignature [] image.signature = true)

/-- An image whose CRC is computed is no longer than the region, and is not an empty one that passes. -/
def SizeOk (env : BootEnv) (v : Verification) (bank : BootBank) : Prop :=
  v.HeaderOk (v.image env bank) →
    (v.image env bank).size.toNat ≤ v.codeSize ∧
      ((v.image env bank).size.toNat = 0 → ¬ v.EmptyPasses env (v.image env bank))

section Checks
variable {env : BootEnv} {v : Verification} {bank : BootBank}

theorem headerOk_iff (v : Verification) {image : BootMetadata} (hv : v ≠ .ecuStage1) :
    v.HeaderOk image ↔ image.magic = magicNumber ∧ image.valid = 1 :=
  and_congr_right fun _ => ⟨fun h => h hv, fun h _ => h⟩

theorem verifyImage_iff {metaAddr : ℕ} : Zonal.verifyImage env metaAddr = true ↔
    (readMetadata env.flash metaAddr).magic = magicNumber ∧ (readMetadata env.flash metaAddr).valid = 1 ∧
      env.calculateCrc32 (load env.flash (metaAddr + 0x1000) (readMetadata env.flash metaAddr).size.toNat) =
        (readMetadata env.flash metaAddr).crc32 := by
  unfold Zonal.verifyImage
  simp

theorem verifyApplication_iff : EndNode.stage2VerifyApplication env bank = true ↔
    Authentic env (appMeta bank) (appStart bank) := by
  refine ⟨EndNode.authentic_of_verifyApplication, fun h => ?_⟩
  have hsigned := h.signature
  unfold Signed at hsigned
  unfold EndNode.stage2VerifyApplication
  simp [h.magic, h.valid, h.crc, hsigned]

/-- Header, CRC and, for an application of the end node, the signature. -/
theorem accepts_iff : v.Accepts env bank ↔ v.HeaderOk (v.image env bank) ∧
    env.calculateCrc32 (load env.flash (v.codeStart bank) (v.image env bank).size.toNat) =
      (v.image env bank).crc32 ∧
    (v = .ecuStage2 → env.verifyDilithiumSignature
      (load env.flash (v.codeStart bank) (v.image env bank).size.toNat) (v.image env bank).signature = true) := by
  cases v with
  | ecuStage1 =>
    constructor
    · rintro ⟨hmagic, hcrc⟩
      exact ⟨⟨hmagic, fun h => absurd rfl h⟩, hcrc, nofun⟩
    · rintro ⟨⟨hmagic, -⟩, hcrc, -⟩
      exact ⟨hmagic, hcrc⟩
  | ecuStage2 =>
    refine verifyApplication_iff.trans ?_
    constructor
    · intro h
      exact ⟨⟨h.magic, fun _ => h.valid⟩, h.crc, fun _ => h.signature⟩
    · rintro ⟨⟨hmagic, hvalid⟩, hcrc, hsigned⟩
      exact ⟨hmagic, hvalid nofun, hcrc, hsigned rfl⟩
  | gatewayStage1 =>
    refine verifyImage_iff.trans ?_
    rw [Zonal.stage2Start_eq, headerOk_iff .gatewayStage1 nofun, and_assoc]
    exact and_congr_right fun _ => and_congr_right fun _ => (and_iff_left nofun).symm
  | gatewayStage2 =>
    refine verifyImage_iff.trans ?_
    rw [Zonal.appStart_eq, headerOk_iff .gatewayStage2 nofun, and_assoc]
    exact and_congr_right fun _ => and_congr_right fun _ => (and_iff_left nofun).symm

theorem mem_imageComputations {metaAddr : ℕ} {computation : ℕ × ℕ} :
    computation ∈ Zonal.imageComputations env metaAddr ↔
      ((readMetadata env.flash metaAddr).magic = magicNumber ∧ (readMetadata env.flash metaAddr).valid = 1) ∧
        computation = (metaAddr + 0x1000, (readMetadata env.flash metaAddr).size.toNat) := by
  unfold Zonal.imageComputations
  dsimp only
  split
  case isTrue hmagic => exact iff_of_false List.not_mem_nil fun h => hmagic h.1.1
  case isFalse hmagic =>
    split
    case isTrue hvalid => exact iff_of_false List.not_mem_nil fun h => hvalid h.1.2
    case isFalse hvalid =>
      rw [List.mem_singleton]
      exact (and_iff_right ⟨not_not.mp hmagic, not_not.mp hvalid⟩).symm

/-- The bytes of the image are read exactly if its header passes. -/
theorem mem_computations {computation : ℕ × ℕ} : computation ∈ v.computations env bank ↔
    v.HeaderOk (v.image env bank) ∧ computation = (v.codeStart bank, (v.image env bank).size.toNat) := by
  cases v with
  | ecuStage1 =>
    change computation ∈ EndNode.stage1Computations env bank ↔ _
    unfold EndNode.stage1Computations
    dsimp only
    split
    case isTrue hmagic => exact iff_of_false List.not_mem_nil fun h => hmagic h.1.1
    case isFalse hmagic =>
      rw [List.mem_singleton]
      exact (and_iff_right ⟨not_not.mp hmagic, fun h => absurd rfl h⟩).symm
  | ecuStage2 =>
    change computation ∈ EndNode.stage2Computations env bank ↔ _
    rw [headerOk_iff .ecuStage2 nofun]
    unfold EndNode.stage2Computations
    dsimp only
    split
    case isTrue hmagic => exact iff_of_false List.not_mem_nil fun h => hmagic h.1.1
    case isFalse hmagic =>
      split
      case isTrue hvalid => exact iff_of_false List.not_mem_nil fun h => hvalid h.1.2
      case isFalse hvalid =>
        refine Iff.trans ?_ (and_iff_right ⟨not_not.mp hmagic, not_not.mp hvalid⟩).symm
        -- the signature is computed over the same bytes as the CRC
        split
        case isTrue => exact List.mem_singleton
        case isFalse => exact List.mem_pair.trans or_self_iff
  | gatewayStage1 =>
    refine mem_imageComputations.trans ?_
    rw [Zonal.stage2Start_eq, headerOk_iff .gatewayStage1 nofun]
    exact Iff.rfl
  | gatewayStage2 =>
    refine mem_imageComputations.trans ?_
    rw [Zonal.appStart_eq, headerOk_iff .gatewayStage2 nofun]
    exact Iff.rfl

/-- An image is jumped to only behind its check. -/
theorem Starts.accepts {cfg : BootConfig} (h : v.Starts env cfg bank) : v.Accepts env bank := by
  cases v with
  | ecuStage1 => exact (EndNode.stage2_eq_some_iff.mp h).2.2
  | ecuStage2 => exact EndNode.app_eq_some h
  | gatewayStage1 => exact (Zonal.stage2_eq_some_iff.mp h).1
  | gatewayStage2 => exact (Zonal.app_eq_some_iff.mp h).2.verified

/-- A code region lies in the address space. -/
theorem codeStart_add_codeSize (v : Verification) (bank : BootBank) : v.codeStart bank + v.codeSize < 2 ^ 32 := by
  cases v <;> cases bank <;> decide

/-- As many bytes from its start are read inside a region as it has. -/
theorem readAddresses_inside_iff {n : ℕ} :
    (∀ address ∈ readAddresses (v.codeStart bank, n),
      v.codeStart bank ≤ address ∧ address < v.codeStart bank + v.codeSize) ↔ n ≤ v.codeSize := by
  have hspace := codeStart_add_codeSize v bank
  constructor
  · intro h
    by_contra hlong
    have hmem : (v.codeStart bank + v.codeSize) % 2 ^ 32 ∈ readAddresses (v.codeStart bank, n) :=
      List.mem_map.mpr ⟨v.codeSize, List.mem_range.mpr (Nat.lt_of_not_le hlong), rfl⟩
    rw [Nat.mod_eq_of_lt hspace] at hmem
    exact absurd (h _ hmem).2 (lt_irrefl _)
  · intro hn address haddress
    obtain ⟨i, hi, rfl⟩ := List.mem_map.mp haddress
    have hlt := List.mem_range.mp hi
    dsimp only at hlt ⊢
    rw [Nat.mod_eq_of_lt (by omega)]
    omega

end Checks

/-- **Image bounds.** Verification stays inside the bank exactly if the metadata that pass the header
checks name no more bytes than the region has, and do not describe an empty image. -/
theorem staysInBank_iff (env : BootEnv) (v : Verification) (bank : BootBank) :
    StaysInBank env v bank ↔ SizeOk env v bank := by
  constructor
  · intro h hheader
    refine ⟨readAddresses_inside_iff.mp (h.reads _ (mem_computations.mpr ⟨hheader, rfl⟩)), ?_⟩
    rintro hempty ⟨hcrc, hsigned⟩
    have haccepts : v.Accepts env bank := by
      rw [accepts_iff, hempty]
      exact ⟨hheader, hcrc, hsigned⟩
    exact absurd (h.accepted haccepts).1 (by omega)
  · intro h
    have haccepted : v.Accepts env bank →
        0 < (v.image env bank).size.toNat ∧ (v.image env bank).size.toNat ≤ v.codeSize := by
      intro haccepts
      obtain ⟨hheader, hcrc, hsigned⟩ := accepts_iff.mp haccepts
      obtain ⟨hsize, hempty⟩ := h hheader
      refine ⟨Nat.pos_of_ne_zero fun hzero => hempty hzero ?_, hsize⟩
      rw [hzero] at hcrc hsigned
      exact ⟨hcrc, hsigned⟩
    refine ⟨haccepted, ?_, fun cfg hstarts => (haccepted hstarts.accepts).1⟩
    intro computation hcomputation
    obtain ⟨hheader, rfl⟩ := mem_computations.mp hcomputation
    exact readAddresses_inside_iff.mpr (h hheader).1

/-- Metadata of an image of four gigabytes less one byte. -/
def hugeImageMetadata : List UInt8 :=
  [0xA5, 0xA5, 0xA5, 0xA5, 1, 0, 0, 0, 0xFF, 0xFF, 0xFF, 0xFF, 0, 0, 0, 0] ++ List.replicate 256 0 ++
    [0, 0, 0, 0, 0, 0, 0, 0, 1]

def hugeImageEnv : BootEnv :=
  ⟨storeAll (fun _ => 0xFF) ([stage2Meta .a, stage2Meta .b, appMeta .a, appMeta .b].map
    fun a => (a, hugeImageMetadata)), crc32, fun _ _ => true⟩

/-- No routine refuses the empty image, and none stays in its bank for a length that is too large. -/
theorem images_unbounded : ¬ ∃ v bank,
    StaysInBank (envWith [stage2Meta .a, stage2Meta .b, appMeta .a, appMeta .b]) v bank ∨
      StaysInBank hugeImageEnv v bank := by
  rintro ⟨v, bank, h | h⟩
  · obtain ⟨hmagic, hvalid, hsize, hcrc⟩ :
        (v.image (envWith [stage2Meta .a, stage2Meta .b, appMeta .a, appMeta .b]) bank).magic = magicNumber ∧
        (v.image (envWith [stage2Meta .a, stage2Meta .b, appMeta .a, appMeta .b]) bank).valid = 1 ∧
        (v.image (envWith [stage2Meta .a, stage2Meta .b, appMeta .a, appMeta .b]) bank).size.toNat = 0 ∧
        (v.image (envWith [stage2Meta .a, stage2Meta .b, appMeta .a, appMeta .b]) bank).crc32 = crc32 [] := by
      cases v <;> cases bank <;> decide +kernel
    have haccepts := accepts_iff.mpr ⟨⟨hmagic, fun _ => hvalid⟩, by rw [hsize]; exact hcrc.symm, fun _ => rfl⟩
    exact absurd (h.accepted haccepts).1 (by omega)
  · obtain ⟨hmagic, hvalid, hsize⟩ : (v.image hugeImageEnv bank).magic = magicNumber ∧
        (v.image hugeImageEnv bank).valid = 1 ∧ v.codeSize < (v.image hugeImageEnv bank).size.toNat := by
      cases v <;> cases bank <;> decide +kernel
    have hreads := h.reads _ (mem_computations.mpr ⟨⟨hmagic, fun _ => hvalid⟩, rfl⟩)
    exact absurd (readAddresses_inside_iff.mp hreads) (Nat.not_le.mpr hsize)

end Verification
end Mcus.Boot
