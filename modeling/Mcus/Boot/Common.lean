import Mcus.Foundations.BlockStore
import Mcus.Foundations.ByteOrder
import Mcus.Foundations.Restart

/-! # What both boot loaders share

`boot_common.h`, the same on the end-node ECU and the zonal gateway, and the functions whose bodies
are the same in both: reading the active Stage 2 bank, and the boot counters of Stage 2 banks and
application banks. Flash contents, `calculate_crc32` and `verify_dilithium_signature` are what a
boot depends on besides the configuration, and they are parameters; the first is read at the
addresses of the source, the other two are functions of the bytes they are given. Messages, and
metadata fields that are only printed or never read, are left out.
-/

namespace Mcus.Boot
open BlockStore ByteOrder
set_option autoImplicit false

inductive BootBank
  | a
  | b
  deriving DecidableEq, Repr

def BootBank.other : BootBank → BootBank
  | .a => .b
  | .b => .a

abbrev maxBootAttempts : UInt8 := 3
abbrev magicNumber : UInt32 := 0xA5A5A5A5

/-- `BootConfig`, 20 packed bytes. -/
structure BootConfig where
  stage2Active : UInt8
  stage2BootCntA : UInt8
  stage2BootCntB : UInt8
  appActive : UInt8
  appBootCntA : UInt8
  appBootCntB : UInt8
  otaPending : UInt8
  reserved : Vector UInt8 9
  crc : UInt32
  deriving DecidableEq

/-- The first `sizeof(BootConfig) - 4` bytes. -/
def BootConfig.bytes (cfg : BootConfig) : List UInt8 :=
  [cfg.stage2Active, cfg.stage2BootCntA, cfg.stage2BootCntB, cfg.appActive, cfg.appBootCntA,
    cfg.appBootCntB, cfg.otaPending] ++ cfg.reserved.toList

/-- The fields of `BootMetadata` that a stage checks. -/
structure BootMetadata where
  magic : UInt32
  size : UInt32
  crc32 : UInt32
  signature : List UInt8
  valid : UInt8

/-- What a boot reads and calls besides the configuration. -/
structure BootEnv where
  flash : Memory UInt8
  calculateCrc32 : List UInt8 → UInt32
  verifyDilithiumSignature : List UInt8 → List UInt8 → Bool

/-- A 32-bit word in the byte order of the controller. -/
def readWord (flash : Memory UInt8) (address : ℕ) : UInt32 :=
  word32 (flash (address + 3)) (flash (address + 2)) (flash (address + 1)) (flash address)

/-- The packed record at an address. -/
def readMetadata (flash : Memory UInt8) (address : ℕ) : BootMetadata where
  magic := readWord flash address
  size := readWord flash (address + 8)
  crc32 := readWord flash (address + 12)
  signature := load flash (address + 16) 256
  valid := flash (address + 280)

/-! ## Memory map -/

/-- `STAGE2A_META`, `STAGE2B_META`. -/
def stage2Meta : BootBank → ℕ
  | .a => 0x800A0000
  | .b => 0x820A0000

/-- `STAGE2A_START`, `STAGE2B_START`. -/
def stage2Start : BootBank → ℕ
  | .a => 0x800A1000
  | .b => 0x820A1000

/-- `APP_A_META`, `APP_B_META`. -/
def appMeta : BootBank → ℕ
  | .a => 0x800D2000
  | .b => 0x820D2000

/-- `APP_A_START`, `APP_B_START`. -/
def appStart : BootBank → ℕ
  | .a => 0x800D3000
  | .b => 0x820D3000

/-! ## The configuration record -/

variable (env : BootEnv)

/-- `cfg->crc = calculate_crc32(cfg, sizeof(BootConfig) - 4)`. -/
def updateCrc (cfg : BootConfig) : BootConfig := { cfg with crc := env.calculateCrc32 cfg.bytes }

/-- The test `calc_crc == cfg->crc`. -/
def CrcValid (cfg : BootConfig) : Prop := env.calculateCrc32 cfg.bytes = cfg.crc

instance (cfg : BootConfig) : Decidable (CrcValid env cfg) := inferInstanceAs (Decidable (_ = _))

/-- The bank a selector byte names: `0` for bank A, anything else for bank B. -/
def bankOf (selector : UInt8) : BootBank := if selector = 0 then .a else .b

/-- `(selector == 0) ? 1 : 0`. -/
def toggle (selector : UInt8) : UInt8 := if selector = 0 then 1 else 0

def stage1ReadActiveStage2 (cfg : BootConfig) : BootBank :=
  if CrcValid env cfg then bankOf cfg.stage2Active else .a

def stage1IncrementBootCount (cfg : BootConfig) : BootBank → BootConfig
  | .a => updateCrc env { cfg with stage2BootCntA := cfg.stage2BootCntA + 1 }
  | .b => updateCrc env { cfg with stage2BootCntB := cfg.stage2BootCntB + 1 }

def stage1ResetBootCount (cfg : BootConfig) : BootBank → BootConfig
  | .a => updateCrc env { cfg with stage2BootCntA := 0 }
  | .b => updateCrc env { cfg with stage2BootCntB := 0 }

def stage1GetBootCount (cfg : BootConfig) : BootBank → UInt8
  | .a => cfg.stage2BootCntA
  | .b => cfg.stage2BootCntB

def stage2IncrementAppBootCount (cfg : BootConfig) : BootBank → BootConfig
  | .a => updateCrc env { cfg with appBootCntA := cfg.appBootCntA + 1 }
  | .b => updateCrc env { cfg with appBootCntB := cfg.appBootCntB + 1 }

def stage2ResetAppBootCount (cfg : BootConfig) : BootBank → BootConfig
  | .a => updateCrc env { cfg with appBootCntA := 0 }
  | .b => updateCrc env { cfg with appBootCntB := 0 }

def stage2GetAppBootCount (cfg : BootConfig) : BootBank → UInt8
  | .a => cfg.appBootCntA
  | .b => cfg.appBootCntB

/-! ## Boots in a row -/

/-- What one boot jumped to, and the configuration it left. -/
structure BootRecord where
  stage2 : Option BootBank
  app : Option BootBank
  config : BootConfig

/-- The configuration after `n` boots, each of which leaves it as its loader did. -/
def configAfter (boot : BootConfig → BootRecord) : ℕ → BootConfig → BootConfig
  | 0, cfg => cfg
  | n + 1, cfg => configAfter boot n (boot cfg).config

/-- The application banks that `n` boots started, in order. -/
def startedApps (boot : BootConfig → BootRecord) : ℕ → BootConfig → List BootBank
  | 0, _ => []
  | n + 1, cfg => (boot cfg).app.toList ++ startedApps boot n (boot cfg).config

/-! ## What the operations leave alone -/

variable {env}

theorem crcValid_updateCrc (cfg : BootConfig) : CrcValid env (updateCrc env cfg) := rfl

theorem bankOf_toggle (selector : UInt8) : bankOf (toggle selector) = (bankOf selector).other := by
  unfold bankOf toggle
  by_cases h : selector = 0 <;> simp [h, BootBank.other]

theorem BootBank.other_other (bank : BootBank) : bank.other.other = bank := by cases bank <;> rfl

theorem BootBank.eq_or_other (bank bank' : BootBank) : bank' = bank ∨ bank' = bank.other := by
  cases bank <;> cases bank' <;> simp [BootBank.other]

structure SameApps (cfg cfg' : BootConfig) : Prop where
  active : cfg'.appActive = cfg.appActive
  count : ∀ bank, stage2GetAppBootCount cfg' bank = stage2GetAppBootCount cfg bank
  otaPending : cfg'.otaPending = cfg.otaPending

theorem SameApps.refl (cfg : BootConfig) : SameApps cfg cfg := ⟨rfl, fun _ => rfl, rfl⟩

theorem SameApps.trans {cfg cfg' cfg'' : BootConfig} (h : SameApps cfg cfg') (h' : SameApps cfg' cfg'') :
    SameApps cfg cfg'' where
  active := h'.active.trans h.active
  count bank := (h'.count bank).trans (h.count bank)
  otaPending := h'.otaPending.trans h.otaPending

section Operations
variable (cfg : BootConfig) (bank : BootBank)

theorem crcValid_stage1IncrementBootCount : CrcValid env (stage1IncrementBootCount env cfg bank) := by
  cases bank <;> rfl

theorem sameApps_stage1IncrementBootCount : SameApps cfg (stage1IncrementBootCount env cfg bank) := by
  cases bank <;> exact ⟨rfl, fun _ => by cases ‹BootBank› <;> rfl, rfl⟩

theorem sameApps_stage1ResetBootCount : SameApps cfg (stage1ResetBootCount env cfg bank) := by
  cases bank <;> exact ⟨rfl, fun _ => by cases ‹BootBank› <;> rfl, rfl⟩

@[simp] theorem stage2Active_stage1IncrementBootCount :
    (stage1IncrementBootCount env cfg bank).stage2Active = cfg.stage2Active := by cases bank <;> rfl

@[simp] theorem appActive_stage2IncrementAppBootCount :
    (stage2IncrementAppBootCount env cfg bank).appActive = cfg.appActive := by cases bank <;> rfl

@[simp] theorem appActive_stage2ResetAppBootCount :
    (stage2ResetAppBootCount env cfg bank).appActive = cfg.appActive := by cases bank <;> rfl

@[simp] theorem otaPending_stage2IncrementAppBootCount :
    (stage2IncrementAppBootCount env cfg bank).otaPending = cfg.otaPending := by cases bank <;> rfl

@[simp] theorem otaPending_stage2ResetAppBootCount :
    (stage2ResetAppBootCount env cfg bank).otaPending = cfg.otaPending := by cases bank <;> rfl

@[simp] theorem bootCount_increment :
    stage1GetBootCount (stage1IncrementBootCount env cfg bank) bank = stage1GetBootCount cfg bank + 1 := by
  cases bank <;> rfl

@[simp] theorem bootCount_increment_other :
    stage1GetBootCount (stage1IncrementBootCount env cfg bank) bank.other =
      stage1GetBootCount cfg bank.other := by
  cases bank <;> rfl

@[simp] theorem appCount_increment : stage2GetAppBootCount (stage2IncrementAppBootCount env cfg bank) bank =
    stage2GetAppBootCount cfg bank + 1 := by
  cases bank <;> rfl

@[simp] theorem appCount_reset :
    stage2GetAppBootCount (stage2ResetAppBootCount env cfg bank) bank = 0 := by
  cases bank <;> rfl

end Operations

/-! ## A concrete environment -/

def crc32Bit (c : UInt32) : UInt32 := if c &&& 1 = 1 then (c >>> 1) ^^^ 0xEDB88320 else c >>> 1

def crc32 (bytes : List UInt8) : UInt32 :=
  ~~~ bytes.foldl (fun c b => crc32Bit^[8] (c ^^^ b.toUInt32)) 0xFFFFFFFF

/-- Metadata of an empty image marked valid: magic, version, size, CRC, signature, timestamp, boot
count, valid flag. -/
def emptyImageMetadata : List UInt8 :=
  [0xA5, 0xA5, 0xA5, 0xA5, 1, 0, 0, 0, 0, 0, 0, 0, 0, 0, 0, 0] ++ List.replicate 256 0 ++
    [0, 0, 0, 0, 0, 0, 0, 0, 1]

/-- A blank flash with such metadata at the given addresses. -/
def flashWith (addresses : List ℕ) : Memory UInt8 :=
  storeAll (fun _ => 0xFF) (addresses.map fun a => (a, emptyImageMetadata))

def envWith (addresses : List ℕ) : BootEnv := ⟨flashWith addresses, crc32, fun _ _ => true⟩

def cleanConfig (env : BootEnv) : BootConfig :=
  updateCrc env ⟨0, 0, 0, 0, 0, 0, 0, Vector.replicate 9 0, 0⟩

end Mcus.Boot
