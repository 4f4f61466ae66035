import Mathlib.Tactic.NormNum
import Mcus.Foundations.Runs

/-! # The OTA manager of the simulator

`OtaManager` and the simulated `Bootloader` of `ota_manager.cpp`. The firmware goes to the bank that
was not active when the manager was constructed. Erasing, writing and the two checks of an image are
stubs that always succeed; a call lists what it did to the flash. The file that keeps the metadata
of a bank is written and never used, so only whether it could be opened is an input. Log output,
progress and boot counts are left out.
-/

namespace Mcus.Ota
open Runs
set_option autoImplicit false

inductive BootBank
  | bankA
  | bankB
  | invalid
  deriving DecidableEq, Repr

inductive OtaState
  | idle
  | downloading
  | verifying
  | installing
  | rollback
  | success
  | failed
  deriving DecidableEq, Repr

structure FirmwareMetadata where
  version : UInt32
  size : UInt32
  crc32 : UInt32
  signature : List UInt8
  deriving DecidableEq

def FirmwareMetadata.isValid (metadata : FirmwareMetadata) : Bool :=
  decide (0 < metadata.version) && decide (0 < metadata.size) && decide (metadata.crc32 ≠ 0)

/-! ## The boot loader it talks to -/

structure Bootloader where
  activeBank : BootBank
  bankAValid : Bool
  bankBValid : Bool
  deriving DecidableEq

namespace Bootloader

def setActiveBank (b : Bootloader) (bank : BootBank) : Option Bootloader :=
  if bank ≠ .bankA ∧ bank ≠ .bankB then none else some { b with activeBank := bank }

def isValidFirmware (b : Bootloader) (bank : BootBank) : Bool :=
  if bank = .bankA then b.bankAValid else b.bankBValid

def markFirmwareValid (b : Bootloader) (bank : BootBank) : Bootloader :=
  if bank = .bankA then { b with bankAValid := true } else { b with bankBValid := true }

end Bootloader

/-! ## The manager -/

structure OtaManager where
  state : OtaState
  currentBank : BootBank
  targetSize : UInt32
  bytesWritten : UInt32
  targetMetadata : FirmwareMetadata

/-- A manager and the boot loader's variables, which outlive it. -/
structure OtaSystem where
  manager : OtaManager
  bootloader : Bootloader

inductive FlashOp
  | erase (bank : BootBank)
  | write (bank : BootBank) (offset : UInt32) (data : List UInt8)
  deriving DecidableEq

def FlashOp.bank : FlashOp → BootBank
  | .erase bank => bank
  | .write bank _ _ => bank

/-- The return value of a call, the error it reported and its flash operations. -/
structure CallResult where
  ok : Bool
  error : Option String
  flash : List FlashOp

def CallResult.refused (error : String) : CallResult := ⟨false, some error, []⟩

inductive OtaCall
  | startDownload (firmwareSize : UInt32) (metadata : FirmwareMetadata)
  | writeBlock (offset : UInt32) (data : List UInt8)
  /-- `saved`: the metadata file could be opened -/
  | verify (saved : Bool)
  | install
  | rollback
  | restart

namespace OtaManager

/-- The constructor. -/
def construct (b : Bootloader) : OtaManager := ⟨.idle, b.activeBank, 0, 0, ⟨0, 0, 0, []⟩⟩

def getTargetBank (m : OtaManager) : BootBank := if m.currentBank = .bankA then .bankB else .bankA

def verifyCRC (_bank : BootBank) (_expectedCrc : UInt32) : Bool := true

def verifySignature (_bank : BootBank) (_signature : List UInt8) : Bool := true

end OtaManager

namespace OtaSystem

def setState (s : OtaSystem) (state : OtaState) : OtaSystem :=
  { s with manager := { s.manager with state := state } }

def startDownload (s : OtaSystem) (firmwareSize : UInt32) (metadata : FirmwareMetadata) :
    OtaSystem × CallResult :=
  if s.manager.state ≠ .idle then (s, .refused "OTA already in progress")
  else if !metadata.isValid then (s, .refused "Invalid firmware metadata")
  else
    let m := { s.manager with
      state := .downloading, targetSize := firmwareSize, targetMetadata := metadata, bytesWritten := 0 }
    ({ s with manager := m }, ⟨true, none, [.erase m.getTargetBank]⟩)

/-- The bound is checked in 64 bits, and the count of written bytes is kept in 32. -/
def writeBlock (s : OtaSystem) (offset : UInt32) (data : List UInt8) : OtaSystem × CallResult :=
  if s.manager.state ≠ .downloading then (s, .refused "Not in download state")
  else if (offset.toNat + data.length) % 2 ^ 64 > s.manager.targetSize.toNat then
    (s, .refused "Write exceeds firmware size")
  else
    let bytesWritten := s.manager.bytesWritten + UInt32.ofNat data.length
    ({ s with manager := { s.manager with bytesWritten := bytesWritten } },
      ⟨true, none, [.write s.manager.getTargetBank offset data]⟩)

def verify (s : OtaSystem) (saved : Bool) : OtaSystem × CallResult :=
  if s.manager.state ≠ .downloading then (s, .refused "Not in download state")
  else if !OtaManager.verifyCRC s.manager.getTargetBank s.manager.targetMetadata.crc32 then
    (s.setState .failed, .refused "CRC verification failed")
  else if !OtaManager.verifySignature s.manager.getTargetBank s.manager.targetMetadata.signature then
    (s.setState .failed, .refused "Signature verification failed")
  else if !saved then (s.setState .failed, .refused "Failed to save metadata")
  else (s.setState .verifying, ⟨true, none, []⟩)

def install (s : OtaSystem) : OtaSystem × CallResult :=
  if s.manager.state ≠ .verifying then (s, .refused "Firmware not verified")
  else
    let target := s.manager.getTargetBank
    let b := s.bootloader.markFirmwareValid target
    match b.setActiveBank target with
    | none => ({ s with bootloader := b }.setState .failed, .refused "Failed to switch bank")
    | some b => ({ s with bootloader := b }.setState .success, ⟨true, none, []⟩)

/-- Allowed in every state. -/
def rollback (s : OtaSystem) : OtaSystem × CallResult :=
  let fallback := if s.manager.currentBank = .bankA then BootBank.bankB else .bankA
  if !s.bootloader.isValidFirmware fallback then
    (s.setState .failed, .refused "Fallback bank is invalid, cannot rollback")
  else
    match s.bootloader.setActiveBank fallback with
    | none => (s.setState .failed, .refused "Failed to switch to fallback bank")
    | some b => ({ s with bootloader := b }.setState .success, ⟨true, none, []⟩)

/-- A new manager. -/
def restart (s : OtaSystem) : OtaSystem × CallResult :=
  ({ s with manager := .construct s.bootloader }, ⟨true, none, []⟩)

def call (s : OtaSystem) : OtaCall → OtaSystem × CallResult
  | .startDownload firmwareSize metadata => s.startDownload firmwareSize metadata
  | .writeBlock offset data => s.writeBlock offset data
  | .verify saved => s.verify saved
  | .install => s.install
  | .rollback => s.rollback
  | .restart => s.restart

end OtaSystem

def otaMachine : Machine OtaSystem OtaCall CallResult := ⟨OtaSystem.call⟩

/-- Bank A is active and valid. -/
def factory (bankBValid : Bool) : OtaSystem :=
  ⟨.construct ⟨.bankA, true, bankBValid⟩, ⟨.bankA, true, bankBValid⟩⟩

/-! ## What a call can do -/

/-- The outcomes of a call, by what they change. -/
inductive Effect (s : OtaSystem) : OtaCall → OtaSystem × CallResult → Prop
  | refused (c : OtaCall) (error : String) : Effect s c (s, .refused error)
  | started (size : UInt32) (metadata : FirmwareMetadata) (s' : OtaSystem)
      (hidle : s.manager.state = .idle) (hstate : s'.manager.state = .downloading)
      (hcurrent : s'.manager.currentBank = s.manager.currentBank) (hboot : s'.bootloader = s.bootloader) :
      Effect s (.startDownload size metadata) (s', ⟨true, none, [.erase s.manager.getTargetBank]⟩)
  | written (offset : UInt32) (data : List UInt8) (s' : OtaSystem)
      (hdownloading : s.manager.state = .downloading) (hstate : s'.manager.state = .downloading)
      (hcurrent : s'.manager.currentBank = s.manager.currentBank) (hboot : s'.bootloader = s.bootloader) :
      Effect s (.writeBlock offset data)
        (s', ⟨true, none, [.write s.manager.getTargetBank offset data]⟩)
  | verified (saved : Bool) (hdownloading : s.manager.state = .downloading) :
      Effect s (.verify saved) (s.setState .verifying, ⟨true, none, []⟩)
  | failed (c : OtaCall) (error : String) : Effect s c (s.setState .failed, .refused error)
  | installed (b : Bootloader) (hverifying : s.manager.state = .verifying)
      (hactive : b.activeBank = s.manager.getTargetBank) :
      Effect s .install ({ s with bootloader := b }.setState .success, ⟨true, none, []⟩)
  | rolledBack (b : Bootloader) (hvalid : s.bootloader.isValidFirmware s.manager.getTargetBank = true)
      (hactive : b.activeBank = s.manager.getTargetBank) :
      Effect s .rollback ({ s with bootloader := b }.setState .success, ⟨true, none, []⟩)
  | restarted : Effect s .restart s.restart

theorem getTargetBank_ne (m : OtaManager) : m.getTargetBank ≠ m.currentBank := by
  unfold OtaManager.getTargetBank
  split
  case isTrue hbank => simp [hbank]
  case isFalse hbank => exact fun h => hbank h.symm

@[simp] theorem getTargetBank_setState (s : OtaSystem) (state : OtaState) :
    (s.setState state).manager.getTargetBank = s.manager.getTargetBank := rfl

theorem setActiveBank_target (b : Bootloader) (m : OtaManager) :
    b.setActiveBank m.getTargetBank = some { b with activeBank := m.getTargetBank } := by
  unfold OtaManager.getTargetBank Bootloader.setActiveBank
  split <;> rfl

/-- The other bank is the fallback, and switching to it never fails. -/
theorem rollback_eq (s : OtaSystem) : s.rollback =
    if s.bootloader.isValidFirmware s.manager.getTargetBank = true then
      ({ s with bootloader := { s.bootloader with activeBank := s.manager.getTargetBank } }.setState .success,
        ⟨true, none, []⟩)
    else (s.setState .failed, .refused "Fallback bank is invalid, cannot rollback") := by
  have hfallback : (if s.manager.currentBank = .bankA then BootBank.bankB else .bankA) =
    s.manager.getTargetBank := rfl
  unfold OtaSystem.rollback
  dsimp only
  rw [hfallback, setActiveBank_target]
  cases s.bootloader.isValidFirmware s.manager.getTargetBank <;> rfl

theorem effect (s : OtaSystem) (c : OtaCall) : Effect s c (s.call c) := by
  cases c with
  | startDownload size metadata =>
    unfold OtaSystem.call OtaSystem.startDownload
    dsimp only
    split
    case isTrue => exact .refused _ _
    case isFalse hidle =>
      split
      case isTrue => exact .refused _ _
      case isFalse => exact .started size metadata _ (not_not.mp hidle) rfl rfl rfl
  | writeBlock offset data =>
    unfold OtaSystem.call OtaSystem.writeBlock
    dsimp only
    split
    case isTrue => exact .refused _ _
    case isFalse hdownloading =>
      split
      case isTrue => exact .refused _ _
      case isFalse =>
        have hstate := not_not.mp hdownloading
        exact .written offset data _ hstate hstate rfl rfl
  | verify saved =>
    unfold OtaSystem.call OtaSystem.verify OtaManager.verifyCRC OtaManager.verifySignature
    dsimp only
    split
    case isTrue => exact .refused _ _
    case isFalse hdownloading =>
      cases saved with
      | false => exact .failed _ _
      | true => exact .verified true (not_not.mp hdownloading)
  | install =>
    unfold OtaSystem.call OtaSystem.install
    dsimp only
    split
    case isTrue => exact .refused _ _
    case isFalse hverifying =>
      rw [setActiveBank_target]
      exact .installed _ (not_not.mp hverifying) rfl
  | rollback =>
    change Effect s .rollback s.rollback
    rw [rollback_eq]
    split
    case isTrue hvalid => exact .rolledBack _ hvalid rfl
    case isFalse => exact .failed _ _
  | restart => exact .restarted

end Mcus.Ota
