import Mcus.Simulator.DeviceInfo

/-! # The strings of the permanent configuration

`strncpy` puts no zero behind a string that fills its field, and the getter then reads on in the field
behind it: behind the serial number lies the MAC address, and behind the VIN the name of the model, which
only the built-in configuration sets.
-/

namespace Mcus.Simulator
open CString Scanf
set_option autoImplicit false

/-- A configuration that is loaded without an exception. -/
inductive PermanentSource
  | defaults
  | file (serial mac vin : List UInt8)
  deriving DecidableEq

namespace PermanentSource

def toFile : PermanentSource → Option PermanentFile
  | .defaults => none
  | .file serial mac vin => some ⟨some serial, some mac, some vin⟩

/-- The record behind the constructor and the load. -/
def loaded (source : PermanentSource) : PermanentConfig :=
  (loadPermanentConfig initialPermanentConfig source.toFile).1

def serial : PermanentSource → List UInt8
  | .defaults => literal "TC375-SIM-001"
  | .file serial _ _ => serial

def vin : PermanentSource → List UInt8
  | .defaults => literal "KMHGH4JH1NU123456"
  | .file _ _ vin => vin

/-- No file sets it. -/
def hardwareVersion : PermanentSource → List UInt8
  | .defaults => literal "TC375TP-v2.0"
  | .file _ _ _ => []

def vehicleModel : PermanentSource → List UInt8
  | .defaults => literal "Genesis G80"
  | .file _ _ _ => []

end PermanentSource

/-- Every getter returns what was loaded, cut to the length of its field. -/
structure StringsSeparate (source : PermanentSource) : Prop where
  ecuSerial : getEcuSerial source.loaded = (cString source.serial).take 32
  vin : getVIN source.loaded = (cString source.vin).take 17
  hardwareVersion : getHardwareVersion source.loaded = (cString source.hardwareVersion).take 16
  vehicleModel : getVehicleModel source.loaded = (cString source.vehicleModel).take 32

/-- The first byte that is read off a MAC address, and 0 if there is none. -/
def firstOctet (mac : List UInt8) : UInt8 :=
  match scanHexByte (cString mac) with
  | none => 0
  | some (x, _) => x

/-- A file with a serial number that leaves room for a zero, or with a MAC address that begins with one. -/
def PermanentSource.LeavesZero : PermanentSource → Prop
  | .defaults => False
  | .file serial mac _ => (cString serial).length < 32 ∨ firstOctet mac = 0

/-! ## Loaded from a file -/

section File
variable (serial mac vin : List UInt8)

theorem scanMac_bytes : ∃ rest, (scanMac (.zero 6) mac).bytes = firstOctet mac :: rest := by
  have hbytes : (scanMac (.zero 6) mac).bytes =
      (scanSeparated scanHexByte 0x3A 6 (cString mac) ++
        (CharArray.zero 6).bytes.drop (scanSeparated scanHexByte 0x3A 6 (cString mac)).length).take 6 := rfl
  rw [hbytes, firstOctet, scanSeparated]
  cases scanHexByte (cString mac) with
  | none => exact ⟨_, rfl⟩
  | some read =>
    obtain ⟨x, _ | ⟨b, rest⟩⟩ := read
    · exact ⟨_, rfl⟩
    · exact ⟨_, rfl⟩

theorem file_ecuSerial_iff :
    getEcuSerial (PermanentSource.file serial mac vin).loaded = (cString serial).take 32 ↔
      (PermanentSource.file serial mac vin).LeavesZero := by
  refine cString_strncpy_eq_take_iff.trans (or_congr_right ?_)
  obtain ⟨rest, hmac⟩ := scanMac_bytes mac
  have hbehind : (PermanentSource.file serial mac vin).loaded.macAddress.bytes = firstOctet mac :: rest := hmac
  change cString ((PermanentSource.file serial mac vin).loaded.macAddress.bytes ++ _) = [] ↔ _
  rw [hbehind, List.cons_append]
  by_cases hzero : firstOctet mac = 0
  · rw [hzero]
    exact iff_of_true rfl rfl
  · rw [cString_cons hzero]
    exact iff_of_false (List.cons_ne_nil _ _) hzero

/-- The name of the model is empty and ends the VIN. -/
theorem file_vin : getVIN (PermanentSource.file serial mac vin).loaded = (cString vin).take 17 :=
  cString_strncpy_eq_take_iff.mpr (Or.inr (cString_zero (by omega) _))

theorem file_hardwareVersion : getHardwareVersion (PermanentSource.file serial mac vin).loaded = [] :=
  cString_zero (by omega) _

theorem file_vehicleModel : getVehicleModel (PermanentSource.file serial mac vin).loaded = [] :=
  cString_zero (by omega) _

end File

/-- The VIN of the built-in configuration fills its field and runs on into the model. -/
theorem default_vin : getVIN PermanentSource.defaults.loaded = literal "KMHGH4JH1NU123456Genesis G80" := by
  decide +kernel

/-- **Identity strings.** The getters return the loaded strings and nothing of another field exactly if the
configuration comes from a file whose serial number leaves room for its terminator, or whose MAC address
begins with a zero. -/
theorem strings_separate_iff (source : PermanentSource) : StringsSeparate source ↔ source.LeavesZero := by
  cases source with
  | defaults =>
    refine iff_of_false (fun h => ?_) id
    have hvin := h.vin
    rw [default_vin] at hvin
    exact absurd hvin (by decide +kernel)
  | file serial mac vin =>
    refine ⟨fun h => (file_ecuSerial_iff serial mac vin).mp h.ecuSerial, fun h => ⟨?_, ?_, ?_, ?_⟩⟩
    · exact (file_ecuSerial_iff serial mac vin).mpr h
    · exact file_vin serial mac vin
    · exact file_hardwareVersion serial mac vin
    · exact file_vehicleModel serial mac vin

/-- A regular VIN of 17 characters that is returned with the model behind it. -/
theorem default_strings_run_on : ¬ ∀ source, StringsSeparate source := by
  intro hall
  have hvin := (hall .defaults).vin
  exact absurd hvin (by decide +kernel)

end Mcus.Simulator
