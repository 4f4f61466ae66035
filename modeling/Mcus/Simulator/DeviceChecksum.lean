import Mcus.Foundations.Checksum
import Mcus.Foundations.Crc
import Mcus.Foundations.Runs
import Mcus.Simulator.DeviceInfo

/-! # The checksum of the device configuration

`calculateCRC` is the CRC-32 of the record up to its last field. It notices every change within four bytes in
a row. The three update functions compute it again, but `loadDeviceConfig` does not, and leaves the new
contents with the checksum that was there before. Four bytes in a row that it changes are then noticed; that
some other contents have that checksum by chance is not excluded.
-/

namespace Mcus.Simulator
open ByteOrder Checksum CString Runs
set_option autoImplicit false

/-! ## What the CRC notices -/

abbrev crcPolynomial : BitVec 32 := 0xEDB88320#32

theorem crcBit_toBitVec (crc : UInt32) : (crcBit crc).toBitVec = Crc.bitStep crcPolynomial crc.toBitVec := by
  have hmask : crcPolynomial &&& -(crc.toBitVec &&& 1#32) =
      if crc.toBitVec.getLsbD 0 then crcPolynomial else 0#32 := by
    rw [BitVec.and_one_eq_setWidth_ofBool_getLsbD]
    cases crc.toBitVec.getLsbD 0 <;> rfl
  rw [Crc.bitStep, ← hmask]
  rfl

theorem crcByte_toBitVec (crc : UInt32) (b : UInt8) :
    (crcBit^[8] (crc ^^^ b.toUInt32)).toBitVec = Crc.byteStep crcPolynomial crc.toBitVec b.toBitVec := by
  have hbits : Function.Semiconj UInt32.toBitVec crcBit (Crc.bitStep crcPolynomial) := crcBit_toBitVec
  exact hbits.iterate_right 8 (crc ^^^ b.toUInt32)

theorem crcBytes_toBitVec (crc : UInt32) (data : List UInt8) :
    (data.foldl (fun crc b => crcBit^[8] (crc ^^^ b.toUInt32)) crc).toBitVec =
      (data.map UInt8.toBitVec).foldl (Crc.byteStep crcPolynomial) crc.toBitVec := by
  induction data generalizing crc with
  | nil => rfl
  | cons b data ih => rw [List.foldl_cons, ih, crcByte_toBitVec, List.map_cons, List.foldl_cons]

theorem calculateCRC_detectsBursts : DetectsBursts 4 calculateCRC := by
  have hpoly : crcPolynomial.getLsbD (32 - 1) = true := rfl
  have hfold : DetectsBursts 4 fun data : List UInt8 =>
      data.foldl (fun crc b => crcBit^[8] (crc ^^^ b.toUInt32)) 0xFFFFFFFF := by
    apply detectsBursts_foldl
    · intro b c d h
      have hbits := congrArg UInt32.toBitVec h
      dsimp only at hbits
      rw [crcByte_toBitVec, crcByte_toBitVec] at hbits
      exact UInt32.toBitVec_inj.mp (Crc.byteStep_injective_left hpoly b.toBitVec hbits)
    · intro c xs ys hlen hfour h
      have hbits := congrArg UInt32.toBitVec h
      rw [crcBytes_toBitVec, crcBytes_toBitVec] at hbits
      have hsame := Crc.foldl_byteStep_injective hpoly c.toBitVec (by simpa using hlen)
        (by rw [List.length_map]; omega) hbits
      exact List.map_injective_iff.mpr (fun _ _ => UInt8.toBitVec_inj.mp) hsame
  exact hfold.comp fun _ _ h => UInt32.not_inj.mp h

/-- **Bursts.** Two strings of bytes of one length that differ, but only within four bytes in a row, have
different checksums, and the one is rejected with the checksum of the other. -/
theorem calculateCRC_ne_of_burst {stored altered : List UInt8} {p : ℕ} (hlen : stored.length = altered.length)
    (hne : stored ≠ altered) (hburst : ∀ i, i < p ∨ p + 4 ≤ i → stored[i]? = altered[i]?) :
    calculateCRC stored ≠ calculateCRC altered ∧ verifyCRC altered (calculateCRC stored) = false := by
  have hdiffer : calculateCRC stored ≠ calculateCRC altered :=
    fun h => hne (calculateCRC_detectsBursts stored altered p hlen hburst h)
  exact ⟨hdiffer, beq_false_of_ne hdiffer.symm⟩

theorem calculateCRC_ne_of_burst_bytes :
    calculateCRC [1, 2, 3, 4, 5, 6] ≠ calculateCRC [1, 9, 8, 7, 6, 6] ∧
      verifyCRC [1, 9, 8, 7, 6, 6] (calculateCRC [1, 2, 3, 4, 5, 6]) = false := by
  refine calculateCRC_ne_of_burst (p := 1) rfl (by decide) fun i hi => ?_
  rcases hi with hi | hi
  · obtain rfl : i = 0 := by omega
    rfl
  · obtain ⟨k, rfl⟩ : ∃ k, i = k + 5 := ⟨i - 5, by omega⟩
    rfl

/-! ## The operations -/

inductive DeviceCall
  | loadDeviceConfig (file : Option DeviceFile) (held : ℕ → UInt32)
  | saveDeviceConfig (opened dumps : Bool)
  | updateIPAddress (ip : List UInt8)
  | updateGatewayPort (port : UInt16)
  | updateFeatureFlag (flag : List UInt8) (enabled : Bool)

/-- The output is what is returned, `none` for an exception. -/
def deviceMachine (overflow : List UInt8 → UInt32) : Machine DeviceConfig DeviceCall (Option Bool) where
  step cfg
    | .loadDeviceConfig file held => loadDeviceConfig overflow held cfg file
    | .saveDeviceConfig opened dumps => saveDeviceConfig cfg opened dumps
    | .updateIPAddress ip => ((updateIPAddress overflow cfg ip).1, some (updateIPAddress overflow cfg ip).2)
    | .updateGatewayPort port => ((updateGatewayPort cfg port).1, some (updateGatewayPort cfg port).2)
    | .updateFeatureFlag flag enabled =>
      ((updateFeatureFlag cfg flag enabled).1, some (updateFeatureFlag cfg flag enabled).2)

abbrev DeviceStep := Step DeviceConfig DeviceCall (Option Bool)

def DeviceCall.isUpdate : DeviceCall → Bool
  | .updateIPAddress _ | .updateGatewayPort _ | .updateFeatureFlag _ _ => true
  | _ => false

/-- An update that returned true. -/
def updated (e : DeviceStep) : Bool := e.input.isUpdate && e.output == some true

def ChecksumValid (cfg : DeviceConfig) : Prop := verifyCRC cfg.bytes cfg.crc32 = true

/-- An update has returned true, and since the last that did no step has changed the record. -/
def Restored (past : List DeviceStep) : Prop :=
  (∃ e ∈ past, updated e = true) ∧ ∀ f ∈ sinceLast updated past, f.post.bytes = f.pre.bytes

/-- The checksum of the record that the last update left, and that of the constructor without one. -/
def storedChecksum (past : List DeviceStep) : UInt32 :=
  match lastWhere updated past with
  | some e => calculateCRC e.post.bytes
  | none => 0

theorem checksumValid_iff (cfg : DeviceConfig) : ChecksumValid cfg ↔ calculateCRC cfg.bytes = cfg.crc32 := by
  rw [ChecksumValid, verifyCRC, beq_iff_eq]

section Calls
variable {overflow : List UInt8 → UInt32}

def KeepsChecksum (f : DeviceConfig → DeviceConfig × Option Bool) : Prop := ∀ cfg, (f cfg).1.crc32 = cfg.crc32

theorem keepsChecksum_assign {α : Type} {member : Option α} {set : DeviceConfig → α → DeviceConfig}
    {next : DeviceConfig → DeviceConfig × Option Bool} (hset : ∀ cfg x, (set cfg x).crc32 = cfg.crc32)
    (hnext : KeepsChecksum next) : KeepsChecksum (assign member set next) := by
  intro cfg
  cases member with
  | none => rfl
  | some x => exact (hnext (set cfg x)).trans (hset cfg x)

/-- Whatever is in the file, loading it leaves the checksum alone. -/
theorem loadDeviceConfig_crc32 (held : ℕ → UInt32) (cfg : DeviceConfig) (file : Option DeviceFile) :
    (loadDeviceConfig overflow held cfg file).1.crc32 = cfg.crc32 := by
  cases file with
  | none => rfl
  | some file =>
    refine keepsChecksum_assign ?ip (keepsChecksum_assign ?port (keepsChecksum_assign ?host
      (keepsChecksum_assign ?tls (keepsChecksum_assign ?ota (keepsChecksum_assign ?heartbeat
        (keepsChecksum_assign ?sensor fun _ => rfl)))))) cfg
    all_goals exact fun _ _ => rfl

/-- What a step does to the checksum. -/
inductive ChecksumEffect (e : DeviceStep) : Prop
  | computed (hupdated : updated e = true) (hcrc : e.post.crc32 = calculateCRC e.post.bytes)
  | kept (hupdated : updated e = false) (hcrc : e.post.crc32 = e.pre.crc32)

/-- An update writes and computes the checksum, or leaves everything as it is. -/
theorem checksumEffect_update {cfg : DeviceConfig} {call : DeviceCall} {r : DeviceConfig × Bool}
    (hcall : call.isUpdate = true) (hstep : (deviceMachine overflow).step cfg call = (r.1, some r.2))
    (hr : (∃ cfg', r = (updateChecksum cfg', true)) ∨ r = (cfg, false)) :
    ChecksumEffect ((deviceMachine overflow).stepAt cfg call) := by
  have hupdated : updated ((deviceMachine overflow).stepAt cfg call) = (some r.2 == some true) := by
    rw [updated, Machine.stepAt_input, Machine.stepAt_output, hcall, hstep, Bool.true_and]
  have hpost : ((deviceMachine overflow).stepAt cfg call).post = r.1 := by rw [Machine.stepAt_post, hstep]
  rcases hr with ⟨cfg', rfl⟩ | rfl
  · refine .computed hupdated ?_
    rw [hpost]
    rfl
  · refine .kept hupdated ?_
    rw [hpost]
    rfl

theorem updateIPAddress_cases (cfg : DeviceConfig) (ip : List UInt8) :
    (∃ cfg', updateIPAddress overflow cfg ip = (updateChecksum cfg', true)) ∨
      updateIPAddress overflow cfg ip = (cfg, false) := by
  unfold updateIPAddress
  split
  case h_1 => exact Or.inl ⟨_, rfl⟩
  case h_2 => exact Or.inr rfl

theorem updateFeatureFlag_cases (cfg : DeviceConfig) (flag : List UInt8) (enabled : Bool) :
    (∃ cfg', updateFeatureFlag cfg flag enabled = (updateChecksum cfg', true)) ∨
      updateFeatureFlag cfg flag enabled = (cfg, false) := by
  unfold updateFeatureFlag
  split
  case isTrue => exact Or.inl ⟨_, rfl⟩
  case isFalse =>
    split
    case isTrue => exact Or.inl ⟨_, rfl⟩
    case isFalse =>
      split
      case isTrue => exact Or.inl ⟨_, rfl⟩
      case isFalse => exact Or.inr rfl

theorem checksumEffect_step (cfg : DeviceConfig) (call : DeviceCall) :
    ChecksumEffect ((deviceMachine overflow).stepAt cfg call) := by
  cases call with
  | loadDeviceConfig file held => exact .kept rfl (loadDeviceConfig_crc32 held cfg file)
  | saveDeviceConfig opened dumps => exact .kept rfl rfl
  | updateIPAddress ip => exact checksumEffect_update rfl rfl (updateIPAddress_cases cfg ip)
  | updateGatewayPort port => exact checksumEffect_update rfl rfl (Or.inl ⟨_, rfl⟩)
  | updateFeatureFlag flag enabled =>
    exact checksumEffect_update rfl rfl (updateFeatureFlag_cases cfg flag enabled)

end Calls

/-! ## Runs -/

/-- Where the stored checksum comes from, and that a restored record is the one it was computed of. -/
structure ChecksumLedger (past : List DeviceStep) (cfg : DeviceConfig) : Prop where
  stored : cfg.crc32 = storedChecksum past
  restored : Restored past → ∃ e, lastWhere updated past = some e ∧ e.post.bytes = cfg.bytes

section Ledger
variable {past : List DeviceStep}

theorem checksumLedger_initial : ChecksumLedger [] initialDeviceConfig where
  stored := rfl
  restored h := absurd h.1 (by simp)

theorem checksumLedger_concat {e : DeviceStep} (h : ChecksumLedger past e.pre) (heffect : ChecksumEffect e) :
    ChecksumLedger (past ++ [e]) e.post := by
  cases heffect with
  | computed hupdated hcrc =>
    have hlast := lastWhere_concat_pos hupdated past
    refine ⟨?_, fun _ => ⟨e, hlast, rfl⟩⟩
    rw [storedChecksum, hlast, hcrc]
  | kept hupdated hcrc =>
    have hlast := lastWhere_concat_neg hupdated past
    refine ⟨?_, fun hrestored => ?_⟩
    · rw [storedChecksum, hlast, hcrc]
      exact h.stored
    · obtain ⟨⟨u, hu, hmark⟩, hsame⟩ := hrestored
      rw [sinceLast_concat_neg hupdated] at hsame
      have hupast : u ∈ past := by
        rcases List.mem_append.mp hu with hu | hu
        · exact hu
        · rw [List.mem_singleton.mp hu, hupdated] at hmark
          exact absurd hmark Bool.false_ne_true
      obtain ⟨l, hl, hbytes⟩ :=
        h.restored ⟨⟨u, hupast, hmark⟩, fun f hf => hsame f (List.mem_append_left _ hf)⟩
      exact ⟨l, hlast.trans hl, hbytes.trans (hsame e (by simp)).symm⟩

theorem checksumLedger_run (overflow : List UInt8 → UInt32) (calls : List DeviceCall) :
    ChecksumLedger ((deviceMachine overflow).trace initialDeviceConfig calls)
      ((deviceMachine overflow).run initialDeviceConfig calls) :=
  Machine.induction checksumLedger_initial
    (fun _ cfg call h => checksumLedger_concat (e := (deviceMachine overflow).stepAt cfg call) h
      (checksumEffect_step cfg call)) calls

theorem ChecksumLedger.valid {cfg : DeviceConfig} (h : ChecksumLedger past cfg) (hrestored : Restored past) :
    ChecksumValid cfg := by
  obtain ⟨e, hlast, hbytes⟩ := h.restored hrestored
  rw [checksumValid_iff, h.stored, storedChecksum, hlast]
  exact congrArg calculateCRC hbytes.symm

end Ledger

/-- **Device checksum.** After any sequence of calls, if an update has succeeded and no load has changed the
record since, the stored checksum is that of the record. -/
theorem device_checksum_restored (overflow : List UInt8 → UInt32) (calls : List DeviceCall)
    (hrestored : Restored ((deviceMachine overflow).trace initialDeviceConfig calls)) :
    ChecksumValid ((deviceMachine overflow).run initialDeviceConfig calls) :=
  (checksumLedger_run overflow calls).valid hrestored

/-- The defaults, and an update behind them. -/
theorem device_checksum_restored_port :
    ChecksumValid ((deviceMachine fun _ => 0).run initialDeviceConfig
      [.loadDeviceConfig none fun _ => 0, .updateGatewayPort 13400]) := by
  apply device_checksum_restored
  constructor
  · exact ⟨_, List.mem_cons_of_mem _ (List.mem_singleton.mpr rfl), rfl⟩
  · exact fun f hf => absurd hf List.not_mem_nil

/-- Loading the defaults leaves the checksum of the constructor. -/
theorem load_leaves_checksum : ¬ ∀ overflow calls,
    (∃ file held, DeviceCall.loadDeviceConfig file held ∈ calls) →
    ChecksumValid ((deviceMachine overflow).run initialDeviceConfig calls) := by
  intro hall
  have hvalid := hall (fun _ => 0) [.loadDeviceConfig none fun _ => 0]
    ⟨none, fun _ => 0, List.mem_singleton.mpr rfl⟩
  rw [checksumValid_iff] at hvalid
  exact absurd hvalid (by decide +kernel)

/-- The length of the record without its checksum. -/
theorem length_bytes (cfg : DeviceConfig) : cfg.bytes.length = 157 := by
  simp [DeviceConfig.bytes, leBytes32, leBytes16, beBytes32, beBytes16, CharArray.length_eq]

/-- A record that differs from the one the last update left, but only within four bytes in a row, has a
checksum that is not its own. -/
theorem changed_record_noticed (overflow : List UInt8 → UInt32) (calls : List DeviceCall) {e : DeviceStep}
    {p : ℕ} (hlast : lastWhere updated ((deviceMachine overflow).trace initialDeviceConfig calls) = some e)
    (hne : e.post.bytes ≠ ((deviceMachine overflow).run initialDeviceConfig calls).bytes)
    (hburst : ∀ i, i < p ∨ p + 4 ≤ i →
      e.post.bytes[i]? = ((deviceMachine overflow).run initialDeviceConfig calls).bytes[i]?) :
    ¬ ChecksumValid ((deviceMachine overflow).run initialDeviceConfig calls) := by
  have hledger := checksumLedger_run overflow calls
  rw [checksumValid_iff, hledger.stored, storedChecksum, hlast]
  intro hvalid
  refine hne (calculateCRC_detectsBursts _ _ p ?_ hburst hvalid.symm)
  rw [length_bytes, length_bytes]

end Mcus.Simulator
