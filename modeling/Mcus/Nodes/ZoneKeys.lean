import Mcus.Foundations.KeyedTable
import Mcus.Nodes.ZoneTable

/-! # The keys of the zone table

An update searches for the identifier it is called with and stores the one in the record, and neither
gateway compares the two. A record with another identifier leaves no entry under the first one, and may
be the second under its own. An array without a NUL holds no string and thus no identifier: `strcmp` reads
on behind it and does not find the characters that it was stored with.
-/

namespace Mcus.Nodes
open BoundedTable CString Runs
set_option autoImplicit false

/-! ## Both gateways as tables -/

/-- The string that the array of the identifier holds, if it ends there. -/
def ZoneECUInfoT.id? (ecu : ZoneECUInfoT) : Option (List UInt8) :=
  if 0 ∈ ecu.ecuId.toList then some (cString ecu.ecuId.toList) else none

def tc375View :
    TableView ZoneVCIDataT (List UInt8 × ZoneECUInfoT) Int ZoneECUInfoT (Option (List UInt8)) where
  entries vci := vci.entries
  key ecu := ecu.id?
  asked call := some (cString call.1)
  given call := call.2
  accepted code := code == 0
  sameRest ecu info := { ecu with ecuId := info.ecuId } = info

def linuxView : TableView ZoneVCIData (List UInt8 × ZoneECUInfo) Bool ZoneECUInfo (List UInt8) where
  entries vci := vci.ecus
  key ecu := ecu.ecuId
  asked call := call.1
  given call := call.2
  accepted ok := ok
  sameRest ecu info := { ecu with ecuId := info.ecuId } = info

theorem linux_search (ecuId : List UInt8) : (fun ecu : ZoneECUInfo => ecu.ecuId == ecuId) =
    fun ecu => decide (ecu.ecuId = ecuId) := by
  funext ecu
  rw [Bool.eq_iff_iff, beq_iff_eq, decide_eq_true_iff]

/-- What a run with matching keys keeps. -/
structure ProperZone (vci : ZoneVCIDataT) : Prop where
  count : vci.ecuCount.toNat ≤ zgMaxEcus
  terminated : ∀ ecu ∈ vci.entries, ecu.Terminated

section TC375
variable {vci : ZoneVCIDataT}

theorem terminated_of_id? {ecu : ZoneECUInfoT} {id : List UInt8} (h : ecu.id? = some id) : ecu.Terminated := by
  unfold ZoneECUInfoT.id? at h
  split at h
  case isTrue hzero => exact hzero
  case isFalse => cases h

/-- Among identifiers that end in their arrays `strcmp` finds the key. -/
theorem tc375_upsert (hterm : ∀ ecu ∈ vci.entries, ecu.Terminated) (ecuId : List UInt8) (info : ZoneECUInfoT) :
    upsert (fun ecu : ZoneECUInfoT => strcmp ecu.ecuId.toList ecuId == 0) zgMaxEcus info vci.entries =
      upsert (fun ecu : ZoneECUInfoT => ecu.id? = some (cString ecuId)) zgMaxEcus info vci.entries := by
  apply upsert_congr
  intro ecu hecu
  have hzero : 0 ∈ ecu.ecuId.toList := hterm ecu hecu
  rw [Bool.eq_iff_iff, beq_iff_eq, decide_eq_true_iff, strcmp_eq_zero_iff, ZoneECUInfoT.id?, if_pos hzero,
    Option.some_inj]

/-- What an update comes to in a proper state, by keys. -/
theorem zgUpdateEcuInfo_byKey (h : ProperZone vci) (call : List UInt8 × ZoneECUInfoT) :
    (zgUpdateEcuInfo vci call.1 call.2).1.ecuCount.toNat ≤ zgMaxEcus ∧
    match upsert (fun ecu => tc375View.key ecu = tc375View.asked call) zgMaxEcus call.2 vci.entries with
      | some entries => (zgUpdateEcuInfo vci call.1 call.2).1.entries = entries ∧
          (zgUpdateEcuInfo vci call.1 call.2).2 = 0
      | none => zgUpdateEcuInfo vci call.1 call.2 = (vci, -1) := by
  have hupdate := zgUpdateEcuInfo_eq h.count h.terminated call.1 call.2
  rwa [tc375_upsert h.terminated] at hupdate

theorem properZone_update (h : ProperZone vci) {call : List UInt8 × ZoneECUInfoT}
    (hown : tc375View.OwnKey zgMaxEcus vci call) : ProperZone (zgUpdateEcuInfo vci call.1 call.2).1 := by
  obtain ⟨hcount, hupdate⟩ := zgUpdateEcuInfo_byKey h call
  cases hupsert : upsert (fun ecu => tc375View.key ecu = tc375View.asked call) zgMaxEcus call.2 vci.entries with
  | none =>
    rw [hupsert] at hupdate
    rw [hupdate]
    exact h
  | some entries =>
    rw [hupsert] at hupdate
    refine ⟨hcount, fun ecu hecu => ?_⟩
    rw [hupdate.1] at hecu
    rcases mem_upsert hupsert hecu with rfl | hold
    · exact terminated_of_id? (hown (takes_of_upsert hupsert))
    · exact h.terminated ecu hold

theorem tc375_upserts : tc375View.Upserts zgTableMachine ProperZone zgMaxEcus where
  refl _ := rfl
  proper _ _ h hown := properZone_update h hown
  takes vci call table h hupsert := by
    have hupdate := (zgUpdateEcuInfo_byKey h call).2
    change upsert (fun ecu => tc375View.key ecu = tc375View.asked call) zgMaxEcus call.2 vci.entries =
      some table at hupsert
    rw [hupsert] at hupdate
    exact ⟨hupdate.1, beq_iff_eq.mpr hupdate.2⟩
  refuses vci call h hupsert := by
    have hupdate := (zgUpdateEcuInfo_byKey h call).2
    change upsert (fun ecu => tc375View.key ecu = tc375View.asked call) zgMaxEcus call.2 vci.entries =
      none at hupsert
    rw [hupsert] at hupdate
    change (zgUpdateEcuInfo vci call.1 call.2).1.entries = vci.entries ∧
      ((zgUpdateEcuInfo vci call.1 call.2).2 == 0) = false
    rw [hupdate]
    exact ⟨rfl, rfl⟩

end TC375

theorem linux_upserts : linuxView.Upserts linuxTableMachine (fun _ => True) zgMaxEcus where
  refl _ := rfl
  proper _ _ _ _ := trivial
  takes vci call table _ hupsert := by
    change upsert (fun ecu : ZoneECUInfo => ecu.ecuId = call.1) zgMaxEcus call.2 vci.ecus = some table at hupsert
    change (updateECUInfo vci call.1 call.2).1.ecus = table ∧ (updateECUInfo vci call.1 call.2).2 = true
    rw [updateECUInfo_eq, linux_search, hupsert]
    exact ⟨rfl, rfl⟩
  refuses vci call _ hupsert := by
    change upsert (fun ecu : ZoneECUInfo => ecu.ecuId = call.1) zgMaxEcus call.2 vci.ecus = none at hupsert
    change (updateECUInfo vci call.1 call.2).1.ecus = vci.ecus ∧ (updateECUInfo vci call.1 call.2).2 = false
    rw [updateECUInfo_eq, linux_search, hupsert]
    exact ⟨rfl, rfl⟩

/-! ## Distinct identifiers -/

/-- **Zone table keys.** On either gateway, at every point of a run from the initial state, the
identifiers are distinct and the last successful call's entry is the one under its key, exactly if the
record of each call that finds its key or room has the key as identifier, ended in its array. -/
theorem zoneKeys_unique_iff (calls : List (List UInt8 × ZoneECUInfoT))
    (linuxCalls : List (List UInt8 × ZoneECUInfo)) (availableStorageMb : UInt32) (averageBatteryLevel : UInt8) :
    ((∀ past, past <+: calls → tc375View.Exact (zgTableMachine.trace zgInitVci past)
        (zgTableMachine.run zgInitVci past)) ↔
      zgTableMachine.Admits (fun _ vci call => tc375View.OwnKey zgMaxEcus vci call) zgInitVci calls) ∧
    ((∀ past, past <+: linuxCalls →
        linuxView.Exact (linuxTableMachine.trace ⟨[], availableStorageMb, averageBatteryLevel⟩ past)
          (linuxTableMachine.run ⟨[], availableStorageMb, averageBatteryLevel⟩ past)) ↔
      linuxTableMachine.Admits (fun _ vci call => linuxView.OwnKey zgMaxEcus vci call)
        ⟨[], availableStorageMb, averageBatteryLevel⟩ linuxCalls) :=
  ⟨TableView.exact_iff tc375_upserts ⟨by decide, fun _ hecu => absurd hecu List.not_mem_nil⟩ rfl calls,
    TableView.exact_iff linux_upserts trivial rfl linuxCalls⟩

/-- A call with key "A" and a record whose identifier is "B". -/
def renamingCall : List UInt8 × ZoneECUInfoT :=
  ([0x41, 0], { zeroInfo with ecuId := (Vector.replicate 32 0).set 0 0x42 })

def linuxRenamingCall : List UInt8 × ZoneECUInfo :=
  ([0x41], ⟨[0x42], 0x0201, [0x31], [0x31], true, 0, true, true, 1024⟩)

/-- Made twice, it finds no "A" either time and leaves two entries with the identifier "B". -/
theorem renaming_duplicates :
    (¬ ∀ calls past, past <+: calls → tc375View.Exact (zgTableMachine.trace zgInitVci past)
      (zgTableMachine.run zgInitVci past)) ∧
    ¬ ∀ calls past, past <+: calls → linuxView.Exact (linuxTableMachine.trace ⟨[], 0, 0⟩ past)
      (linuxTableMachine.run ⟨[], 0, 0⟩ past) := by
  constructor
  · intro hall
    have hdistinct := (hall [renamingCall, renamingCall] _ (List.prefix_refl _)).distinct
    exact absurd hdistinct (by decide +kernel)
  · intro hall
    have hdistinct := (hall [linuxRenamingCall, linuxRenamingCall] _ (List.prefix_refl _)).distinct
    exact absurd hdistinct (by decide +kernel)

/-- A call whose key and whose record's identifier are the same 32 characters. -/
def longIdCall : List UInt8 × ZoneECUInfoT :=
  (List.replicate 32 0x41 ++ [0], { zeroInfo with ecuId := Vector.replicate 32 0x41, logicalAddress := 0x0201 })

-- The search reads on into the logical address.
example : (zgTableMachine.run zgInitVci [longIdCall, longIdCall]).entries.length = 2 := by decide +kernel

end Mcus.Nodes
