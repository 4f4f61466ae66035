import Mcus.Foundations.BoundedTable
import Mcus.Foundations.ByteOrder
import Mcus.Foundations.CString
import Mcus.Foundations.Simulation

/-! # The zone table of the two zonal gateways

`zonal_gateway.c` keeps eight records and a count, `zonal_gateway_linux.cpp` a vector. Either
replaces the first entry whose own identifier is the key, so that an update may rename an entry or
leave two with one identifier, and appends a new one while there are fewer than eight. Both tables
are instances of `upsert`. An array without a NUL is read on into the members behind it, as they lie
in memory: low byte first, words on addresses divisible by four. A `std::string` is its bytes; the
campaign identifier is not read, and `zone_id` is left out.
-/

namespace Mcus.Nodes
open BoundedTable ByteOrder CString Runs
open List (Forall₂)
set_option autoImplicit false

/-! ## The TC375 -/

abbrev zgMaxEcus : ℕ := 8

/-- `ZoneECUInfo_t`, with the bytes that fill it up to the next word. -/
structure ZoneECUInfoT where
  ecuId : Vector UInt8 32
  logicalAddress : UInt16
  firmwareVersion : Vector UInt8 16
  hardwareVersion : Vector UInt8 32
  isOnline : Bool
  fillOnline : UInt8
  lastHeartbeatTime : UInt32
  otaCapable : Bool
  deltaUpdateSupported : Bool
  fillDelta : Vector UInt8 2
  maxPackageSize : UInt32

/-- The record in memory, behind `ecu_id`. -/
def ZoneECUInfoT.restBytes (ecu : ZoneECUInfoT) : List UInt8 :=
  leBytes16 ecu.logicalAddress ++ ecu.firmwareVersion.toList ++ ecu.hardwareVersion.toList ++
    [ecu.isOnline.toUInt8, ecu.fillOnline] ++ leBytes32 ecu.lastHeartbeatTime ++
    [ecu.otaCapable.toUInt8, ecu.deltaUpdateSupported.toUInt8] ++ ecu.fillDelta.toList ++
    leBytes32 ecu.maxPackageSize

def ZoneECUInfoT.bytes (ecu : ZoneECUInfoT) : List UInt8 := ecu.ecuId.toList ++ ecu.restBytes

/-- `ZoneVCIData_t`. -/
structure ZoneVCIDataT where
  ecuCount : UInt8
  ecus : Vector ZoneECUInfoT zgMaxEcus
  totalStorageMb : UInt32
  availableStorageMb : UInt32
  averageBatteryLevel : UInt8

/-- The records in use. -/
def ZoneVCIDataT.entries (vci : ZoneVCIDataT) : List ZoneECUInfoT := vci.ecus.toList.take vci.ecuCount.toNat

/-- The memory from the record's `ecu_id` on. The statistics follow the records, and the total, which no
update touches, begins with the zero that `zg_init` put there. -/
def ZoneVCIDataT.memoryFrom (vci : ZoneVCIDataT) (i : ℕ) : List UInt8 :=
  (vci.ecus.toList.drop i).flatMap ZoneECUInfoT.bytes ++ leBytes32 vci.totalStorageMb ++
    leBytes32 vci.availableStorageMb ++ [vci.averageBatteryLevel]

def zeroInfo : ZoneECUInfoT where
  ecuId := Vector.replicate 32 0
  logicalAddress := 0
  firmwareVersion := Vector.replicate 16 0
  hardwareVersion := Vector.replicate 32 0
  isOnline := false
  fillOnline := 0
  lastHeartbeatTime := 0
  otaCapable := false
  deltaUpdateSupported := false
  fillDelta := Vector.replicate 2 0
  maxPackageSize := 0

/-- The zone data that `zg_init` leaves. -/
def zgInitVci : ZoneVCIDataT := ⟨0, Vector.replicate zgMaxEcus zeroInfo, 0, 0, 0⟩

/-- The key is the array that the pointer leads to. -/
def zgUpdateEcuInfo (vci : ZoneVCIDataT) (ecuId : List UInt8) (info : ZoneECUInfoT) : ZoneVCIDataT × Int :=
  match (List.range vci.ecuCount.toNat).find? fun i => strcmp (vci.memoryFrom i) ecuId == 0 with
  | some idx => ({ vci with ecus := vci.ecus.setIfInBounds idx info }, 0)
  | none =>
    if zgMaxEcus ≤ vci.ecuCount.toNat then (vci, -1)
    else
      ({ vci with
          ecus := vci.ecus.setIfInBounds vci.ecuCount.toNat info
          ecuCount := vci.ecuCount + 1 }, 0)

def zgCheckOtaReadiness (vci : ZoneVCIDataT) : Bool :=
  if vci.averageBatteryLevel < 50 then false
  else if vci.availableStorageMb < 100 then false
  else vci.entries.all (·.isOnline)

/-! ## Linux -/

structure ZoneECUInfo where
  ecuId : List UInt8
  logicalAddress : UInt16
  firmwareVersion : List UInt8
  hardwareVersion : List UInt8
  isOnline : Bool
  lastHeartbeatTime : UInt64
  otaCapable : Bool
  deltaUpdateSupported : Bool
  maxPackageSize : UInt32

structure ZoneVCIData where
  ecus : List ZoneECUInfo
  availableStorageMb : UInt32
  averageBatteryLevel : UInt8

/-- The loop of `updateECUInfo`: the first entry with the key is assigned. -/
def assignFirst (ecuId : List UInt8) (info : ZoneECUInfo) : List ZoneECUInfo → Option (List ZoneECUInfo)
  | [] => none
  | ecu :: ecus =>
    if ecu.ecuId = ecuId then some (info :: ecus) else (assignFirst ecuId info ecus).map (ecu :: ·)

def updateECUInfo (vci : ZoneVCIData) (ecuId : List UInt8) (info : ZoneECUInfo) : ZoneVCIData × Bool :=
  match assignFirst ecuId info vci.ecus with
  | some ecus => ({ vci with ecus := ecus }, true)
  | none =>
    if vci.ecus.length < zgMaxEcus then ({ vci with ecus := vci.ecus ++ [info] }, true) else (vci, false)

def checkOTAReadiness (vci : ZoneVCIData) : Bool :=
  if vci.averageBatteryLevel < 50 then false
  else if vci.availableStorageMb < 100 then false
  else vci.ecus.all (·.isOnline)

/-! ## Both are bounded tables -/

section Refinement

theorem assignFirst_eq (ecuId : List UInt8) (info : ZoneECUInfo) (ecus : List ZoneECUInfo) :
    assignFirst ecuId info ecus =
      (ecus.findIdx? fun ecu => ecu.ecuId == ecuId).map fun i => ecus.set i info := by
  induction ecus with
  | nil => rfl
  | cons ecu ecus ih =>
    rw [assignFirst, List.findIdx?_cons, ih]
    by_cases hid : ecu.ecuId = ecuId
    · simp [hid]
    · simp only [if_neg hid, beq_eq_false_iff_ne.mpr hid]
      cases ecus.findIdx? fun ecu => ecu.ecuId == ecuId <;> rfl

theorem updateECUInfo_eq (vci : ZoneVCIData) (ecuId : List UInt8) (info : ZoneECUInfo) :
    updateECUInfo vci ecuId info =
      match upsert (fun ecu : ZoneECUInfo => ecu.ecuId == ecuId) zgMaxEcus info vci.ecus with
      | some ecus => ({ vci with ecus := ecus }, true)
      | none => (vci, false) := by
  unfold updateECUInfo upsert
  rw [assignFirst_eq]
  cases vci.ecus.findIdx? fun ecu => ecu.ecuId == ecuId with
  | some i => rfl
  | none =>
    dsimp only [Option.map_none]
    split <;> rfl

variable {vci : ZoneVCIDataT}

theorem length_entries (hcount : vci.ecuCount.toNat ≤ zgMaxEcus) :
    vci.entries.length = vci.ecuCount.toNat := by
  rw [ZoneVCIDataT.entries, List.length_take, Vector.length_toList]
  omega

/-- The array of the identifier holds a string. -/
def ZoneECUInfoT.Terminated (ecu : ZoneECUInfoT) : Prop := 0 ∈ ecu.ecuId.toList

theorem cString_memoryFrom {i : ℕ} (hi : i < vci.entries.length) (hterm : vci.entries[i].Terminated) :
    cString (vci.memoryFrom i) = cString vci.entries[i].ecuId.toList := by
  have hecus : i < vci.ecus.toList.length := Nat.lt_of_lt_of_le hi (List.length_take_le' _ _)
  have hentry : vci.entries[i] = vci.ecus.toList[i] := List.getElem_take
  rw [hentry] at hterm ⊢
  rw [ZoneVCIDataT.memoryFrom, List.drop_eq_getElem_cons hecus, List.flatMap_cons, ZoneECUInfoT.bytes]
  simp only [List.append_assoc]
  exact cString_append_of_mem hterm _

/-- Among identifiers that end in their arrays the search compares these. -/
theorem search_entries (hcount : vci.ecuCount.toNat ≤ zgMaxEcus)
    (hterm : ∀ ecu ∈ vci.entries, ecu.Terminated) (ecuId : List UInt8) :
    (List.range vci.ecuCount.toNat).find? (fun i => strcmp (vci.memoryFrom i) ecuId == 0) =
      vci.entries.findIdx? fun ecu => strcmp ecu.ecuId.toList ecuId == 0 := by
  rw [← length_entries hcount]
  apply find?_range_eq_findIdx?
  intro i hi
  rw [Bool.eq_iff_iff, beq_iff_eq, beq_iff_eq, strcmp_eq_zero_iff, strcmp_eq_zero_iff,
    cString_memoryFrom hi (hterm _ (List.getElem_mem hi))]

/-- The records in use, behind an update, and the count never exceeds the array. -/
theorem zgUpdateEcuInfo_eq (hcount : vci.ecuCount.toNat ≤ zgMaxEcus)
    (hterm : ∀ ecu ∈ vci.entries, ecu.Terminated) (ecuId : List UInt8) (info : ZoneECUInfoT) :
    (zgUpdateEcuInfo vci ecuId info).1.ecuCount.toNat ≤ zgMaxEcus ∧
    match upsert (fun ecu : ZoneECUInfoT => strcmp ecu.ecuId.toList ecuId == 0) zgMaxEcus info
        vci.entries with
      | some entries => (zgUpdateEcuInfo vci ecuId info).1.entries = entries ∧
          (zgUpdateEcuInfo vci ecuId info).2 = 0
      | none => zgUpdateEcuInfo vci ecuId info = (vci, -1) := by
  have hlen := length_entries hcount
  unfold zgUpdateEcuInfo upsert
  rw [search_entries hcount hterm]
  cases hfound : vci.entries.findIdx? fun ecu => strcmp ecu.ecuId.toList ecuId == 0 with
  | some i =>
    refine ⟨hcount, ?_, rfl⟩
    simp only [ZoneVCIDataT.entries, Vector.toList_setIfInBounds, List.take_set]
  | none =>
    dsimp only
    rw [hlen]
    by_cases hfull : zgMaxEcus ≤ vci.ecuCount.toNat
    · rw [if_pos hfull, if_neg (Nat.not_lt.mpr hfull)]
      exact ⟨hcount, rfl⟩
    · have hroom : vci.ecuCount.toNat < zgMaxEcus := Nat.lt_of_not_le hfull
      have hnext : (vci.ecuCount + 1).toNat = vci.ecuCount.toNat + 1 := by
        have h1 : (1 : UInt8).toNat = 1 := rfl
        have h8 : zgMaxEcus = 8 := rfl
        rw [UInt8.toNat_add, h1]
        exact Nat.mod_eq_of_lt (by omega)
      rw [if_neg hfull, if_pos hroom]
      refine ⟨by rw [hnext]; exact hroom, ?_, rfl⟩
      have hlt : vci.ecuCount.toNat < vci.ecus.toList.length := by rw [Vector.length_toList]; exact hroom
      simp only [ZoneVCIDataT.entries, Vector.toList_setIfInBounds, hnext]
      rw [List.take_succ_eq_append_getElem (by simpa using hlt), List.getElem_set_self, List.take_set,
        List.set_eq_of_length_le (List.length_take_le _ _)]

end Refinement

/-! ## The same table -/

/-- The record and the object describe one ECU: the arrays hold the strings. -/
structure Represents (c : ZoneECUInfoT) (l : ZoneECUInfo) : Prop where
  ecuId : cString c.ecuId.toList = l.ecuId
  logicalAddress : c.logicalAddress = l.logicalAddress
  firmwareVersion : cString c.firmwareVersion.toList = l.firmwareVersion
  hardwareVersion : cString c.hardwareVersion.toList = l.hardwareVersion
  isOnline : c.isOnline = l.isOnline
  lastHeartbeatTime : c.lastHeartbeatTime.toNat = l.lastHeartbeatTime.toNat
  otaCapable : c.otaCapable = l.otaCapable
  deltaUpdateSupported : c.deltaUpdateSupported = l.deltaUpdateSupported
  maxPackageSize : c.maxPackageSize = l.maxPackageSize

/-- An identifier that fits its array: 31 characters at most, and no NUL. -/
structure IdOk (ecuId : List UInt8) : Prop where
  length : ecuId.length ≤ 31
  noNul : 0 ∉ ecuId

/-- One update, as either gateway is given it. -/
structure ZoneUpdate where
  ecuId : List UInt8
  record : ZoneECUInfoT
  info : ZoneECUInfo
  keyOk : IdOk ecuId
  infoOk : IdOk info.ecuId
  represents : Represents record info

def zgTableMachine : Machine ZoneVCIDataT (List UInt8 × ZoneECUInfoT) Int where
  step vci i := zgUpdateEcuInfo vci i.1 i.2

def linuxTableMachine : Machine ZoneVCIData (List UInt8 × ZoneECUInfo) Bool where
  step vci i := updateECUInfo vci i.1 i.2

/-- The pointer leads to the key and its terminator. -/
def ZoneUpdate.tc375 (update : ZoneUpdate) : List UInt8 × ZoneECUInfoT := (update.ecuId ++ [0], update.record)

def ZoneUpdate.linux (update : ZoneUpdate) : List UInt8 × ZoneECUInfo := (update.ecuId, update.info)

/-- The two tables list the same ECUs in the same order. -/
structure SameTable (c : ZoneVCIDataT) (l : ZoneVCIData) : Prop where
  count : c.ecuCount.toNat ≤ zgMaxEcus
  terminated : ∀ ecu ∈ c.entries, ecu.Terminated
  entries : Forall₂ Represents c.entries l.ecus

section SameTable
variable {c : ZoneVCIDataT} {l : ZoneVCIData}

theorem sameKey {ecuId : List UInt8} (hkey : IdOk ecuId) (record : ZoneECUInfoT) (info : ZoneECUInfo)
    (h : Represents record info) :
    (strcmp record.ecuId.toList (ecuId ++ [0]) == 0) = (info.ecuId == ecuId) := by
  rw [Bool.eq_iff_iff, beq_iff_eq, beq_iff_eq, strcmp_eq_zero_iff, cString_terminated hkey.noNul, h.ecuId]

theorem ZoneUpdate.terminated (update : ZoneUpdate) : update.record.Terminated := by
  have hlength := update.infoOk.length
  rw [← update.represents.ecuId] at hlength
  apply mem_zero_of_cString_length
  rw [Vector.length_toList]
  omega

/-- One update: both take it or neither does. -/
theorem sameTable_update (h : SameTable c l) (update : ZoneUpdate) :
    SameTable (zgTableMachine.step c update.tc375).1 (linuxTableMachine.step l update.linux).1 ∧
      ((zgTableMachine.step c update.tc375).2 = 0 ↔ (linuxTableMachine.step l update.linux).2 = true) := by
  change SameTable (zgUpdateEcuInfo c (update.ecuId ++ [0]) update.record).1
      (updateECUInfo l update.ecuId update.info).1 ∧
    ((zgUpdateEcuInfo c (update.ecuId ++ [0]) update.record).2 = 0 ↔
      (updateECUInfo l update.ecuId update.info).2 = true)
  obtain ⟨hcount, hentries⟩ := zgUpdateEcuInfo_eq h.count h.terminated (update.ecuId ++ [0]) update.record
  rw [updateECUInfo_eq]
  rcases upsert_related h.entries (sameKey update.keyOk) update.represents zgMaxEcus with
    ⟨hnone, hnone'⟩ | ⟨xs, ys, hsome, hsome', hrelated⟩
  · rw [hnone] at hentries
    rw [hnone', hentries]
    exact ⟨h, iff_of_false (show (-1 : Int) ≠ 0 by decide) Bool.false_ne_true⟩
  · have hterminated : ∀ ecu ∈ xs, ecu.Terminated := by
      intro ecu hecu
      rcases mem_upsert hsome hecu with rfl | hold
      · exact update.terminated
      · exact h.terminated ecu hold
    rw [hsome] at hentries
    rw [hsome']
    exact ⟨⟨hcount, hentries.1 ▸ hterminated, hentries.1 ▸ hrelated⟩, iff_of_true hentries.2 rfl⟩

theorem sameTable_init (availableStorageMb : UInt32) (averageBatteryLevel : UInt8) :
    SameTable zgInitVci ⟨[], availableStorageMb, averageBatteryLevel⟩ :=
  ⟨by decide, fun _ hecu => absurd hecu List.not_mem_nil, .nil⟩

theorem all_online {cs : List ZoneECUInfoT} {ls : List ZoneECUInfo} (h : Forall₂ Represents cs ls) :
    cs.all (·.isOnline) = ls.all (·.isOnline) := by
  induction h with
  | nil => rfl
  | cons hcl _ ih => rw [List.all_cons, List.all_cons, ih, hcl.isOnline]

theorem sameReadiness (h : SameTable c l) (hbattery : c.averageBatteryLevel = l.averageBatteryLevel)
    (hstorage : c.availableStorageMb = l.availableStorageMb) :
    zgCheckOtaReadiness c = checkOTAReadiness l := by
  rw [zgCheckOtaReadiness, checkOTAReadiness, hbattery, hstorage, all_online h.entries]

end SameTable

/-- **One zone table.** From their initial states, the gateways succeed on the same updates, list the
same ECUs in the same order, and agree on readiness whatever equal statistics they have. -/
theorem zoneTables_agree (updates : List ZoneUpdate) (availableStorageMb : UInt32)
    (averageBatteryLevel : UInt8) :
    Forall₂ (fun code ok => code = 0 ↔ ok = true)
      (zgTableMachine.outputs zgInitVci (updates.map (·.tc375)))
      (linuxTableMachine.outputs ⟨[], availableStorageMb, averageBatteryLevel⟩ (updates.map (·.linux))) ∧
    Forall₂ Represents (zgTableMachine.run zgInitVci (updates.map (·.tc375))).entries
      (linuxTableMachine.run ⟨[], availableStorageMb, averageBatteryLevel⟩ (updates.map (·.linux))).ecus ∧
    ∀ storage battery,
      zgCheckOtaReadiness { zgTableMachine.run zgInitVci (updates.map (·.tc375)) with
        availableStorageMb := storage
        averageBatteryLevel := battery } =
      checkOTAReadiness { linuxTableMachine.run ⟨[], availableStorageMb, averageBatteryLevel⟩
          (updates.map (·.linux)) with
        availableStorageMb := storage
        averageBatteryLevel := battery } := by
  have hinputs : Forall₂ (fun i j => ∃ update : ZoneUpdate, i = update.tc375 ∧ j = update.linux)
      (updates.map (·.tc375)) (updates.map (·.linux)) := by
    rw [List.forall₂_map_left_iff, List.forall₂_map_right_iff, List.forall₂_same]
    exact fun update _ => ⟨update, rfl, rfl⟩
  obtain ⟨htable, houtputs⟩ := Machine.run_related (M := zgTableMachine) (N := linuxTableMachine)
    (R := SameTable) (O := fun code ok => code = 0 ↔ ok = true)
    (fun c l i j h hij => by
      obtain ⟨update, rfl, rfl⟩ := hij
      exact sameTable_update h update)
    (sameTable_init availableStorageMb averageBatteryLevel) hinputs
  refine ⟨houtputs, htable.entries, ?_⟩
  intro storage battery
  have hsame : SameTable
      { zgTableMachine.run zgInitVci (updates.map (·.tc375)) with
        availableStorageMb := storage
        averageBatteryLevel := battery }
      { linuxTableMachine.run ⟨[], availableStorageMb, averageBatteryLevel⟩ (updates.map (·.linux)) with
        availableStorageMb := storage
        averageBatteryLevel := battery } := ⟨htable.count, htable.terminated, htable.entries⟩
  exact sameReadiness hsame rfl rfl

def nodeUpdate : ZoneUpdate where
  ecuId := [0x41]
  record := { zeroInfo with ecuId := (Vector.replicate 32 0).setIfInBounds 0 0x41 }
  info := ⟨[0x41], 0, [], [], false, 0, false, false, 0⟩
  keyOk := ⟨by decide, by decide⟩
  infoOk := ⟨by decide, by decide⟩
  represents := ⟨rfl, rfl, rfl, rfl, rfl, rfl, rfl, rfl, rfl⟩

/-- The key is "A" and the record is "B". -/
def renamingUpdate : ZoneUpdate where
  ecuId := [0x41]
  record := { zeroInfo with ecuId := (Vector.replicate 32 0).setIfInBounds 0 0x42 }
  info := ⟨[0x42], 0, [], [], false, 0, false, false, 0⟩
  keyOk := ⟨by decide, by decide⟩
  infoOk := ⟨by decide, by decide⟩
  represents := ⟨rfl, rfl, rfl, rfl, rfl, rfl, rfl, rfl, rfl⟩

/-- The second update renames the entry, and the third does not find it. -/
theorem zoneTables_agree_renaming :
    (linuxTableMachine.run ⟨[], 256, 80⟩
        ([nodeUpdate, renamingUpdate, nodeUpdate].map (·.linux))).ecus.map (·.ecuId) = [[0x42], [0x41]] ∧
      Forall₂ Represents
        (zgTableMachine.run zgInitVci ([nodeUpdate, renamingUpdate, nodeUpdate].map (·.tc375))).entries
        (linuxTableMachine.run ⟨[], 256, 80⟩ ([nodeUpdate, renamingUpdate, nodeUpdate].map (·.linux))).ecus :=
  ⟨rfl, (zoneTables_agree [nodeUpdate, renamingUpdate, nodeUpdate] 256 80).2.1⟩

end Mcus.Nodes
