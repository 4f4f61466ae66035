import Mcus.Simulator.DeviceChecksum
import Mcus.Simulator.IpAddress

/-! # Saving the device configuration and loading it again

`saveDeviceConfig` writes seven members, and a simulator that is started anew loads them into a record of
zeros. Whatever happened to the record before, the members come back as they were: the host is read up to a
zero that may lie behind its array, but `strncpy` cuts it where it was cut before. Of the other fields only
the diagnostics flag can have been set, and it is lost with the checksum. The text in between is that of the
JSON library, which is taken to read back what it prints; a host that is no UTF-8 it does not print, and the
file is then left empty. The file keeps what is written to it.
-/

namespace Mcus.Simulator
open ByteOrder CString Runs Scanf
set_option autoImplicit false

/-! ## What is saved -/

/-- The record from `gateway_host` on. -/
def DeviceConfig.hostBytes (cfg : DeviceConfig) : List UInt8 := (cfg.bytes ++ leBytes32 cfg.crc32).drop 14

section Getters
variable (cfg : DeviceConfig)

def getGatewayHost : List UInt8 := cString cfg.hostBytes

def getGatewayPort : UInt16 := cfg.gatewayPort

def isTLSEnabled : Bool := cfg.tlsEnabled != 0

def getHeartbeatInterval : UInt16 := cfg.heartbeatInterval

/-- The members of the object, as a file that holds it. -/
def getDeviceConfig : DeviceFile where
  ipAddress := .value (getIPAddress cfg)
  gatewayPort := .value (Int32.ofNat (getGatewayPort cfg).toNat)
  gatewayHost := .value (getGatewayHost cfg)
  tlsEnabled := .value (isTLSEnabled cfg)
  otaEnabled := .value (cfg.otaEnabled != 0)
  heartbeatInterval := .value (Int32.ofNat (getHeartbeatInterval cfg).toNat)
  sensorInterval := .value (Int32.ofNat cfg.sensorInterval.toNat)

end Getters

theorem exists_hostBytes (cfg : DeviceConfig) : ∃ rest,
    cfg.hostBytes = cfg.gatewayHost.bytes ++ cfg.tlsEnabled :: cfg.tlsVerifyPeer :: rest := by
  refine ⟨leBytes16 cfg.heartbeatInterval ++ leBytes16 cfg.sensorInterval ++ [cfg.otaEnabled,
    cfg.diagnosticsEnabled, cfg.logLevel, cfg.canBitrate] ++ leBytes32 cfg.canIdBase ++ [cfg.canMode] ++
    cfg.reserved.bytes ++ leBytes32 cfg.crc32, ?_⟩
  simp [DeviceConfig.hostBytes, DeviceConfig.bytes, leBytes32, leBytes16, beBytes32, beBytes16]

/-! ## What a record can hold -/

/-- The flags are 0 or 1, the host was put there by `strncpy`, and the fields that nothing writes keep their
zeros. -/
structure Storable (cfg : DeviceConfig) : Prop where
  host : ∃ src, cfg.gatewayHost = strncpy 64 src
  tls : ∃ enabled, cfg.tlsEnabled = flagByte enabled
  ota : ∃ enabled, cfg.otaEnabled = flagByte enabled
  subnetMask : cfg.subnetMask = 0
  gatewayIp : cfg.gatewayIp = 0
  tlsVerifyPeer : cfg.tlsVerifyPeer = 0
  logLevel : cfg.logLevel = 0
  canBitrate : cfg.canBitrate = 0
  canIdBase : cfg.canIdBase = 0
  canMode : cfg.canMode = 0
  reserved : cfg.reserved = .zero 64

def KeepsStorable (f : DeviceConfig → DeviceConfig × Option Bool) : Prop :=
  ∀ cfg, Storable cfg → Storable (f cfg).1

section Storable
variable {overflow : List UInt8 → UInt32} {cfg : DeviceConfig}

theorem storable_initial : Storable initialDeviceConfig := by
  apply Storable.mk ⟨[], rfl⟩ ⟨false, rfl⟩ ⟨false, rfl⟩
  all_goals rfl

theorem keepsStorable_assign {α : Type} {member : Option α} {set : DeviceConfig → α → DeviceConfig}
    {next : DeviceConfig → DeviceConfig × Option Bool} (hset : ∀ cfg x, Storable cfg → Storable (set cfg x))
    (hnext : KeepsStorable next) : KeepsStorable (assign member set next) := by
  intro cfg h
  cases member with
  | none => exact h
  | some x => exact hnext _ (hset cfg x h)

theorem keepsStorable_load (held : ℕ → UInt32) (file : Option DeviceFile) :
    KeepsStorable fun cfg => loadDeviceConfig overflow held cfg file := by
  cases file with
  | none => exact fun cfg h => { h with host := ⟨_, rfl⟩, tls := ⟨true, rfl⟩, ota := ⟨true, rfl⟩ }
  | some file =>
    refine keepsStorable_assign ?ip (keepsStorable_assign ?port (keepsStorable_assign ?host
      (keepsStorable_assign ?tls (keepsStorable_assign ?ota (keepsStorable_assign ?heartbeat
        (keepsStorable_assign ?sensor fun _ h => h))))))
    case host => exact fun _ _ h => { h with host := ⟨_, rfl⟩ }
    case tls => exact fun _ _ h => { h with tls := ⟨_, rfl⟩ }
    case ota => exact fun _ _ h => { h with ota := ⟨_, rfl⟩ }
    all_goals exact fun _ _ h => { h with }

theorem Storable.updateChecksum (h : Storable cfg) : Storable (updateChecksum cfg) := { h with }

theorem Storable.updateIPAddress (h : Storable cfg) (ip : List UInt8) :
    Storable (updateIPAddress overflow cfg ip).1 := by
  unfold Simulator.updateIPAddress
  split
  · exact Storable.updateChecksum { h with }
  · exact h

theorem Storable.updateFeatureFlag (h : Storable cfg) (flag : List UInt8) (enabled : Bool) :
    Storable (updateFeatureFlag cfg flag enabled).1 := by
  unfold Simulator.updateFeatureFlag
  split
  · exact Storable.updateChecksum { h with ota := ⟨_, rfl⟩ }
  split
  · exact Storable.updateChecksum { h with }
  split
  · exact Storable.updateChecksum { h with tls := ⟨_, rfl⟩ }
  · exact h

theorem storable_step (h : Storable cfg) (call : DeviceCall) :
    Storable ((deviceMachine overflow).step cfg call).1 := by
  cases call with
  | loadDeviceConfig file held => exact keepsStorable_load held file cfg h
  | saveDeviceConfig opened dumps => exact h
  | updateIPAddress ip => exact h.updateIPAddress ip
  | updateGatewayPort port => exact Storable.updateChecksum { h with }
  | updateFeatureFlag flag enabled => exact h.updateFeatureFlag flag enabled

theorem storable_run (calls : List DeviceCall) :
    Storable ((deviceMachine overflow).run initialDeviceConfig calls) :=
  Machine.induction (M := deviceMachine overflow) (P := fun _ cfg => Storable cfg) storable_initial
    (fun _ _ call h => storable_step h call) calls

end Storable

/-! ## What comes back -/

/-- An address as the four numbers that are printed. -/
def quadOf (ip : UInt32) : Quad where
  a := decimal (ip >>> 24 &&& 0xFF).toNat
  b := decimal (ip >>> 16 &&& 0xFF).toNat
  c := decimal (ip >>> 8 &&& 0xFF).toNat
  d := decimal (ip &&& 0xFF).toNat
  octets := by
    have hoctet : ∀ x : UInt32, IsOctet (decimal (x &&& 0xFF).toNat) := by
      intro x
      refine ⟨isDecimal_decimal _, ?_⟩
      rw [digitsValue_decimal, UInt32.toNat_and]
      exact Nat.and_le_right
    intro ds hds
    simp only [List.mem_cons, List.not_mem_nil, or_false] at hds
    rcases hds with rfl | rfl | rfl | rfl <;> exact hoctet _

section Back
variable {overflow : List UInt8 → UInt32} {cfg : DeviceConfig}

theorem getIPAddress_eq_text (cfg : DeviceConfig) : getIPAddress cfg = (quadOf cfg.ipAddress).text := by
  have hcanonical : (quadOf cfg.ipAddress).canonical = (quadOf cfg.ipAddress).text := by
    simp only [Quad.canonical, Quad.text, quadOf, digitsValue_decimal]
  rw [← hcanonical, ← List.take_of_length_le (quadOf cfg.ipAddress).canonical_length_le, hcanonical]
  rfl

theorem ipWord_masked (ip : UInt32) :
    ipWord (ip >>> 24 &&& 0xFF) (ip >>> 16 &&& 0xFF) (ip >>> 8 &&& 0xFF) (ip &&& 0xFF) = ip := by
  have hmask : ∀ x : UInt32, x &&& 0xFF = x.toUInt8.toUInt32 := by
    intro x
    apply UInt32.toNat_inj.mp
    rw [UInt32.toNat_and, UInt8.toNat_toUInt32, UInt32.toNat_toUInt8]
    exact Nat.and_two_pow_sub_one_eq_mod _ 8
  rw [hmask, hmask, hmask, hmask]
  exact word32_bytes ip

theorem scanIp_getIPAddress (cfg : DeviceConfig) : scanIp overflow (getIPAddress cfg) =
    [cfg.ipAddress >>> 24 &&& 0xFF, cfg.ipAddress >>> 16 &&& 0xFF, cfg.ipAddress >>> 8 &&& 0xFF,
      cfg.ipAddress &&& 0xFF] := by
  rw [getIPAddress_eq_text, Quad.scanIp_text]
  simp only [quadOf, digitsValue_decimal, UInt32.ofNat_toNat]

theorem narrow16_ofNat (x : UInt16) : narrow16 (Int32.ofNat x.toNat) = x := by
  apply UInt16.toNat_inj.mp
  have hlt := x.toNat_lt
  change (UInt32.ofNat x.toNat).toUInt16.toNat = x.toNat
  rw [UInt32.toNat_toUInt16, UInt32.toNat_ofNat']
  omega

theorem flagByte_read {enabled : Bool} : flagByte (flagByte enabled != 0) = flagByte enabled := by
  cases enabled <;> rfl

/-- Loading what was saved, into any record. -/
theorem load_saved (h : Storable cfg) (held : ℕ → UInt32) (into : DeviceConfig) :
    loadDeviceConfig overflow held into (some (getDeviceConfig cfg)) =
      ({ into with
          ipAddress := cfg.ipAddress
          gatewayPort := cfg.gatewayPort
          gatewayHost := cfg.gatewayHost
          tlsEnabled := cfg.tlsEnabled
          otaEnabled := cfg.otaEnabled
          heartbeatInterval := cfg.heartbeatInterval
          sensorInterval := cfg.sensorInterval }, some true) := by
  obtain ⟨src, hhost⟩ := h.host
  obtain ⟨tls, htls⟩ := h.tls
  obtain ⟨ota, hota⟩ := h.ota
  have hback : strncpy 64 (getGatewayHost cfg) = cfg.gatewayHost := by
    obtain ⟨rest, hbytes⟩ := exists_hostBytes cfg
    rw [getGatewayHost, hbytes, hhost]
    exact strncpy_read_back 64 src _
  simp only [loadDeviceConfig, getDeviceConfig, assign, JsonMember.valueOr, scanIp_getIPAddress,
    List.getD_cons_zero, List.getD_cons_succ, ipWord_masked, narrow16_ofNat, hback, isTLSEnabled, htls, hota,
    flagByte_read, getGatewayPort, getHeartbeatInterval]

/-- The zero behind the flags ends the host at the latest. -/
theorem getGatewayHost_of_storable (h : Storable cfg) :
    getGatewayHost cfg = cString (cfg.gatewayHost.bytes ++ [cfg.tlsEnabled]) := by
  obtain ⟨rest, hbytes⟩ := exists_hostBytes cfg
  rw [getGatewayHost, hbytes, h.tlsVerifyPeer, List.append_cons, cString_cut]

theorem getDeviceConfig_restored (h : Storable cfg) :
    getDeviceConfig { cfg with diagnosticsEnabled := 0, crc32 := 0 } = getDeviceConfig cfg := by
  have hrestored : Storable { cfg with diagnosticsEnabled := 0, crc32 := 0 } := { h with }
  have hhost : getGatewayHost { cfg with diagnosticsEnabled := 0, crc32 := 0 } = getGatewayHost cfg := by
    rw [getGatewayHost_of_storable hrestored, getGatewayHost_of_storable h]
  unfold getDeviceConfig
  rw [hhost]
  rfl

end Back

/-! ## The file -/

/-- The JSON library: what it prints of an object of members, unless it throws, and the members that it finds in
a text. -/
structure ConfigJson where
  dump : DeviceFile → Option (List UInt8)
  parse : List UInt8 → DeviceFile

namespace ConfigJson
variable (lib : ConfigJson)

/-- The members that are printed are found again. -/
def ReadsBack : Prop :=
  ∀ cfg text, lib.dump (getDeviceConfig cfg) = some text → lib.parse text = getDeviceConfig cfg

/-- What a save returns. -/
def saveResult (cfg : DeviceConfig) (opened : Bool) : Option Bool :=
  (saveDeviceConfig cfg opened (lib.dump (getDeviceConfig cfg)).isSome).2

/-- The file behind a save, with `file` in front of it. Opening it empties it. -/
def savedFile (cfg : DeviceConfig) (opened : Bool) (file : Option (List UInt8)) : Option (List UInt8) :=
  if opened then some ((lib.dump (getDeviceConfig cfg)).getD []) else file

variable {lib} {cfg : DeviceConfig} {opened : Bool}

/-- A save that returned true leaves the members in the file. -/
theorem ReadsBack.savedFile (h : lib.ReadsBack) (hsaved : lib.saveResult cfg opened = some true)
    (file : Option (List UInt8)) : (lib.savedFile cfg opened file).map lib.parse = some (getDeviceConfig cfg) := by
  unfold saveResult saveDeviceConfig at hsaved
  cases opened with
  | false => exact absurd (Option.some.inj hsaved) Bool.false_ne_true
  | true =>
    cases hdump : lib.dump (getDeviceConfig cfg) with
    | none =>
      rw [hdump] at hsaved
      cases hsaved
    | some text =>
      rw [ConfigJson.savedFile, if_pos rfl, hdump]
      exact congrArg some (h cfg text hdump)

end ConfigJson

/-- **Saved configuration.** After any sequence of calls and a save that returns true, a simulator that is started
anew and loads the file has the record that was saved, without the diagnostics flag and the checksum, and would
save the same members again. -/
theorem saved_config_restored {lib : ConfigJson} (hlib : lib.ReadsBack) (overflow : List UInt8 → UInt32)
    (calls : List DeviceCall) (held : ℕ → UInt32) (opened : Bool) (file : Option (List UInt8))
    (hsaved : lib.saveResult ((deviceMachine overflow).run initialDeviceConfig calls) opened = some true) :
    let cfg := (deviceMachine overflow).run initialDeviceConfig calls
    let restored : DeviceConfig := { cfg with diagnosticsEnabled := 0, crc32 := 0 }
    loadDeviceConfig overflow held initialDeviceConfig ((lib.savedFile cfg opened file).map lib.parse) =
        (restored, some true) ∧
      getDeviceConfig restored = getDeviceConfig cfg := by
  intro cfg restored
  have h : Storable cfg := storable_run calls
  refine ⟨?_, getDeviceConfig_restored h⟩
  rw [hlib.savedFile hsaved, load_saved h]
  change (_, some true) = ({ cfg with diagnosticsEnabled := 0, crc32 := 0 }, some true)
  cases hcfg : cfg
  rw [hcfg] at h
  obtain ⟨-, -, -, rfl, rfl, rfl, rfl, rfl, rfl, rfl, rfl⟩ := h
  rfl

/-- The defaults, as they are saved. -/
def defaultsFile : DeviceFile where
  ipAddress := .value (literal "0.0.0.0")
  gatewayPort := .value 8765
  gatewayHost := .value (literal "localhost")
  tlsEnabled := .value true
  otaEnabled := .value true
  heartbeatInterval := .value 10
  sensorInterval := .value 5

def defaultsText : List UInt8 :=
  literal "\x7b\n  \"gateway_host\": \"localhost\",\n  \"gateway_port\": 8765,\n" ++
    literal "  \"heartbeat_interval\": 10,\n  \"ip_address\": \"0.0.0.0\",\n" ++
    literal "  \"ota_enabled\": true,\n  \"sensor_interval\": 5,\n  \"tls_enabled\": true\n\x7d"

/-- The defaults and their text; nothing else is printed or found. -/
def defaultsJson : ConfigJson where
  dump file := if file = defaultsFile then some defaultsText else none
  parse text := if text = defaultsText then defaultsFile else { defaultsFile with ipAddress := .mistyped }

theorem defaultsJson_readsBack : defaultsJson.ReadsBack := by
  intro cfg text hdump
  unfold defaultsJson at hdump ⊢
  dsimp only at hdump ⊢
  split at hdump
  case isTrue hfile =>
    rw [if_pos (Option.some.inj hdump).symm, hfile]
  case isFalse => cases hdump

theorem saved_config_restored_defaults :
    loadDeviceConfig (fun _ => 0) (fun _ => 0) initialDeviceConfig
        ((defaultsJson.savedFile ((deviceMachine fun _ => 0).run initialDeviceConfig
          [.loadDeviceConfig none fun _ => 0]) true none).map defaultsJson.parse) =
      ((deviceMachine fun _ => 0).run initialDeviceConfig [.loadDeviceConfig none fun _ => 0], some true) :=
  (saved_config_restored defaultsJson_readsBack (fun _ => 0) [.loadDeviceConfig none fun _ => 0] (fun _ => 0)
    true none (by decide +kernel)).1

end Mcus.Simulator
