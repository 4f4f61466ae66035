import Mcus.Foundations.ByteOrder
import Mcus.Foundations.CString
import Mcus.Foundations.Scanf

/-! # The simulator's device information

`device_info.cpp` keeps two packed records: what an ECU leaves the factory with, and what is configured
later. Strings lie in arrays of characters with the next field right behind them, and a getter reads on until
it meets a zero. A configuration file is what the JSON library gives for its members; a file that is not an
object of JSON is one whose first member has the wrong type, since both throw before anything is stored.
What is printed, the timestamps and the messages that are put together for the gateway are left out.
-/

namespace Mcus.Simulator
open ByteOrder CString Scanf
set_option autoImplicit false

/-! ## The records -/

/-- The floating-point fields are kept as their bytes. -/
structure PermanentConfig where
  ecuSerial : CharArray 32
  macAddress : CharArray 6
  hardwareVersion : CharArray 16
  manufactureDate : UInt32
  vin : CharArray 17
  vehicleModel : CharArray 32
  vehicleYear : UInt16
  vehicleType : UInt8
  adcCalibration : CharArray 32
  temperatureOffset : CharArray 4
  voltageCalibration : CharArray 4
  reserved : CharArray 128
  crc32 : UInt32
  deriving DecidableEq

namespace PermanentConfig

/-- The record from `vehicle_model` on. -/
def modelBytes (p : PermanentConfig) : List UInt8 :=
  p.vehicleModel.bytes ++ (leBytes16 p.vehicleYear ++ p.vehicleType :: (p.adcCalibration.bytes ++
    (p.temperatureOffset.bytes ++ (p.voltageCalibration.bytes ++ (p.reserved.bytes ++ leBytes32 p.crc32)))))

/-- The record from `vin` on. -/
def vinBytes (p : PermanentConfig) : List UInt8 := p.vin.bytes ++ p.modelBytes

/-- The record from `hardware_version` on. -/
def versionBytes (p : PermanentConfig) : List UInt8 :=
  p.hardwareVersion.bytes ++ (leBytes32 p.manufactureDate ++ p.vinBytes)

def bytes (p : PermanentConfig) : List UInt8 := p.ecuSerial.bytes ++ (p.macAddress.bytes ++ p.versionBytes)

end PermanentConfig

structure DeviceConfig where
  ipAddress : UInt32
  subnetMask : UInt32
  gatewayIp : UInt32
  gatewayPort : UInt16
  gatewayHost : CharArray 64
  tlsEnabled : UInt8
  tlsVerifyPeer : UInt8
  heartbeatInterval : UInt16
  sensorInterval : UInt16
  otaEnabled : UInt8
  diagnosticsEnabled : UInt8
  logLevel : UInt8
  canBitrate : UInt8
  canIdBase : UInt32
  canMode : UInt8
  reserved : CharArray 64
  crc32 : UInt32
  deriving DecidableEq

/-- The record up to its checksum. -/
def DeviceConfig.bytes (cfg : DeviceConfig) : List UInt8 :=
  leBytes32 cfg.ipAddress ++ leBytes32 cfg.subnetMask ++ leBytes32 cfg.gatewayIp ++ leBytes16 cfg.gatewayPort ++
    cfg.gatewayHost.bytes ++ [cfg.tlsEnabled, cfg.tlsVerifyPeer] ++ leBytes16 cfg.heartbeatInterval ++
    leBytes16 cfg.sensorInterval ++ [cfg.otaEnabled, cfg.diagnosticsEnabled, cfg.logLevel, cfg.canBitrate] ++
    leBytes32 cfg.canIdBase ++ [cfg.canMode] ++ cfg.reserved.bytes

/-- What the constructor of `DeviceInfo` leaves. -/
def initialPermanentConfig : PermanentConfig where
  ecuSerial := .zero 32
  macAddress := .zero 6
  hardwareVersion := .zero 16
  manufactureDate := 0
  vin := .zero 17
  vehicleModel := .zero 32
  vehicleYear := 0
  vehicleType := 0
  adcCalibration := .zero 32
  temperatureOffset := .zero 4
  voltageCalibration := .zero 4
  reserved := .zero 128
  crc32 := 0

def initialDeviceConfig : DeviceConfig where
  ipAddress := 0
  subnetMask := 0
  gatewayIp := 0
  gatewayPort := 0
  gatewayHost := .zero 64
  tlsEnabled := 0
  tlsVerifyPeer := 0
  heartbeatInterval := 0
  sensorInterval := 0
  otaEnabled := 0
  diagnosticsEnabled := 0
  logLevel := 0
  canBitrate := 0
  canIdBase := 0
  canMode := 0
  reserved := .zero 64
  crc32 := 0

/-! ## The checksum -/

def crcBit (crc : UInt32) : UInt32 := (crc >>> 1) ^^^ (0xEDB88320 &&& -(crc &&& 1))

def calculateCRC (data : List UInt8) : UInt32 :=
  ~~~ data.foldl (fun crc b => crcBit^[8] (crc ^^^ b.toUInt32)) 0xFFFFFFFF

def verifyCRC (data : List UInt8) (expectedCrc : UInt32) : Bool := calculateCRC data == expectedCrc

/-! ## The permanent configuration -/

/-- The strings of a configuration file; `none` is a member of which the library makes no string. -/
structure PermanentFile where
  ecuSerial : Option (List UInt8)
  macAddress : Option (List UInt8)
  vin : Option (List UInt8)
  deriving DecidableEq

/-- The bytes that `sscanf` assigns; the others keep what they held. -/
def scanMac (held : CharArray 6) (mac : List UInt8) : CharArray 6 :=
  let scanned := scanSeparated scanHexByte 0x3A 6 (cString mac)
  ⟨(scanned ++ held.bytes.drop scanned.length).take 6, by
    rw [List.length_take, List.length_append, List.length_drop, held.length_eq]
    omega⟩

def defaultMac : CharArray 6 := ⟨[0x02, 0x00, 0x00, 0xAA, 0xBB, 0xCC], rfl⟩

/-- The record and what is returned, `none` for an exception; a file that cannot be opened is `none`. -/
def loadPermanentConfig (p : PermanentConfig) (file : Option PermanentFile) : PermanentConfig × Option Bool :=
  match file with
  | none =>
    ({ p with
        ecuSerial := strncpy 32 (literal "TC375-SIM-001")
        macAddress := defaultMac
        hardwareVersion := strncpy 16 (literal "TC375TP-v2.0")
        vin := strncpy 17 (literal "KMHGH4JH1NU123456")
        vehicleModel := strncpy 32 (literal "Genesis G80")
        vehicleYear := 2025 }, some true)
  | some file =>
    match file.ecuSerial with
    | none => (p, none)
    | some serial =>
      let p := { p with ecuSerial := strncpy 32 serial }
      match file.macAddress with
      | none => (p, none)
      | some mac =>
        let p := { p with macAddress := scanMac p.macAddress mac }
        match file.vin with
        | none => (p, none)
        | some vin => ({ p with vin := strncpy 17 vin }, some true)

section Getters
variable (p : PermanentConfig)

def getEcuSerial : List UInt8 := cString p.bytes

def getHardwareVersion : List UInt8 := cString p.versionBytes

def getVIN : List UInt8 := cString p.vinBytes

def getVehicleModel : List UInt8 := cString p.modelBytes

end Getters

/-! ## The device configuration -/

/-- A member of a JSON object that is read as an `α`. -/
inductive JsonMember (α : Type)
  | absent
  | value (x : α)
  | mistyped
  deriving DecidableEq

/-- `j.value(key, default)`, which throws on a member of another type. -/
def JsonMember.valueOr {α : Type} (default : α) : JsonMember α → Option α
  | .absent => some default
  | .value x => some x
  | .mistyped => none

structure DeviceFile where
  ipAddress : JsonMember (List UInt8)
  gatewayPort : JsonMember Int32
  gatewayHost : JsonMember (List UInt8)
  tlsEnabled : JsonMember Bool
  otaEnabled : JsonMember Bool
  heartbeatInterval : JsonMember Int32
  sensorInterval : JsonMember Int32
  deriving DecidableEq

def flagByte (enabled : Bool) : UInt8 := if enabled then 1 else 0

def narrow16 (x : Int32) : UInt16 := x.toUInt32.toUInt16

def ipWord (a b c d : UInt32) : UInt32 := a <<< 24 ||| b <<< 16 ||| c <<< 8 ||| d

abbrev dot : UInt8 := 0x2E

/-- `sscanf(ip.c_str(), "%u.%u.%u.%u", ...)`. -/
def scanIp (overflow : List UInt8 → UInt32) (ip : List UInt8) : List UInt32 :=
  scanSeparated (scanUnsigned overflow) dot 4 (cString ip)

/-- A member that is assigned, and what is done behind it; a member of the wrong type throws. -/
def assign {α : Type} (member : Option α) (set : DeviceConfig → α → DeviceConfig)
    (next : DeviceConfig → DeviceConfig × Option Bool) (cfg : DeviceConfig) : DeviceConfig × Option Bool :=
  match member with
  | none => (cfg, none)
  | some x => next (set cfg x)

/-- `held` is what the four local variables held before `sscanf`. -/
def loadDeviceConfig (overflow : List UInt8 → UInt32) (held : ℕ → UInt32) (cfg : DeviceConfig)
    (file : Option DeviceFile) : DeviceConfig × Option Bool :=
  match file with
  | none =>
    ({ cfg with
        gatewayPort := 8765
        gatewayHost := strncpy 64 (literal "localhost")
        tlsEnabled := 1
        otaEnabled := 1
        heartbeatInterval := 10
        sensorInterval := 5 }, some true)
  | some file =>
    let setIp (cfg : DeviceConfig) (ip : List UInt8) : DeviceConfig :=
      let octet (i : ℕ) : UInt32 := (scanIp overflow ip).getD i (held i)
      { cfg with ipAddress := ipWord (octet 0) (octet 1) (octet 2) (octet 3) }
    cfg |>
      assign (file.ipAddress.valueOr (literal "192.168.1.100")) setIp (
      assign (file.gatewayPort.valueOr 8765) (fun cfg port => { cfg with gatewayPort := narrow16 port }) (
      assign (file.gatewayHost.valueOr (literal "localhost"))
        (fun cfg host => { cfg with gatewayHost := strncpy 64 host }) (
      assign (file.tlsEnabled.valueOr true) (fun cfg tls => { cfg with tlsEnabled := flagByte tls }) (
      assign (file.otaEnabled.valueOr true) (fun cfg ota => { cfg with otaEnabled := flagByte ota }) (
      assign (file.heartbeatInterval.valueOr 10)
        (fun cfg interval => { cfg with heartbeatInterval := narrow16 interval }) (
      assign (file.sensorInterval.valueOr 5)
        (fun cfg interval => { cfg with sensorInterval := narrow16 interval })
        fun cfg => (cfg, some true)))))))

/-- The file is written from the record, which stays as it is. It may not be `opened`, and the JSON library
throws unless it `dumps` the host. -/
def saveDeviceConfig (cfg : DeviceConfig) (opened dumps : Bool) : DeviceConfig × Option Bool :=
  (cfg, if opened then if dumps then some true else none else some false)

/-- `dev_config_.crc32 = calculateCRC(&dev_config_, sizeof(dev_config_) - 4)`. -/
def updateChecksum (cfg : DeviceConfig) : DeviceConfig := { cfg with crc32 := calculateCRC cfg.bytes }

def updateIPAddress (overflow : List UInt8 → UInt32) (cfg : DeviceConfig) (ip : List UInt8) :
    DeviceConfig × Bool :=
  match scanIp overflow ip with
  | [a, b, c, d] => (updateChecksum { cfg with ipAddress := ipWord a b c d }, true)
  | _ => (cfg, false)

def updateGatewayPort (cfg : DeviceConfig) (port : UInt16) : DeviceConfig × Bool :=
  (updateChecksum { cfg with gatewayPort := port }, true)

def updateFeatureFlag (cfg : DeviceConfig) (flag : List UInt8) (enabled : Bool) : DeviceConfig × Bool :=
  if flag = literal "ota" then (updateChecksum { cfg with otaEnabled := flagByte enabled }, true)
  else if flag = literal "diagnostics" then
    (updateChecksum { cfg with diagnosticsEnabled := flagByte enabled }, true)
  else if flag = literal "tls" then (updateChecksum { cfg with tlsEnabled := flagByte enabled }, true)
  else (cfg, false)

/-- `snprintf` leaves room for the terminator in 16 bytes. -/
def getIPAddress (cfg : DeviceConfig) : List UInt8 :=
  let ip := cfg.ipAddress
  let octet (x : UInt32) : List UInt8 := decimal (x &&& 0xFF).toNat
  (octet (ip >>> 24) ++ dot :: (octet (ip >>> 16) ++ dot :: (octet (ip >>> 8) ++ dot :: octet ip))).take 15

end Mcus.Simulator
