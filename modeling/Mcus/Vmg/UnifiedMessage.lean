import Mcus.Foundations.JsonObjects
import Mcus.Vmg.RemoteDiagnostics

/-! # The unified message

`unified_message.hpp`: the messages between ECUs, gateway and server and their JSON form. `fromJson`
takes every source for the gateway and every target for the server, and it does not read the metadata.
`json::object::merge` is no function of the JSON library, so that it is a parameter here.
-/

namespace Mcus.Vmg
open JsonObjects
set_option autoImplicit false

inductive EntityType
  | vmg
  | server
  | ecu
  deriving DecidableEq, Repr

inductive MessageType
  | deviceRegistration
  | deviceRegistrationAck
  | heartbeat
  | sensorData
  | statusReport
  | wakeup
  | wakeupAck
  | requestVci
  | vciReport
  | requestReadiness
  | readinessResponse
  | otaDownloadProgress
  | otaUpdateResult
  | commandAck
  | error
  deriving DecidableEq, Repr

def entityTypeToString : EntityType → Text
  | .vmg => bytesOf "VMG"
  | .server => bytesOf "SERVER"
  | .ecu => bytesOf "ECU"

def messageTypeToString : MessageType → Text
  | .deviceRegistration => bytesOf "DEVICE_REGISTRATION"
  | .deviceRegistrationAck => bytesOf "DEVICE_REGISTRATION_ACK"
  | .heartbeat => bytesOf "HEARTBEAT"
  | .sensorData => bytesOf "SENSOR_DATA"
  | .statusReport => bytesOf "STATUS_REPORT"
  | .wakeup => bytesOf "WAKEUP"
  | .wakeupAck => bytesOf "WAKEUP_ACK"
  | .requestVci => bytesOf "REQUEST_VCI"
  | .vciReport => bytesOf "VCI_REPORT"
  | .requestReadiness => bytesOf "REQUEST_READINESS"
  | .readinessResponse => bytesOf "READINESS_RESPONSE"
  | .otaDownloadProgress => bytesOf "OTA_DOWNLOAD_PROGRESS"
  | .otaUpdateResult => bytesOf "OTA_UPDATE_RESULT"
  | .commandAck => bytesOf "COMMAND_ACK"
  | .error => bytesOf "ERROR"

def stringToMessageType (str : Text) : MessageType :=
  if str = bytesOf "DEVICE_REGISTRATION" then .deviceRegistration
  else if str = bytesOf "DEVICE_REGISTRATION_ACK" then .deviceRegistrationAck
  else if str = bytesOf "HEARTBEAT" then .heartbeat
  else if str = bytesOf "SENSOR_DATA" then .sensorData
  else if str = bytesOf "STATUS_REPORT" then .statusReport
  else if str = bytesOf "WAKEUP" then .wakeup
  else if str = bytesOf "WAKEUP_ACK" then .wakeupAck
  else if str = bytesOf "REQUEST_VCI" then .requestVci
  else if str = bytesOf "VCI_REPORT" then .vciReport
  else if str = bytesOf "REQUEST_READINESS" then .requestReadiness
  else if str = bytesOf "READINESS_RESPONSE" then .readinessResponse
  else if str = bytesOf "OTA_DOWNLOAD_PROGRESS" then .otaDownloadProgress
  else if str = bytesOf "OTA_UPDATE_RESULT" then .otaUpdateResult
  else if str = bytesOf "COMMAND_ACK" then .commandAck
  else if str = bytesOf "ERROR" then .error
  else .error

theorem stringToMessageType_messageTypeToString (type : MessageType) :
    stringToMessageType (messageTypeToString type) = type := by
  cases type <;> decide +kernel

structure MessageEntity where
  entity : EntityType
  identifier : Text
  deriving DecidableEq, Repr

structure MessageMetadata (J : Type) where
  protocolVersion : Text := bytesOf "1.0"
  encryption : Text := bytesOf "ML-KEM-768"
  signature : J
  extra : J

structure UnifiedMessage (J : Type) where
  messageType : MessageType
  messageId : Text
  correlationId : Text
  timestamp : Text
  source : MessageEntity
  target : MessageEntity
  payload : J
  metadata : MessageMetadata J

/-- What the constructor of a message meets: the identifier and the time that it generates, and the
values that the entities of `source_` and `target_`, which nothing initialises, happen to have. -/
structure Construction where
  uuid : Text
  currentTimestamp : Text
  sourceEntity : EntityType
  targetEntity : EntityType

section
variable {J : Type} (lib : JsonLibrary Text J) (merge : J → J → J)

def MessageEntity.toJson (e : MessageEntity) : J :=
  lib.object [
    ("entity", lib.string (entityTypeToString e.entity)),
    ("identifier", lib.string e.identifier)]

namespace MessageMetadata

def initial : MessageMetadata J where
  signature := lib.null
  extra := lib.null

/-- The result of `toJson` before `extra` is merged into it. -/
def signed (metadata : MessageMetadata J) : J :=
  let result := lib.object [
    ("protocol_version", lib.string metadata.protocolVersion),
    ("encryption", lib.string metadata.encryption)]
  if lib.isEmpty metadata.signature then result else lib.set result "signature" metadata.signature

def toJson (metadata : MessageMetadata J) : J :=
  let result := metadata.signed lib
  if lib.isEmpty metadata.extra then result else merge result metadata.extra

end MessageMetadata

namespace UnifiedMessage

def constructed (type : MessageType) (found : Construction) : UnifiedMessage J where
  messageType := type
  messageId := found.uuid
  correlationId := []
  timestamp := found.currentTimestamp
  source := ⟨found.sourceEntity, []⟩
  target := ⟨found.targetEntity, []⟩
  payload := lib.null
  metadata := .initial lib

def toJson (m : UnifiedMessage J) : J :=
  let result := lib.object [
    ("message_type", lib.string (messageTypeToString m.messageType)),
    ("message_id", lib.string m.messageId),
    ("timestamp", lib.string m.timestamp),
    ("source", m.source.toJson lib),
    ("payload", m.payload)]
  let result := if m.correlationId ≠ [] then
    lib.set result "correlation_id" (lib.string m.correlationId) else result
  let result := if m.target.identifier ≠ [] then lib.set result "target" (m.target.toJson lib) else result
  if m.metadata.protocolVersion ≠ [] then lib.set result "metadata" (m.metadata.toJson lib merge) else result

/-- A member that is read as a string. -/
def stringAt (j : J) (key : String) : Option Text := (lib.find j key).bind lib.asString

/-- No message when a member is missing that is read, or has another type. -/
def fromJson (found : Construction) (j : J) : Option (UnifiedMessage J) := do
  let type ← stringAt lib j "message_type"
  let msg : UnifiedMessage J := constructed lib (stringToMessageType type) found
  let messageId ← stringAt lib j "message_id"
  let timestamp ← stringAt lib j "timestamp"
  let correlationId ← match lib.find j "correlation_id" with
    | some value => lib.asString value
    | none => some msg.correlationId
  let source ← match lib.find j "source" with
    | some value => (stringAt lib value "identifier").map (MessageEntity.mk .vmg)
    | none => some msg.source
  let target ← match lib.find j "target" with
    | some value => (stringAt lib value "identifier").map (MessageEntity.mk .server)
    | none => some msg.target
  let payload ← lib.find j "payload"
  some { msg with messageId, timestamp, correlationId, source, target, payload }

end UnifiedMessage

/-- `MessageBuilder::createHeartbeat`. -/
def createHeartbeat (found : Construction) (deviceId : Text) : UnifiedMessage J :=
  { UnifiedMessage.constructed lib .heartbeat found with
    source := ⟨.ecu, deviceId⟩
    payload := lib.object [("status", lib.string (bytesOf "alive"))] }

/-! ## The members of a message -/

/-- A member that is there on a condition. -/
def optional (p : Prop) [Decidable p] (key : String) (value : J) : List (String × J) :=
  if p then [(key, value)] else []

theorem lookup_optional {p : Prop} [Decidable p] {key key' : String} {value : J} :
    (optional p key' value).lookup key = if p ∧ key = key' then some value else none := by
  by_cases hp : p
  · by_cases hkey : key = key'
    · simp [optional, hp, hkey]
    · simp [optional, hp, hkey, List.lookup_cons, beq_eq_false_iff_ne.mpr hkey]
  · simp [optional, hp]

theorem MessageEntity.identifier_toJson (e : MessageEntity) :
    UnifiedMessage.stringAt lib (e.toJson lib) "identifier" = some e.identifier := by
  simp [UnifiedMessage.stringAt, MessageEntity.toJson, lib.find_object, List.lookup_cons, lib.asString_string]

namespace UnifiedMessage

def members (m : UnifiedMessage J) : List (String × J) :=
  optional (m.metadata.protocolVersion ≠ []) "metadata" (m.metadata.toJson lib merge) ++
  (optional (m.target.identifier ≠ []) "target" (m.target.toJson lib) ++
  (optional (m.correlationId ≠ []) "correlation_id" (lib.string m.correlationId) ++
  [("message_type", lib.string (messageTypeToString m.messageType)),
    ("message_id", lib.string m.messageId),
    ("timestamp", lib.string m.timestamp),
    ("source", m.source.toJson lib),
    ("payload", m.payload)]))

theorem toJson_eq_object (m : UnifiedMessage J) : m.toJson lib merge = lib.object (m.members lib merge) := by
  simp only [toJson, members, optional]
  split <;> split <;> split <;> simp only [lib.set_object, List.cons_append, List.nil_append]

theorem find_toJson (m : UnifiedMessage J) (key : String) :
    lib.find (m.toJson lib merge) key = (m.members lib merge).lookup key := by
  rw [toJson_eq_object, lib.find_object]

/-- What `fromJson` makes of a message. -/
def readBack (found : Construction) (m : UnifiedMessage J) : UnifiedMessage J :=
  { m with
    source := ⟨.vmg, m.source.identifier⟩
    target := if m.target.identifier ≠ [] then ⟨.server, m.target.identifier⟩ else ⟨found.targetEntity, []⟩
    metadata := .initial lib }

theorem fromJson_toJson (found : Construction) (m : UnifiedMessage J) :
    fromJson lib found (m.toJson lib merge) = some (m.readBack lib found) := by
  have hstring (key : String) : stringAt lib (m.toJson lib merge) key =
      ((m.members lib merge).lookup key).bind lib.asString := by rw [stringAt, find_toJson]
  simp only [fromJson, hstring, find_toJson]
  simp only [members, List.lookup_append, List.lookup_cons, lookup_optional]
  by_cases hcorrelation : m.correlationId = [] <;> by_cases htarget : m.target.identifier = [] <;>
    simp [hcorrelation, htarget, readBack, constructed, lib.asString_string, MessageEntity.identifier_toJson,
      stringToMessageType_messageTypeToString]

end UnifiedMessage

/-! ## The round trip -/

namespace MessageMetadata

theorem signed_eq_object (metadata : MessageMetadata J) : metadata.signed lib =
    lib.object (optional (¬ lib.isEmpty metadata.signature) "signature" metadata.signature ++ [
      ("protocol_version", lib.string metadata.protocolVersion),
      ("encryption", lib.string metadata.encryption)]) := by
  by_cases hempty : lib.isEmpty metadata.signature <;> simp [signed, optional, hempty, lib.set_object]

theorem initialVersion_ne_nil : bytesOf "1.0" ≠ [] := by decide +kernel

theorem toJson_initial : (initial lib).toJson lib merge = (initial lib).signed lib := by
  rw [toJson, initial, if_pos lib.isEmpty_null]

theorem signed_eq_initial_iff {metadata : MessageMetadata J} :
    metadata.signed lib = (initial lib).signed lib ↔ metadata.protocolVersion = bytesOf "1.0" ∧
      metadata.encryption = bytesOf "ML-KEM-768" ∧ lib.isEmpty metadata.signature := by
  rw [signed_eq_object, signed_eq_object, lib.object_eq_iff]
  simp only [List.lookup_append, List.lookup_cons, lookup_optional, initial, lib.isEmpty_null]
  constructor
  · intro hmembers
    have hversion := hmembers "protocol_version"
    have hencryption := hmembers "encryption"
    have hsignature := hmembers "signature"
    simp [lib.string_inj] at hversion hencryption hsignature
    exact ⟨hversion, hencryption, hsignature⟩
  · rintro ⟨hversion, hencryption, hsignature⟩ key
    rw [hversion, hencryption, hsignature]
    simp

/-- The metadata has the JSON of the metadata of a new message. -/
def LooksInitial (metadata : MessageMetadata J) : Prop :=
  if lib.isEmpty metadata.extra then
    metadata.protocolVersion = bytesOf "1.0" ∧ metadata.encryption = bytesOf "ML-KEM-768" ∧
      lib.isEmpty metadata.signature
  else merge (metadata.signed lib) metadata.extra = (initial lib).signed lib

theorem toJson_eq_initial_iff {metadata : MessageMetadata J} :
    metadata.toJson lib merge = (initial lib).toJson lib merge ↔ metadata.LooksInitial lib merge := by
  rw [toJson_initial, toJson, LooksInitial]
  split
  · exact signed_eq_initial_iff lib
  · rfl

end MessageMetadata

namespace UnifiedMessage

/-- The message comes back in all that its text carries, and its text once more. -/
def RoundTrips (found : Construction) (m : UnifiedMessage J) : Prop :=
  ∃ m', fromJson lib found (m.toJson lib merge) = some m' ∧
    m'.messageType = m.messageType ∧ m'.messageId = m.messageId ∧ m'.timestamp = m.timestamp ∧
    m'.correlationId = m.correlationId ∧ m'.source = m.source ∧ m'.target = m.target ∧
    m'.payload = m.payload ∧ m'.toJson lib merge = m.toJson lib merge

/-- What `fromJson` supposes of the message. -/
structure Supposed (found : Construction) (m : UnifiedMessage J) : Prop where
  source : m.source.entity = .vmg
  target : m.target.entity = if m.target.identifier ≠ [] then .server else found.targetEntity
  protocolVersion : m.metadata.protocolVersion ≠ []
  metadata : m.metadata.LooksInitial lib merge

theorem source_readBack_iff {found : Construction} {m : UnifiedMessage J} :
    (m.readBack lib found).source = m.source ↔ m.source.entity = .vmg := by
  constructor
  · intro hsource
    exact (congrArg MessageEntity.entity hsource).symm
  · intro hentity
    rw [readBack, ← hentity]

theorem target_readBack_iff {found : Construction} {m : UnifiedMessage J} :
    (m.readBack lib found).target = m.target ↔
      m.target.entity = if m.target.identifier ≠ [] then .server else found.targetEntity := by
  simp only [readBack]
  generalize m.target = target
  obtain ⟨entity, identifier⟩ := target
  by_cases hidentifier : identifier = []
  · simp [hidentifier, eq_comm]
  · simp [hidentifier, eq_comm]

theorem toJson_readBack_iff {found : Construction} {m : UnifiedMessage J}
    (hsource : (m.readBack lib found).source = m.source)
    (htarget : (m.readBack lib found).target = m.target) :
    (m.readBack lib found).toJson lib merge = m.toJson lib merge ↔
      m.metadata.protocolVersion ≠ [] ∧ m.metadata.LooksInitial lib merge := by
  have hinitial : (MessageMetadata.initial lib).protocolVersion ≠ [] := MessageMetadata.initialVersion_ne_nil
  rw [← MessageMetadata.toJson_eq_initial_iff lib merge]
  constructor
  · intro hjson
    have hmetadata := congrArg (lib.find · "metadata") hjson
    simp only [find_toJson, members, List.lookup_append, List.lookup_cons, lookup_optional] at hmetadata
    by_cases hversion : m.metadata.protocolVersion = []
    · simp [readBack, hversion, hinitial] at hmetadata
    · refine ⟨hversion, ?_⟩
      simp [readBack, hversion, hinitial] at hmetadata
      exact hmetadata.symm
  · rintro ⟨hversion, hmetadata⟩
    have hjson : m.metadata.toJson lib merge = (m.readBack lib found).metadata.toJson lib merge := hmetadata
    have hnew : (m.readBack lib found).metadata.protocolVersion ≠ [] := hinitial
    simp only [toJson, hsource, htarget, hjson, if_pos hversion, if_pos hnew]
    rfl

theorem supposed_iff {found : Construction} {m : UnifiedMessage J} : m.Supposed lib merge found ↔
    (m.readBack lib found).source = m.source ∧ (m.readBack lib found).target = m.target ∧
      m.metadata.protocolVersion ≠ [] ∧ m.metadata.LooksInitial lib merge := by
  rw [source_readBack_iff, target_readBack_iff]
  constructor
  · rintro ⟨hsource, htarget, hversion, hmetadata⟩
    exact ⟨hsource, htarget, hversion, hmetadata⟩
  · rintro ⟨hsource, htarget, hversion, hmetadata⟩
    exact ⟨hsource, htarget, hversion, hmetadata⟩

/-- **The round trip.** A message comes back from its JSON if it goes from the gateway to the server, with
the metadata of a new message; one without a target must have the entity that the new message has. -/
theorem unifiedMessage_roundTrips_iff (found : Construction) (m : UnifiedMessage J) :
    m.RoundTrips lib merge found ↔ m.Supposed lib merge found := by
  rw [supposed_iff]
  constructor
  · rintro ⟨m', hread, -, -, -, -, hsource, htarget, -, hjson⟩
    rw [fromJson_toJson] at hread
    obtain rfl := Option.some.inj hread
    exact ⟨hsource, htarget, (toJson_readBack_iff lib merge hsource htarget).mp hjson⟩
  · rintro ⟨hsource, htarget, hmetadata⟩
    exact ⟨m.readBack lib found, fromJson_toJson lib merge found m, rfl, rfl, rfl, rfl, hsource, htarget, rfl,
      (toJson_readBack_iff lib merge hsource htarget).mpr hmetadata⟩

end UnifiedMessage

end

/-- A heartbeat of an ECU, which comes back as one of the gateway. No `extra` is merged into it. -/
theorem heartbeat_source_lost : ¬ UnifiedMessage.RoundTrips (Json.library Text) (fun _ extra => extra)
    ⟨[], [], .ecu, .vmg⟩ (createHeartbeat (Json.library Text) ⟨[], [], .ecu, .vmg⟩ (bytesOf "ECU_001")) := by
  rintro ⟨m', hread, -, -, -, -, hsource, -⟩
  rw [UnifiedMessage.fromJson_toJson] at hread
  obtain rfl := Option.some.inj hread
  exact absurd (congrArg MessageEntity.entity hsource) (by decide)

end Mcus.Vmg
