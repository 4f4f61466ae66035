import Mcus.Boot.BootLoop
import Mcus.Boot.ConfigIntegrity
import Mcus.Boot.CorruptedSelectors
import Mcus.Boot.FallbackBank
import Mcus.Boot.HealthyBank
import Mcus.Boot.ImageBounds
import Mcus.Boot.OtaActivation
import Mcus.Boot.SecureBoot
import Mcus.Boot.UpdateInstalls
import Mcus.Boot.UpdateSafety
import Mcus.Boot.ZonalRecovery
import Mcus.Doip.ActivationAnswer
import Mcus.Doip.ClientMatching
import Mcus.Doip.ClientResources
import Mcus.Doip.ConnectionTable
import Mcus.Doip.EchoSession
import Mcus.Doip.Encoders
import Mcus.Doip.MessageBounds
import Mcus.Doip.MessageCodec
import Mcus.Doip.RoutingGate
import Mcus.Doip.ServerCodec
import Mcus.Doip.ServerFraming
import Mcus.Doip.ServerStream
import Mcus.Doip.TlsEcho
import Mcus.Doip.TlsSegments
import Mcus.Doip.VehicleId
import Mcus.Nodes.Backoff
import Mcus.Nodes.ConnectionState
import Mcus.Nodes.EcuRun
import Mcus.Nodes.Retry
import Mcus.Nodes.RouterBroadcast
import Mcus.Nodes.ZoneKeys
import Mcus.Ota.Completeness
import Mcus.Ota.Images
import Mcus.Ota.NoBrick
import Mcus.Ota.Progress
import Mcus.Ota.Rollback
import Mcus.Simulator.Agreement
import Mcus.Simulator.DeviceChecksum
import Mcus.Simulator.DeviceSimulator
import Mcus.Simulator.IdentityStrings
import Mcus.Simulator.IpAddress
import Mcus.Simulator.SavedConfig
import Mcus.Simulator.SeedUse
import Mcus.Simulator.WirePositions
import Mcus.Uds.DownloadFormat
import Mcus.Uds.DownloadWindow
import Mcus.Uds.HonestTester
import Mcus.Uds.KeyAttempts
import Mcus.Uds.Refusals
import Mcus.Uds.Responses
import Mcus.Uds.SeedFreshness
import Mcus.Uds.TemplateLockout
import Mcus.Uds.TesterLoop
import Mcus.Uds.TransferLedger
import Mcus.Uds.WriteAuthority
import Mcus.Vmg.BruteForce
import Mcus.Vmg.HttpsClient
import Mcus.Vmg.MqttIdentifiers
import Mcus.Vmg.MqttSession
import Mcus.Vmg.RemoteAnswers
import Mcus.Vmg.RemoteCounters
import Mcus.Vmg.RemoteParsing
import Mcus.Vmg.RemoteRetries
import Mcus.Vmg.ResponseParsers
import Mcus.Vmg.SessionIsolation
import Mcus.Vmg.UnifiedMessage
import Mcus.Vmg.WriteAuthorisation
