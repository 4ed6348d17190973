import TelemetryAgent.Lib.Run
import TelemetryAgent.AgentUtils
import TelemetryAgent.Consolidator.Device
import TelemetryAgent.Subscription.TimeLimit
import TelemetryAgent.Server.TearDown
import TelemetryAgent.Server.Steps
import TelemetryAgent.Server.InitResponse
import TelemetryAgent.Server.RecordLimit
import TelemetryAgent.Server.Delivery
import TelemetryAgent.Server.Sequential
import TelemetryAgent.Lib.JsonReader
import TelemetryAgent.Junos.AgentSystemProc
import TelemetryAgent.Junos.PlainJsoncpp
import TelemetryAgent.Junos.RoundTrip
import TelemetryAgent.Junos.Generated
import TelemetryAgent.Junos.EphemeralDb
import TelemetryAgent.Junos.DeviceTables
import TelemetryAgent.Junos.SharedSensors
import TelemetryAgent.Consolidator.Undo
import TelemetryAgent.Server.Validation
import TelemetryAgent.Server.WindDown
import TelemetryAgent.Server.Routing
import TelemetryAgent.Server.Listing
import TelemetryAgent.Lib.Headers
import TelemetryAgent.OpenConfig.Interfaces
import TelemetryAgent.OpenConfig.Suppression
import TelemetryAgent.Server.EarlyReturn
import TelemetryAgent.Client.AgentClientLag
import TelemetryAgent.PathValidator.Database
import TelemetryAgent.OpenConfig.CpuMemory
import TelemetryAgent.OpenConfig.Keyvalue
import TelemetryAgent.Udp.Datagrams
import TelemetryAgent.Udp.Wakeup
import TelemetryAgent.Subscription.Counting
import TelemetryAgent.Junos.ProcCounts
import TelemetryAgent.Junos.EphemeralGet
import TelemetryAgent.Client.AgentClientParser
import TelemetryAgent.Client.ParseLoop
import TelemetryAgent.Client.ActiveClients
import TelemetryAgent.Udp.Simulator
import TelemetryAgent.Client.AgentTelegrafLog
import TelemetryAgent.Lib.Pieces
import TelemetryAgent.SearchNReplaceString
import TelemetryAgent.Lib.JsonMembers
import TelemetryAgent.Junos.MergeJson
import TelemetryAgent.IdHistory
import TelemetryAgent.RateCounter
import TelemetryAgent.Lib.CText
import TelemetryAgent.Inih.Ini
import TelemetryAgent.Inih.Layout
import TelemetryAgent.Inih.INIReader
import TelemetryAgent.GlobalConfig.Parse
import TelemetryAgent.Junos.Provisioning
import TelemetryAgent.Startup.AgentRestart
import TelemetryAgent.Junos.JunosDevice
import TelemetryAgent.Junos.AgentSystemFile
import TelemetryAgent.OCTelemetry.OCTelemetryJson
import TelemetryAgent.Server.Quiescence
import TelemetryAgent.Client.Subscribe
import TelemetryAgent.Client.Session
import TelemetryAgent.Server.Collected
import TelemetryAgent.Lib.Getopt
import TelemetryAgent.Startup.AgentServerCmdOptions
import TelemetryAgent.Startup.PidFileUtils
