import EziotSdk.StepSystem
import EziotSdk.KernelDefs
import EziotSdk.CStrings
import EziotSdk.BscJson
import EziotSdk.BscJsonParse
import EziotSdk.BscJsonStrings
import EziotSdk.TslSchema
import EziotSdk.TslDocument
import EziotSdk.TslValueCheck
import EziotSdk.SlotTable
import EziotSdk.ScanLoops
import EziotSdk.RiskPolicy
import EziotSdk.RiskPolicyRuns
import EziotSdk.ExtendTables
import EziotSdk.ExtendDispatch
import EziotSdk.RiskControl
import EziotSdk.KernelQueue
import EziotSdk.LinkedChain
import EziotSdk.QueueMacros
import EziotSdk.SendQueue
import EziotSdk.SendQueueAccounting
import EziotSdk.SendQueueRuns
import EziotSdk.TslLeafChecks
import EziotSdk.TslContainerChecks
import EziotSdk.ProfileParse
import EziotSdk.SchemaFaithful
import EziotSdk.ProfileFaithful
import EziotSdk.TslLegality
import EziotSdk.TslLookups
import EziotSdk.AseSupport
import EziotSdk.AesPadding
import EziotSdk.BufferTraces
import EziotSdk.ErrorState
import EziotSdk.ErrorExits
import EziotSdk.TracedState
import EziotSdk.JsonParser
import EziotSdk.ServerInfo
import EziotSdk.LbsProtocol
import EziotSdk.LbsHeaders
import EziotSdk.LbsTransport
import EziotSdk.LbsExits
import EziotSdk.LbsResponses
import EziotSdk.LbsHandshake
import EziotSdk.LbsCredentials
import EziotSdk.AccessMachine
import EziotSdk.AccessRuns
import EziotSdk.AccessRedirect
import EziotSdk.AccessOffline
import EziotSdk.AccessCounters
import EziotSdk.EventDelivery
import EziotSdk.EventDeliveryRuns
import EziotSdk.Lifecycle
import EziotSdk.BscJsonPrint
import EziotSdk.BscJsonText
import EziotSdk.BscJsonRoundTrip
import EziotSdk.Scanf
import EziotSdk.DasTransport
import EziotSdk.DasFrames
import EziotSdk.DasCodec
import EziotSdk.MqttPackets
import EziotSdk.MqttBuffers
import EziotSdk.DasTopics
import EziotSdk.TslStore
import EziotSdk.FirstMatch
import EziotSdk.TslAdapter
import EziotSdk.TslCapacities
import EziotSdk.TslVersions
import EziotSdk.TslDownload
import EziotSdk.HubStore
import EziotSdk.HubAuth
import EziotSdk.HubRuns
import EziotSdk.HubEnumeration
import EziotSdk.HubOperations
import EziotSdk.HubAtomic
import EziotSdk.HubTsl
import EziotSdk.OtaDownload
import EziotSdk.OtaJobs
import EziotSdk.OtaJobRuns
import EziotSdk.NodeLists
import EziotSdk.ShadowTree
import EziotSdk.ShadowKeys
import EziotSdk.ShadowEvents
import EziotSdk.ShadowRuns
import EziotSdk.ShadowReports
import EziotSdk.ShadowNames
import EziotSdk.NodePlaces
import EziotSdk.ShadowSearch
import EziotSdk.ShadowAddress
import EziotSdk.TslReports
import EziotSdk.ValueTyping
import EziotSdk.OtaUpgrade
import EziotSdk.ShadowPayloads
import EziotSdk.ShadowSync
import EziotSdk.NodeWalks
import EziotSdk.ShadowPass
import EziotSdk.ShadowPushes
import EziotSdk.DasLengths
import EziotSdk.LbsAccesses
import EziotSdk.BaseCommands
import EziotSdk.LbsBounds
import EziotSdk.LbsDestinations
import EziotSdk.HeapTraces
import EziotSdk.ProfileMemory
import EziotSdk.ProfileRelease
import EziotSdk.WifiProvisioning
import EziotSdk.BodyReceipt
import EziotSdk.SoftwareTimers
import EziotSdk.TimerPeriods
import EziotSdk.TimerService
import EziotSdk.ConnSchedule
import EziotSdk.ConnRules
import EziotSdk.ConnRuleLists
import EziotSdk.KeyedAdds
import EziotSdk.ConnRuns
import EziotSdk.NodeChains
import EziotSdk.ConnReport
import EziotSdk.MqttReading
import EziotSdk.MqttRoundTrips
import EziotSdk.MqttStream
import EziotSdk.MqttTopics
import EziotSdk.MqttClient
import EziotSdk.MqttClientRuns
import EziotSdk.MqttClientFaults
