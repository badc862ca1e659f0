import DessMonitor.AgentAlarm
import DessMonitor.AgentCurrents
import DessMonitor.AgentSnapshot
import DessMonitor.AgentTelemetry
import DessMonitor.BurstDetection
import DessMonitor.CommandQueueModel
import DessMonitor.CommandQueueOwnership
import DessMonitor.CommandQueuePairing
import DessMonitor.CommandQueueRelease
import DessMonitor.CommandQueueSerial
import DessMonitor.CommandQueueSteps
import DessMonitor.CommandQueueStop
import DessMonitor.ConfigFlowRoundTrip
import DessMonitor.ConfigFlowSteps
import DessMonitor.ConfigFlowUri
import DessMonitor.Crc
import DessMonitor.CrcRegister
import DessMonitor.DeviceAdapter
import DessMonitor.DeviceAddress
import DessMonitor.DeviceStatus
import DessMonitor.DeviceUri
import DessMonitor.DiagHub
import DessMonitor.DirectCoordinatorLostUpdate
import DessMonitor.DirectCoordinatorModel
import DessMonitor.DirectCoordinatorPolling
import DessMonitor.DirectCoordinatorPublished
import DessMonitor.DirectCoordinatorRoster
import DessMonitor.DirectCoordinatorStaleness
import DessMonitor.DirectCoordinatorSteps
import DessMonitor.EnergyBound
import DessMonitor.EnergyGap
import DessMonitor.EnergyIntegral
import DessMonitor.EnergySensorModel
import DessMonitor.Enums
import DessMonitor.EybondAnnounceLoop
import DessMonitor.EybondAnnouncer
import DessMonitor.EybondBindBackoff
import DessMonitor.EybondChildUri
import DessMonitor.EybondChildren
import DessMonitor.EybondCorrelation
import DessMonitor.EybondDiscoveryNotices
import DessMonitor.EybondFraming
import DessMonitor.EybondHubDevices
import DessMonitor.EybondHubLifecycle
import DessMonitor.EybondHubMigration
import DessMonitor.EybondHubModel
import DessMonitor.EybondHubRecovery
import DessMonitor.EybondHubSetup
import DessMonitor.EybondHubSteps
import DessMonitor.EybondListenerMap
import DessMonitor.EybondLiveRegistry
import DessMonitor.EybondManagerModel
import DessMonitor.EybondManagerSteps
import DessMonitor.EybondPending
import DessMonitor.EybondRegistry
import DessMonitor.EybondRequestDrift
import DessMonitor.EybondSessionMaps
import DessMonitor.EybondTargetStability
import DessMonitor.EybondUri
import DessMonitor.EybondUriFields
import DessMonitor.Foundation.BoundedLog
import DessMonitor.Foundation.DecimalRounding
import DessMonitor.Foundation.Delimited
import DessMonitor.Foundation.FixedDecimals
import DessMonitor.Foundation.InsertionDict
import DessMonitor.Foundation.IntText
import DessMonitor.Foundation.LabelledRun
import DessMonitor.Foundation.ListUpdate
import DessMonitor.Foundation.MessageStream
import DessMonitor.Foundation.NamedWords
import DessMonitor.Foundation.NearestBinary
import DessMonitor.Foundation.PyBytes
import DessMonitor.Foundation.PyFormat
import DessMonitor.Foundation.PyString
import DessMonitor.Foundation.PythonValue
import DessMonitor.Foundation.ShiftRegister
import DessMonitor.Foundation.Spacing
import DessMonitor.Foundation.StoreGrowth
import DessMonitor.Foundation.Trapezoid
import DessMonitor.Foundation.Url
import DessMonitor.Foundation.UrlAuthority
import DessMonitor.Foundation.UrlQuery
import DessMonitor.Foundation.WrappingIds
import DessMonitor.FrameLog
import DessMonitor.ModbusAdapterModel
import DessMonitor.ModbusLine
import DessMonitor.ModbusReadRate
import DessMonitor.ModbusReadYourWrites
import DessMonitor.ModbusRequest
import DessMonitor.ModbusRtu
import DessMonitor.ModbusRtuAgreement
import DessMonitor.ModbusWrite
import DessMonitor.Pi18Decoder
import DessMonitor.Pi18Frame
import DessMonitor.Pi18Response
import DessMonitor.Pi18SetFrames
import DessMonitor.ReadingPolicies
import DessMonitor.SelectLastChoice
import DessMonitor.SelectModel
import DessMonitor.SelectWrites
import DessMonitor.SetAck
import DessMonitor.SmgAlarms
import DessMonitor.SmgSnapshot
import DessMonitor.SocEstimatorInvariant
import DessMonitor.SocEstimatorModel
import DessMonitor.SocEstimatorRestart
import DessMonitor.SocForecast
import DessMonitor.SocLastSync
import DessMonitor.SocSensorModel
import DessMonitor.SocSensorRestart
import DessMonitor.SocTwoRuns
import DessMonitor.SocVoltageBranch
import DessMonitor.SocWindup
import DessMonitor.StoredDevices
import DessMonitor.TransportKey
import DessMonitor.VoltronicCollectors
import DessMonitor.VoltronicDecoder
import DessMonitor.VoltronicFrame
import DessMonitor.VoltronicReply
import DessMonitor.VoltronicSuffix
import DessMonitor.WarningSensors
import DessMonitor.WarningViews
