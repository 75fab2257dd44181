import RobotControlRuntime.FaultRecovery
import RobotControlRuntime.ClearFaultRace
import RobotControlRuntime.OutputFreshness
import RobotControlRuntime.IdleSupervision
import RobotControlRuntime.AckAttribution
import RobotControlRuntime.SequenceAgreement
import RobotControlRuntime.InFlightSupervision
import RobotControlRuntime.WorkerSurvival
import RobotControlRuntime.CanRoundTrip
import RobotControlRuntime.WireConversion
import RobotControlRuntime.SequenceWrap
import RobotControlRuntime.NodeLease
import RobotControlRuntime.FirmwareLockstep
import RobotControlRuntime.SupervisionLaw
import RobotControlRuntime.EventDelivery
import RobotControlRuntime.RestartDetection
import RobotControlRuntime.RequestStream
import RobotControlRuntime.CellAppServer
import RobotControlRuntime.CellAppClient
import RobotControlRuntime.ModbusAgentClient
import RobotControlRuntime.CellAppRuns
import RobotControlRuntime.OutputEvidence
import RobotControlRuntime.ModbusAgentSession
import RobotControlRuntime.CellAppPoll
import RobotControlRuntime.RemoteControl
import RobotControlRuntime.ModbusTcpServer
import RobotControlRuntime.ModbusTcpRecovery
import RobotControlRuntime.SessionJournal
import RobotControlRuntime.FirmwareLoop
import RobotControlRuntime.AckCapacity
import RobotControlRuntime.StatusReaders
import RobotControlRuntime.SchedulerLoop
import RobotControlRuntime.JogLease
import RobotControlRuntime.TestEvidence
import RobotControlRuntime.RunCancellation
import RobotControlRuntime.HeartbeatDelta
import RobotControlRuntime.WorkbenchController
import RobotControlRuntime.ResultFiles
import RobotControlRuntime.TraceBuffer
import RobotControlRuntime.FirmwareRings
import RobotControlRuntime.CommandLine
import RobotControlRuntime.OutputChain
import RobotControlRuntime.FirmwareDrive
import RobotControlRuntime.FirmwareCadence
import RobotControlRuntime.ServoChain
import RobotControlRuntime.IoThreadStop
import RobotControlRuntime.RemoteClient
import RobotControlRuntime.DaemonResources
