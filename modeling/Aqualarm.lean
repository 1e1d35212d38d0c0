import Aqualarm.AlarmRuns
import Aqualarm.RfEncode
import Aqualarm.OtaCompletion
import Aqualarm.Lib.SharedBuffer
import Aqualarm.GatewayAuthority
import Aqualarm.PowerLoss
import Aqualarm.FrameTails
import Aqualarm.Records
import Aqualarm.RecordRuns
import Aqualarm.Harmless
import Aqualarm.ValveChecks
import Aqualarm.ValveRuns
import Aqualarm.FailedCreate
import Aqualarm.TxQueue
import Aqualarm.FrameRoundTrip
import Aqualarm.ForeignFrames
import Aqualarm.BulkRemoval
import Aqualarm.GatewayCopy
import Aqualarm.ModbusWrites
import Aqualarm.CloseCommands
import Aqualarm.SyncUpload
import Aqualarm.HeartCheck
import Aqualarm.ReportedEnrolment
import Aqualarm.FreshFlash
import Aqualarm.SilentOffline
import Aqualarm.OfflineReturns
import Aqualarm.StoredIntegers
import Aqualarm.MotorView
import Aqualarm.FrameErrors
import Aqualarm.FactoryReset
import Aqualarm.Rounds
import Aqualarm.Led
import Aqualarm.RfAttempts
import Aqualarm.MbProgress
