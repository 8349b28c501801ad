import Ratash.Crash
import Ratash.Transaction.Restage
import Ratash.Service.SingleCore
import Ratash.Service.RestartLimit
import Ratash.Service.Cancellation
import Ratash.Service.StopFinal
import Ratash.Service.NeverReused
import Ratash.Service.LogPolls
import Ratash.Observer.ServiceLogs
import Ratash.Rule.Enclosed
import Ratash.Rule.Edits
import Ratash.Supervisor.ActivationEnds
import Ratash.Telemetry.LogBuffer
import Ratash.Frontend.SilentLoss
import Ratash.Server.Retained
import Ratash.Scheduler.ProbeRuns
import Ratash.Supervisor.Scheduled
import Ratash.Supervisor.Probed
import Ratash.Production.Notified
import Ratash.Profile.Names
import Ratash.Digest
import Ratash.Frontend.Quit
import Ratash.Frontend.SnapshotFreshness
import Ratash.Process.LogQueue
import Ratash.Ipc.Frame
