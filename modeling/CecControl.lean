import CecControl.Bus.DBusMonitor
import CecControl.Bus.Deadlines
import CecControl.Bus.Grip
import CecControl.Bus.InhibitLock
import CecControl.Bus.Recovery
import CecControl.Cec.Adapter
import CecControl.Cec.Backoff
import CecControl.Cec.ConnectionFlag
import CecControl.Cec.FailureCount
import CecControl.Cec.KeyRelease
import CecControl.Cec.LibCecAdapter
import CecControl.Cec.Observations
import CecControl.Cec.Operations
import CecControl.Cec.Reopening
import CecControl.Cec.SlotSpacing
import CecControl.Cec.ThrottledRuns
import CecControl.Client.Conversation
import CecControl.Client.Served
import CecControl.Client.SocketClient
import CecControl.Common.ArgumentParser
import CecControl.Common.CommandLine
import CecControl.Common.CommandRegistry
import CecControl.Common.ConfigLayout
import CecControl.Common.ConfigManager
import CecControl.Common.EventLoop
import CecControl.Common.MainThreadWork
import CecControl.Common.Messages
import CecControl.Common.Text
import CecControl.Common.Timers
import CecControl.Daemon.AdapterClosed
import CecControl.Daemon.AdapterWorker
import CecControl.Daemon.AddressLists
import CecControl.Daemon.Answers
import CecControl.Daemon.AppConfig
import CecControl.Daemon.Asleep
import CecControl.Daemon.AttemptResults
import CecControl.Daemon.Attempts
import CecControl.Daemon.Batches
import CecControl.Daemon.ClientAgreement
import CecControl.Daemon.CommandDispatch
import CecControl.Daemon.CommandOrder
import CecControl.Daemon.Completion
import CecControl.Daemon.ConnectionLoss
import CecControl.Daemon.Coupling
import CecControl.Daemon.Errands
import CecControl.Daemon.Escapes
import CecControl.Daemon.HealthyConnections
import CecControl.Daemon.JobPrograms
import CecControl.Daemon.LastRequest
import CecControl.Daemon.Lifetimes
import CecControl.Daemon.LogicalAddresses
import CecControl.Daemon.ReconnectEffects
import CecControl.Daemon.RefusedAttempts
import CecControl.Daemon.RejectedPayloads
import CecControl.Daemon.Replies
import CecControl.Daemon.Rest
import CecControl.Daemon.Rounds
import CecControl.Daemon.Shelter
import CecControl.Daemon.SleepInhibition
import CecControl.Daemon.StandbyPolicy
import CecControl.Daemon.State
import CecControl.Daemon.StepLog
import CecControl.Daemon.StepRule
import CecControl.Daemon.Supervisor
import CecControl.Daemon.SupervisorRefinement
import CecControl.Daemon.System
import CecControl.Daemon.TableValidation
import CecControl.Daemon.Teardown
import CecControl.Daemon.Wakeups
import CecControl.Daemon.WorkingOff
import CecControl.Hook.CecHookSubsystem
import CecControl.Hook.Children
import CecControl.Hook.Environment
import CecControl.Hook.HookExecutor
import CecControl.Lib.Machine
import CecControl.Lib.Program
import CecControl.Lib.Progress
import CecControl.Lib.Registry
import CecControl.Lib.Rely
import CecControl.Lib.Sequencer
import CecControl.Lib.Shared
import CecControl.Lib.Tally
import CecControl.Lib.Worker
import CecControl.Power.AdapterReconnect
import CecControl.Power.LockDischarge
import CecControl.Power.PowerLifecycle
import CecControl.Power.PowerSupervisor
import CecControl.Power.ReconnectCycle
import CecControl.Power.SupervisorReturns
import CecControl.Server.Pairing
import CecControl.Server.Requests
import CecControl.Server.Service
import CecControl.Server.SessionTable
import CecControl.Server.SocketFile
import CecControl.Server.SocketServer
import CecControl.Server.StaleEvents
