import IfaceTester.Foundations.Runs
import IfaceTester.Foundations.LongRuns
import IfaceTester.Foundations.Histories
import IfaceTester.Foundations.Decoding
import IfaceTester.Foundations.VersionedList
import IfaceTester.Foundations.Views
import IfaceTester.Foundations.Announcements
import IfaceTester.Foundations.Paths
import IfaceTester.Foundations.ChildTable
import IfaceTester.Foundations.Service
import IfaceTester.Blobmsg
import IfaceTester.Config
import IfaceTester.EventQueue
import IfaceTester.QueueMachine
import IfaceTester.QueueDrain
import IfaceTester.QueueCapacity
import IfaceTester.State
import IfaceTester.Tester
import IfaceTester.Connection
import IfaceTester.Callbacks
import IfaceTester.ConfigLoad
import IfaceTester.Dump
import IfaceTester.Equations
import IfaceTester.Moves
import IfaceTester.RunEnd
import IfaceTester.Coherence
import IfaceTester.Observations
import IfaceTester.Wedge
import IfaceTester.Activity
import IfaceTester.Agreement
import IfaceTester.TestRun
import IfaceTester.Verdict
import IfaceTester.Thresholds
import IfaceTester.Refinement
import IfaceTester.Escalation
import IfaceTester.Recovery
import IfaceTester.Overrun
import IfaceTester.Phases
import IfaceTester.Overlap
import IfaceTester.StateDump
import IfaceTester.Indices
import IfaceTester.TimerRange
import IfaceTester.Statistics
import IfaceTester.LastResult
import IfaceTester.FailureStreaks
import IfaceTester.SleepInterval
import IfaceTester.Program
import IfaceTester.Reconfiguration
import IfaceTester.ProgramMoves
import IfaceTester.Loads
import IfaceTester.Reloads
import IfaceTester.RefusedLoads
import IfaceTester.Effects
import IfaceTester.ProgramEffects
import IfaceTester.Isolation
import IfaceTester.LoadOrder
import IfaceTester.AllStates
import IfaceTester.Messages
import IfaceTester.Daemon
import IfaceTester.DaemonRuns
import IfaceTester.DaemonMoves
import IfaceTester.Publication
import IfaceTester.Reports
import IfaceTester.Configurator
import IfaceTester.Bus
import IfaceTester.System
import IfaceTester.Progress
import IfaceTester.Foundations.Descriptors
import IfaceTester.Children
import IfaceTester.LinkEvents
import IfaceTester.UnchangedLoads
import IfaceTester.Arrival
import IfaceTester.MemorySafety
import IfaceTester.Buffers
import IfaceTester.Lifetimes
import IfaceTester.Metrics
import IfaceTester.Grammar
import IfaceTester.EntryOutcome
