import Freshell.Activity.ClaudeTurns
import Freshell.Activity.CodexTurns
import Freshell.AgentHost.Calls
import Freshell.AgentHost.JournalLosses
import Freshell.AgentHost.Profiles
import Freshell.Client.AttachSequence
import Freshell.Client.ProbeReplay
import Freshell.Client.RebindPacing
import Freshell.Client.HydrationQueue
import Freshell.Connection.DrainAdmission
import Freshell.Connection.Waits
import Freshell.Connection.WriterPrelude
import Freshell.Creates.SingleFlight
import Freshell.Ownership.Aliases
import Freshell.Ownership.ClientFences
import Freshell.Ownership.Evidence
import Freshell.Ownership.Exclusion
import Freshell.Ownership.StickyFences
import Freshell.Paced.Credits
import Freshell.Paced.SequencedExit
import Freshell.Registry.IdleReaper
import Freshell.Registry.LeaseExclusion
import Freshell.Registry.Release
import Freshell.SessionHost.HostedInput
import Freshell.SessionHost.CrashConsistency
import Freshell.Supervisor.Budgets
import Freshell.Supervisor.Projector
import Freshell.Supervisor.StopFinal
import Freshell.Terminal.PageBudget
import Freshell.Terminal.Mirror
import Freshell.PaneLedger.OwnerPairs
import Freshell.PaneLedger.FenceStrength
import Freshell.PaneLedger.Claims
import Freshell.PaneLedger.Attribution
import Freshell.PaneLedger.DetachCloses
import Freshell.PaneLedger.Supersession
import Freshell.Panes.LayoutRuns
import Freshell.SessionHost.StopFinality
import Freshell.Ownership.Exits
import Freshell.Connection.DeliveryOrder
import Freshell.Reconcile.Safety
import Freshell.AutoResume.Bounds
import Freshell.Terminal.ReplayLoss
import Freshell.Terminal.Fragment
import Freshell.Terminal.ModeTracker
import Freshell.Terminal.BarrierScanner
import Freshell.Registry.StuckDetection
import Freshell.Activity.OpencodeBells
import Freshell.Activity.Idle
import Freshell.Activity.SignalScans
import Freshell.Activity.TailerLines
