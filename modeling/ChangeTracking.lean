import ChangeTracking.Notification
import ChangeTracking.Tracking
import ChangeTracking.Text.Outline
import ChangeTracking.Text.Quoted
import ChangeTracking.Text.JsonSyntax
import ChangeTracking.Decimal.Notation
import ChangeTracking.Mail
import ChangeTracking.Counter.Basic
import ChangeTracking.Counter.Tracked
import ChangeTracking.Text.Sink
import ChangeTracking.Counter.Failure
import ChangeTracking.Counter.View
import ChangeTracking.Counter.RenderLoop
import ChangeTracking.Counter.Options
import ChangeTracking.Counter.Program
import ChangeTracking.Script.Value
import ChangeTracking.Script.Syntax
import ChangeTracking.Script.Reply
import ChangeTracking.Script.Scene
import ChangeTracking.Script.Perform
import ChangeTracking.Script.Run
import ChangeTracking.Main
import ChangeTracking.Proofs.Delivery
import ChangeTracking.Proofs.ShadowRefinement
import ChangeTracking.Proofs.Programs
import ChangeTracking.Proofs.RecordedReads
import ChangeTracking.Proofs.Roster
import ChangeTracking.Proofs.NotificationOrder
import ChangeTracking.Proofs.Provenance
import ChangeTracking.Proofs.PairedChanges
import ChangeTracking.Proofs.Withdrawals
import ChangeTracking.Proofs.Transparency
import ChangeTracking.Proofs.EventOrigins
import ChangeTracking.Proofs.PhaseOrder
import ChangeTracking.Proofs.Bystanders
import ChangeTracking.Proofs.NestedTracking
import ChangeTracking.Proofs.Rearming
import ChangeTracking.Proofs.HashOrder
import ChangeTracking.Proofs.OrderIndependence
import ChangeTracking.Proofs.Cascades
import ChangeTracking.Proofs.SessionTotals
import ChangeTracking.Proofs.SubscriptionBalance
import ChangeTracking.Proofs.RenderRuns
import ChangeTracking.Proofs.Bracketing
import ChangeTracking.Proofs.Teardown
import ChangeTracking.Proofs.Installing
import ChangeTracking.Proofs.TrackingCalls
import ChangeTracking.Proofs.RunTallies
import ChangeTracking.Proofs.SessionCancellation
import ChangeTracking.Proofs.TokenHistory
import ChangeTracking.Proofs.AccessUnions
import ChangeTracking.Proofs.RenderSessions
import ChangeTracking.Proofs.TallyBounds
import ChangeTracking.Proofs.GatedWrites
