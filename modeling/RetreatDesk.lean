import RetreatDesk.Main
import RetreatDesk.Web.Exchange
import RetreatDesk.Proofs.Pool.Reference
import RetreatDesk.Proofs.Pool.Stage
import RetreatDesk.Proofs.Pool.Equation
import RetreatDesk.Proofs.Pool.Difference
import RetreatDesk.Proofs.Pool.Rules
import RetreatDesk.Proofs.Registry.Snapshot
import RetreatDesk.Proofs.Desk.Reached
import RetreatDesk.Proofs.Desk.Redelivery
import RetreatDesk.Proofs.Desk.EmptyChange
import RetreatDesk.Proofs.Desk.Frame
import RetreatDesk.Proofs.Desk.Keys
import RetreatDesk.Proofs.View.Plan
import RetreatDesk.Proofs.View.Fact
import RetreatDesk.Proofs.View.Names
import RetreatDesk.Proofs.View.Kind
import RetreatDesk.Proofs.Desk.View
import RetreatDesk.Proofs.Desk.Cells
import RetreatDesk.Proofs.Desk.Interleaving
import RetreatDesk.Proofs.Pool.Circle
import RetreatDesk.Proofs.Reading.Rejection
import RetreatDesk.Proofs.Registry.Broken
import RetreatDesk.Proofs.Desk.Rejection
import RetreatDesk.Proofs.Account.Charged
import RetreatDesk.Proofs.Registry.Order
import RetreatDesk.Proofs.Desk.Order
import RetreatDesk.Proofs.Desk.Bystanders
import RetreatDesk.Proofs.Desk.Standing
import RetreatDesk.Proofs.Desk.Halves
import RetreatDesk.Proofs.Desk.Latest
import RetreatDesk.Proofs.Account.Reckoned
import RetreatDesk.Proofs.Json.Merged
import RetreatDesk.Proofs.Json.Alike
import RetreatDesk.Proofs.Web.Exchange
import RetreatDesk.Proofs.Desk.Loading
import RetreatDesk.Proofs.Registry.Named
import RetreatDesk.Proofs.Registry.Entered
import RetreatDesk.Proofs.Desk.Search
import RetreatDesk.Proofs.Command.Given
import RetreatDesk.Proofs.Pool.Resolving
import RetreatDesk.Proofs.Command.Precedence
import RetreatDesk.Proofs.Command.Opening
import RetreatDesk.Proofs.View.Table
import RetreatDesk.Proofs.Desk.Lines
