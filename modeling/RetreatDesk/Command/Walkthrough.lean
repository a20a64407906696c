import RetreatDesk.Demo.Registry
import RetreatDesk.Desk.Update
import RetreatDesk.View.Table

/-!
# The walkthrough

* `walkthrough`: pools, views, an account and a change, shown on the registry for demonstrations.
-/

namespace RetreatDesk.Demo

/-- The change that the walkthrough shows: somebody who withdrew comes back. -/
def rejoin : Change :=
  ⟨"p-003", [("programs", .record [(aid, .record [("withdrawn", .bool false)])])]⟩

/-- The line of a pool with its members. -/
def poolLine (d : Desk) (pool : String) : String :=
  let members := d.members pool aid
  "- " ++ pool ++ ": " ++ members.length.repr ++ " member(s) [" ++ String.intercalate ", " members ++ "]\n"

def accountLine (id : String) (a : Account) : String :=
  let places := Decimal.fixed 2
  "Installments for " ++ id ++ ": total " ++ places a.total ++ " | received " ++ places a.received ++
    " | due " ++ places a.due ++ " | refunded " ++ places a.refunded ++ "\n"

/-- The whole walkthrough. -/
def walkthrough (showHidden : Bool) : Except DeskError String := do
  let d := Desk.ofSnapshot snapshot
  let request : ViewRequest := { aid := aid }
  let registrations ← d.view "registrations" request
  let finance ← d.view "finance" request
  let account ← d.account "p-001" aid none
  let after ← d.update rejoin
  let again ← after.view "registrations" request
  return "Retreat registry demo (" ++ aid ++ ")\n\nPools\n" ++ String.join (d.pools.keys.map (poolLine d)) ++
    "\nRegistrations view\n" ++ registrations.table showHidden ++
    "\nFinance view\n" ++ finance.table showHidden ++
    "\n" ++ accountLine "p-001" account ++
    "\nChange feed: p-003 rejoins after withdrawing\n" ++ again.table showHidden

end RetreatDesk.Demo
