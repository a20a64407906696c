import RetreatDesk.View.Cell
import RetreatDesk.View.Search

/-!
# Views shown

* `ViewOutput`: the columns of a view and a row for each person shown.
* `View.output`: people pass the pool of the event, the conditions of the view and the search, and become rows.
-/

namespace RetreatDesk

/-- The row of a person. -/
structure ViewRow where
  /-- The key of the person. -/
  participantId : String
  /-- One cell for each column. -/
  cells : List Cell

/-- A view as shown. -/
structure ViewOutput where
  view : String
  /-- The key of the event. -/
  aid : String
  subEvent : Option String
  plan : Plan
  rows : List ViewRow

namespace ViewOutput

def toJson (o : ViewOutput) : Json :=
  .record ([("view", .text o.view), ("aid", .text o.aid)] ++ optionalField "subEvent" o.subEvent ++
    [("columns", o.plan.toJson),
     ("rows", .list (o.rows.map fun r =>
      .record [("participantId", .text r.participantId), ("values", .list (r.cells.map Cell.toJson))]))])

/-- The position of a column. -/
def columnIndex? (o : ViewOutput) (name : String) : Option Nat :=
  o.plan.columns.findIdx? (·.field = name)

/-- The cell of a person under a column. -/
def cell? (o : ViewOutput) (participantId name : String) : Option Cell := do
  let index ← o.columnIndex? name
  let row ← o.rows.find? (·.participantId = participantId)
  row.cells[index]?

/-- The keys of the people shown. -/
def participantIds (o : ViewOutput) : List String := o.rows.map (·.participantId)

end ViewOutput

/-- Whether the event lets a person into its views at all. -/
def Scope.admits (s : Scope) (p : Participant) : Bool :=
  match s.event.config.pool with
  | some pool => s.isMember p pool
  | none => true

/-- Whether a person is shown: the event admits the person, every condition lets the person through, and the
search finds the person. -/
def View.shows (v : View) (s : Scope) (term : Option String) (p : Participant) : Bool :=
  s.admits p && passesAll s v.filters p &&
    (match term with
     | some needle => p.mentions needle
     | none => true)

/-- The view of a scope over people. -/
def View.output (v : View) (s : Scope) (search : Option String) (people : List Participant) : ViewOutput :=
  let plan := Plan.of v.columns
  let term := searchTerm? search
  { view := v.name
    aid := s.event.aid
    subEvent := s.subEvent
    plan := plan
    rows := (people.filter (v.shows s term)).map fun p => ⟨p.id, plan.row s p⟩ }

end RetreatDesk
