import RetreatDesk.Registry.Snapshot
import RetreatDesk.View.Output

/-!
# The desk

* `Desk`: the registered pools, events and views, and the people as they are now.
* `Desk.ofSnapshot`: of records with one key the last one counts.
* `Desk.isMember`, `Desk.members`, `Desk.view`, `Desk.account`: the questions the desk answers.
* `DeskError`: why a question has no answer.
-/

namespace RetreatDesk

/-! ## Errors -/

/-- Why the desk cannot do what it was asked. -/
inductive DeskError where
  /-- Nobody has this key. -/
  | unknownParticipant (id : String)
  /-- No event has this key. -/
  | unknownEvent (aid : String)
  /-- The person has no program for the event. -/
  | missingProgram (id aid : String)
  /-- A view was asked for an event that nobody knows. -/
  | viewUnknownEvent (aid : String)
  /-- Nobody knows the view that was asked for. -/
  | viewUnknownView (requested resolved : String)
  /-- With the change the record of the person would not fit. -/
  | rejectedChange (id : String) (problem : Problem)

/-- The wording of an error. -/
def DeskError.message : DeskError → String
  | unknownParticipant id => "participant " ++ ticked id ++ " not found"
  | unknownEvent aid => "event " ++ ticked aid ++ " not found"
  | missingProgram id aid => "participant " ++ ticked id ++ " has no program for " ++ ticked aid
  | viewUnknownEvent aid => "event " ++ ticked aid ++ " not found"
  | viewUnknownView requested resolved =>
    "view " ++ ticked requested ++ " not found (resolved to " ++ ticked resolved ++ ")"
  | rejectedChange id problem =>
    "merged record for participant " ++ ticked id ++ " is invalid: " ++ problem.message

/-! ## The desk -/

/-- What the desk knows. -/
structure Desk where
  pools : Sorted Pool
  events : Sorted Event
  views : Sorted View
  people : Sorted Participant

namespace Desk

/-- The desk that knows the records of a snapshot. -/
def ofSnapshot (s : Snapshot) : Desk where
  pools := .ofList (s.pools.map fun p => (p.name, p))
  events := .ofList (s.events.map fun e => (e.aid, e))
  views := .ofList (s.views.map fun v => (v.name, v))
  people := .ofList (s.participants.map fun p => (p.id, p))

/-- A person by key. -/
def person (d : Desk) (id : String) : Except DeskError Participant :=
  match d.people.get? id with
  | some p => .ok p
  | none => .error (.unknownParticipant id)

/-- Whether a person belongs to a pool while `aid` is the current event. -/
def isMember (d : Desk) (pool id aid : String) : Except DeskError Bool := do
  let p ← d.person id
  return member d.pools p aid pool

/-- The keys of the people who belong to a pool. -/
def members (d : Desk) (pool aid : String) : List String :=
  (d.people.values.filter fun p => member d.pools p aid pool).map (·.id)

/-- A view for an event. The key is looked up among the dashboard's keys first. -/
def view (d : Desk) (key : String) (r : ViewRequest) : Except DeskError ViewOutput :=
  match d.events.get? r.aid with
  | none => .error (.viewUnknownEvent r.aid)
  | some event =>
    let name := event.viewNamed key
    match d.views.get? name with
    | none => .error (.viewUnknownView key name)
    | some v => .ok (v.output (Scope.of d.pools event r.subEvent) r.search d.people.values)

/-- A person's account for an event. -/
def account (d : Desk) (id aid : String) (subEvent : Option String) : Except DeskError Account :=
  match d.events.get? aid with
  | none => .error (.unknownEvent aid)
  | some event => do
    let p ← d.person id
    match p.program? aid with
    | none => .error (.missingProgram id aid)
    | some r => return r.account (event.effectiveSubEvent subEvent) event.config

end Desk

end RetreatDesk
