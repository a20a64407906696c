import RetreatDesk.Desk.Basic
import RetreatDesk.Json.Overlay

/-!
# Updating people

* `Participant.changedRecord`: the record of a person with a change laid over it.
* `Desk.update`: takes a change in, or rejects it and leaves everything as it was.
* `Desk.updateAll`: takes in what can be taken in, one change after another.
* `get?_update_of_ne`: a change touches nobody else.
-/

namespace RetreatDesk

/-- The record of a person with a change laid over it. The key stays what it is, whatever the change says. -/
def Participant.changedRecord (current : Option Participant) (c : Change) : Json :=
  let before := match current with
    | some p => p.toJson
    | none => .record []
  .record (put "id" (.text c.participantId) (before.overlay c.fields).fields)

/-- The person after a change. -/
def Participant.changed (current : Option Participant) (c : Change) : Except DeskError Participant :=
  match Participant.layout.read (.value (changedRecord current c)) with
  | .ok p => .ok p
  | .error problem => .error (.rejectedChange c.participantId problem)

namespace Desk

/-- The desk after a change. -/
def update (d : Desk) (c : Change) : Except DeskError Desk := do
  let p ← Participant.changed (d.people.get? c.participantId) c
  return { d with people := d.people.insert c.participantId p }

/-- The desk after a change, or as it was if the change is rejected. -/
def updated (d : Desk) (c : Change) : Desk :=
  match d.update c with
  | .ok d => d
  | .error _ => d

/-- The desk after changes one after another. -/
def updateAll (d : Desk) (changes : List Change) : Desk := changes.foldl updated d

/-- A change touches nobody else. -/
theorem get?_update_of_ne {d e : Desk} {c : Change} (h : d.update c = .ok e) {id : String}
    (hne : id ≠ c.participantId) : e.people.get? id = d.people.get? id := by
  unfold update at h
  cases hp : Participant.changed (d.people.get? c.participantId) c with
  | error _ => simp [hp, bind, Except.bind] at h
  | ok p =>
    simp only [hp, bind, Except.bind, pure, Except.pure, Except.ok.injEq] at h
    subst h
    exact Sorted.get?_insert_of_ne _ hne p

end Desk

end RetreatDesk
