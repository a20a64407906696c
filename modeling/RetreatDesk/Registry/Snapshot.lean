import RetreatDesk.Registry.Participant
import RetreatDesk.Registry.Event
import RetreatDesk.Registry.Pool
import RetreatDesk.Registry.View

/-!
# Snapshots

* `Snapshot`: all records of the registry as the data layer hands them over.
* `Snapshot.layout`: records that do not fit are left out; the rest still loads.
-/

namespace RetreatDesk

/-- All records of the registry. -/
structure Snapshot where
  participants : List Participant := []
  events : List Event := []
  pools : List Pool := []
  views : List View := []

namespace Snapshot

def layout : Layout Snapshot where
  title := "struct RegistrySnapshot"
  fields := ["participants", "events", "pools", "views"]
  required := []
  blank := {}
  set name d s :=
    match name with
    | "participants" => do return { s with participants := ← Reader.sound Participant.layout.read d }
    | "events" => do return { s with events := ← Reader.sound Event.layout.read d }
    | "pools" => do return { s with pools := ← Reader.sound Pool.layout.read d }
    | "views" => do return { s with views := ← Reader.sound View.layout.read d }
    | _ => .ok s
  keep := none

def toJson (s : Snapshot) : Json :=
  .record [("participants", .list (s.participants.map Participant.toJson)),
    ("events", .list (s.events.map Event.toJson)), ("pools", .list (s.pools.map Pool.toJson)),
    ("views", .list (s.views.map View.toJson))]

/-- The snapshot that a whole text holds. -/
def ofText (s : String) : Except Problem Snapshot := Reader.ofText layout.read s

end Snapshot

end RetreatDesk
