import RetreatDesk.Registry.Program
import RetreatDesk.Calendar.Date

/-!
# Events

* `Event`: a retreat that people register for, with prices, sub-events and views of its own.
* `Event.effectiveSubEvent`: the sub-event asked for, or the first one.
* `Event.viewNamed`: the view that stands behind a key of the dashboard.
* `Selection`: the event, and perhaps the sub-event, that is being looked at.
-/

namespace RetreatDesk

/-- What a retreat costs. -/
structure RetreatPrice where
  total : Float := 0.0

namespace RetreatPrice

def layout : Layout RetreatPrice where
  title := "struct RetreatConfig"
  fields := ["offeringTotal"]
  required := []
  blank := {}
  set name d p :=
    match name with
    | "offeringTotal" => do return { p with total := ← Reader.amount d }
    | _ => .ok p
  keep := none

def toJson (p : RetreatPrice) : Json := .record [("offeringTotal", .ofFloat p.total)]

end RetreatPrice

/-- The settings of an event. -/
structure EventConfig where
  /-- The pool that people have to belong to. -/
  pool : Option String := none
  prices : Sorted RetreatPrice := .empty
  /-- How offerings are presented. -/
  presentation : Option String := none
  /-- The views by key of the dashboard. -/
  dashboardViews : Sorted String := .empty

namespace EventConfig

/-- How settings are read. -/
def layout : Layout EventConfig where
  title := "struct EventConfig"
  fields := ["pool", "whichRetreatsConfig", "offeringPresentation", "dashboardViews"]
  required := []
  blank := {}
  set name d c :=
    match name with
    | "pool" => do return { c with pool := ← Reader.note d }
    | "whichRetreatsConfig" => do return { c with prices := ← Reader.sorted RetreatPrice.layout.read d }
    | "offeringPresentation" => do return { c with presentation := ← Reader.note d }
    | "dashboardViews" => do return { c with dashboardViews := ← Reader.labels d }
    | _ => .ok c
  keep := none

def toJson (c : EventConfig) : Json :=
  .record (optionalField "pool" c.pool ++
    [("whichRetreatsConfig", .record (c.prices.entries.map fun (k, p) => (k, p.toJson)))] ++
    optionalField "offeringPresentation" c.presentation ++
    [("dashboardViews", .record (c.dashboardViews.entries.map fun (k, s) => (k, .text s)))])

/-- The presentation under which payments are counted one by one. -/
def installmentsPresentation : String := "installments"

/-- Whether payments are counted one by one. -/
def countsInstallments (c : EventConfig) : Bool := c.presentation = some installmentsPresentation

end EventConfig

/-- A part of an event. -/
structure SubEvent where
  date : Option Date := none
  /-- Fields without a meaning here. -/
  extra : Listed Json := .empty

namespace SubEvent

/-- How a sub-event is read. What is no date counts as none. -/
def layout : Layout SubEvent where
  title := "struct SubEvent"
  fields := ["date"]
  required := []
  blank := {}
  set name d s :=
    match name with
    | "date" => do return { s with date := (← Reader.json d).text?.bind Date.ofText? }
    | _ => .ok s
  keep := some fun name v s => { s with extra := s.extra.insert name v }

/-- The sub-event as a value. -/
def toJson (s : SubEvent) : Json :=
  .record (optionalField "date" (s.date.map Date.text) ++ s.extra.entries)

end SubEvent

/-- A retreat that people register for. -/
structure Event where
  /-- The key of the event. -/
  aid : String := ""
  name : String := ""
  config : EventConfig := {}
  /-- Its parts by name. -/
  subEvents : Sorted SubEvent := .empty

namespace Event

def layout : Layout Event where
  title := "struct Event"
  fields := ["aid", "name", "config", "subEvents"]
  required := ["aid"]
  blank := {}
  set name d e :=
    match name with
    | "aid" => do return { e with aid := ← Reader.label d }
    | "name" => do return { e with name := ← Reader.label d }
    | "config" => do return { e with config := ← Reader.orBlank {} EventConfig.layout.read d }
    | "subEvents" => do return { e with subEvents := ← Reader.sorted SubEvent.layout.read d }
    | _ => .ok e
  keep := none

def toJson (e : Event) : Json :=
  .record [("aid", .text e.aid), ("name", .text e.name), ("config", e.config.toJson),
    ("subEvents", .record (e.subEvents.entries.map fun (k, s) => (k, s.toJson)))]

/-- The sub-event asked for, or the first one when none was. -/
def effectiveSubEvent (e : Event) (asked : Option String) : Option String :=
  match asked with
  | some key => if key.isEmpty then e.subEvents.keys.head? else some key
  | none => e.subEvents.keys.head?

/-- The view behind a key of the dashboard; any other key names a view itself. -/
def viewNamed (e : Event) (key : String) : String := (e.config.dashboardViews.get? key).getD key

end Event

/-- The event that is being looked at. -/
structure Selection where
  /-- The key of the event. -/
  aid : String := ""
  subEvent : Option String := none

namespace Selection

def layout : Layout Selection where
  title := "struct CurrentEvent"
  fields := ["aid", "subEvent"]
  required := ["aid"]
  blank := {}
  set name d s :=
    match name with
    | "aid" => do return { s with aid := ← Reader.text .string d }
    | "subEvent" => do return { s with subEvent := ← Reader.optional (Reader.text .string) d }
    | _ => .ok s
  keep := none

def toJson (s : Selection) : Json :=
  .record (("aid", .text s.aid) :: optionalField "subEvent" s.subEvent)

end Selection

end RetreatDesk
