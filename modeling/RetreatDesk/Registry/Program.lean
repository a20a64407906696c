import RetreatDesk.Reading.Layout

/-!
# Programs

What one person's registration for one event holds.

* `Installment`, `Offering`: what was offered and paid for a sub-event.
* `Program`: the registration itself, with flags, the retreats picked and the offerings made.
* `Program.value?`, `Program.mapFlag`, `Program.mapKeys`: fields addressed by their stored names.
-/

namespace RetreatDesk

/-! ## Writing optional fields -/

/-- A field that is written only if it holds something. -/
def optionalField (name : String) (note : Option String) : List (String × Json) :=
  match note with
  | some s => [(name, .text s)]
  | none => []

/-! ## Installments -/

/-- A payment. -/
structure Installment where
  amount : Float := 0.0
  /-- When it was paid. -/
  time : Option String := none

namespace Installment

def layout : Layout Installment where
  title := "struct Installment"
  fields := ["offeringAmount", "offeringTime"]
  required := []
  blank := {}
  set name d i :=
    match name with
    | "offeringAmount" => do return { i with amount := ← Reader.amount d }
    | "offeringTime" => do return { i with time := ← Reader.note d }
    | _ => .ok i
  keep := none

def toJson (i : Installment) : Json :=
  .record (("offeringAmount", .ofFloat i.amount) :: optionalField "offeringTime" i.time)

end Installment

/-! ## Offerings -/

/-- What was offered for one sub-event. -/
structure Offering where
  /-- The article that was booked. -/
  sku : Option String := none
  /-- When it was booked. -/
  time : Option String := none
  /-- The payments by name. -/
  installments : Listed Installment := .empty
  /-- Fields without a meaning here. -/
  extra : Listed Json := .empty

namespace Offering

def layout : Layout Offering where
  title := "struct OfferingEntry"
  fields := ["offeringSKU", "offeringTime", "installments"]
  required := []
  blank := {}
  set name d o :=
    match name with
    | "offeringSKU" => do return { o with sku := ← Reader.note d }
    | "offeringTime" => do return { o with time := ← Reader.note d }
    | "installments" => do return { o with installments := ← Reader.listed Installment.layout.read d }
    | _ => .ok o
  keep := some fun name v o => { o with extra := o.extra.insert name v }

def toJson (o : Offering) : Json :=
  .record (optionalField "offeringSKU" o.sku ++ optionalField "offeringTime" o.time ++
    [("installments", .record (o.installments.entries.map fun (k, i) => (k, i.toJson)))] ++
    o.extra.entries)

/-- Whether an article was booked. -/
def booked (o : Offering) : Bool := o.sku.any (!Text.allBlank ·)

end Offering

/-! ## Programs -/

/-- A registration for one event. -/
structure Program where
  join : Bool := false
  accepted : Bool := false
  withdrawn : Bool := false
  /-- The person is let in. -/
  allow : Bool := false
  attended : Bool := false
  oath : Bool := false
  /-- The person may register. -/
  eligible : Bool := false
  /-- The person was put on the list by hand. -/
  manualInclude : Bool := false
  /-- A registration for trial. -/
  test : Bool := false
  /-- Only the first retreats are charged. -/
  limitFee : Bool := false
  /-- A mark of the organisers. -/
  owyaa : Bool := false
  /-- The retreats on the form and whether each was picked. -/
  whichRetreats : Listed Bool := .empty
  offeringHistory : Sorted Offering := .empty
  /-- Fields without a meaning here. -/
  extra : Listed Json := .empty

namespace Program

def layout : Layout Program where
  title := "struct ProgramRecord"
  fields := ["join", "accepted", "withdrawn", "allow", "attended", "oath", "eligible", "manualInclude", "test",
    "limitFee", "owyaa", "whichRetreats", "offeringHistory"]
  required := []
  blank := {}
  set name d p :=
    match name with
    | "join" => do return { p with join := ← Reader.flag d }
    | "accepted" => do return { p with accepted := ← Reader.flag d }
    | "withdrawn" => do return { p with withdrawn := ← Reader.flag d }
    | "allow" => do return { p with allow := ← Reader.flag d }
    | "attended" => do return { p with attended := ← Reader.flag d }
    | "oath" => do return { p with oath := ← Reader.flag d }
    | "eligible" => do return { p with eligible := ← Reader.flag d }
    | "manualInclude" => do return { p with manualInclude := ← Reader.flag d }
    | "test" => do return { p with test := ← Reader.flag d }
    | "limitFee" => do return { p with limitFee := ← Reader.flag d }
    | "owyaa" => do return { p with owyaa := ← Reader.flag d }
    | "whichRetreats" => do
      let picks ← Reader.orBlank [] (Reader.entries Reader.json) d
      return { p with whichRetreats := .ofList (picks.map fun (k, v) => (k, v.isSet)) }
    | "offeringHistory" => do return { p with offeringHistory := ← Reader.sorted Offering.layout.read d }
    | _ => .ok p
  keep := some fun name v p => { p with extra := p.extra.insert name v }

/-- The flags by stored name, in the order in which they are written. -/
def flags (p : Program) : List (String × Bool) :=
  [("join", p.join), ("accepted", p.accepted), ("withdrawn", p.withdrawn), ("allow", p.allow),
   ("attended", p.attended), ("oath", p.oath), ("eligible", p.eligible), ("manualInclude", p.manualInclude),
   ("test", p.test), ("limitFee", p.limitFee), ("owyaa", p.owyaa)]

def toJson (p : Program) : Json :=
  .record ((p.flags.map fun (k, b) => (k, .bool b)) ++
    [("whichRetreats", .record (p.whichRetreats.entries.map fun (k, b) => (k, .bool b))),
     ("offeringHistory", .record (p.offeringHistory.entries.map fun (k, o) => (k, o.toJson)))] ++
    p.extra.entries)

/-! ## Fields by name -/

/-- A flag or an extra field, by its stored name. -/
def value? (p : Program) (name : String) : Option Json :=
  match name with
  | "join" => some (.bool p.join)
  | "accepted" => some (.bool p.accepted)
  | "withdrawn" => some (.bool p.withdrawn)
  | "allow" => some (.bool p.allow)
  | "attended" => some (.bool p.attended)
  | "oath" => some (.bool p.oath)
  | "eligible" => some (.bool p.eligible)
  | "manualInclude" => some (.bool p.manualInclude)
  | "test" => some (.bool p.test)
  | "limitFee" => some (.bool p.limitFee)
  | "owyaa" => some (.bool p.owyaa)
  | _ => p.extra.get? name

/-- Whether a field says yes. -/
def flag (p : Program) (name : String) : Bool := (p.value? name).any Json.isSet

/-- A field as a text. -/
def text? (p : Program) (name : String) : Option String := (p.value? name).bind Json.text?

/-- A field as a number. -/
def number? (p : Program) (name : String) : Option Float := (p.value? name).bind Json.amount?

/-- The map in which the retreats stand. -/
def retreatsMap : String := "whichRetreats"

/-- Whether the entry of a map says yes; nothing when there is no such entry. -/
def mapFlag (p : Program) (map key : String) : Option Bool :=
  if map = retreatsMap then p.whichRetreats.get? key
  else ((p.extra.get? map).bind (·.get? key)).map Json.isSet

/-- The keys of a map whose entries say yes, in order. -/
def mapKeys (p : Program) (map : String) : List String :=
  if map = retreatsMap then (p.whichRetreats.entries.filter (·.2)).map (·.1)
  else (((p.extra.get? map).map Json.fields).getD []).filterMap fun (k, v) =>
    if v.isSet then some k else none

/-! ## Registration and offerings -/

/-- Registered and not withdrawn. -/
def active (p : Program) : Bool := p.join && !p.withdrawn

/-- Whether a retreat was picked whose name starts so. -/
def pickedFrom (p : Program) (start : String) : Bool :=
  p.whichRetreats.entries.any fun (k, picked) => picked && k.startsWith start

/-- The sub-event that stands for all. -/
def anySubEvent : String := "any"

def offering? (p : Program) (subEvent : String) : Option Offering := p.offeringHistory.get? subEvent

/-- Whether an article was booked for a sub-event, or for any at all. -/
def hasOffering (p : Program) (subEvent : String) : Bool :=
  if subEvent = anySubEvent then p.offeringHistory.values.any Offering.booked
  else (p.offering? subEvent).any Offering.booked

/-- Whether an article was booked for a sub-event whose name starts so. -/
def hasOfferingFrom (p : Program) (start : String) : Bool :=
  p.offeringHistory.entries.any fun (k, o) => k.startsWith start && o.booked

end Program

end RetreatDesk
