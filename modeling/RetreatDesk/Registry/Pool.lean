import RetreatDesk.Reading.Layout

/-!
# Pools

* `PoolRule`: one way to belong to a pool.
* `Pool`: a named list of rules. Whoever meets one of them belongs to it.
* `PoolRule.layout`: the parameters by tag; what has no known tag reads as `unknown`.
-/

namespace RetreatDesk

/-- One way to belong to a pool. The current event is the one being looked at. -/
inductive PoolRule where
  | everyone
  | pool (name : String)
  /-- The members of one pool that are not in another. -/
  | difference (inPool outPool : String)
  | both (pool₁ pool₂ : String)
  | practice (field : String)
  /-- Those who booked for a sub-event of an event. -/
  | offering (aid subEvent : String)
  /-- Those who booked for a sub-event of the current event and did not withdraw. -/
  | currentOffering (subEvent : String)
  /-- Those whose current registration is a trial. -/
  | currentTest
  /-- Those who did not book for a sub-event of the current event. -/
  | currentNotOffering (subEvent : String)
  /-- Those who booked for a sub-event of an event and are in one of the pools. -/
  | offeringAndPools (aid subEvent : String) (pools : List String)
  | oath (aid : String)
  | attended (aid : String)
  | join (aid : String)
  | currentJoin
  /-- Those put on the list of the current event by hand. -/
  | currentManualInclude
  /-- Those accepted for the current event who did not withdraw. -/
  | currentAccepted
  | currentNotJoin
  /-- Those active in an event who picked a retreat whose name starts so. -/
  | joinWhich (aid retreat : String)
  /-- The same, if they also booked for a sub-event whose name starts so. -/
  | offeringWhich (aid retreat subEvent : String)
  /-- Those marked as eligible for the current event. -/
  | eligible
  /-- Nobody. -/
  | unknown
  deriving DecidableEq

namespace PoolRule

def tag : PoolRule → String
  | everyone => "true"
  | pool _ => "pool"
  | difference _ _ => "pooldiff"
  | both _ _ => "pooland"
  | practice _ => "practice"
  | offering _ _ => "offering"
  | currentOffering _ => "currenteventoffering"
  | currentTest => "currenteventtest"
  | currentNotOffering _ => "currenteventnotoffering"
  | offeringAndPools _ _ _ => "offeringandpools"
  | oath _ => "oath"
  | attended _ => "attended"
  | join _ => "join"
  | currentJoin => "currenteventjoin"
  | currentManualInclude => "currenteventmanualinclude"
  | currentAccepted => "currenteventaccepted"
  | currentNotJoin => "currenteventnotjoin"
  | joinWhich _ _ => "joinwhich"
  | offeringWhich _ _ _ => "offeringwhich"
  | eligible => "eligible"
  | unknown => "unknown"

/-- The parameters of a rule, by stored name. -/
def parameters : PoolRule → List (String × Json)
  | pool name => [("name", .text name)]
  | difference inPool outPool => [("inpool", .text inPool), ("outpool", .text outPool)]
  | both pool₁ pool₂ => [("pool1", .text pool₁), ("pool2", .text pool₂)]
  | practice field => [("field", .text field)]
  | offering aid subEvent => [("aid", .text aid), ("subevent", .text subEvent)]
  | currentOffering subEvent => [("subevent", .text subEvent)]
  | currentNotOffering subEvent => [("subevent", .text subEvent)]
  | offeringAndPools aid subEvent pools =>
    [("aid", .text aid), ("subevent", .text subEvent), ("pools", .ofTexts pools)]
  | oath aid => [("aid", .text aid)]
  | attended aid => [("aid", .text aid)]
  | join aid => [("aid", .text aid)]
  | joinWhich aid retreat => [("aid", .text aid), ("retreat", .text retreat)]
  | offeringWhich aid retreat subEvent =>
    [("aid", .text aid), ("retreat", .text retreat), ("subevent", .text subEvent)]
  | _ => []

def toJson (r : PoolRule) : Json := .record (("type", .text r.tag) :: r.parameters)

/-! ## Reading -/

/-- The rule with a tag before its parameters are known; other tags belong to no rule. -/
def withTag (tag : String) : PoolRule :=
  match tag with
  | "true" => everyone
  | "pool" => pool ""
  | "pooldiff" => difference "" ""
  | "pooland" => both "" ""
  | "practice" => practice ""
  | "offering" => offering "" ""
  | "currenteventoffering" => currentOffering ""
  | "currenteventtest" => currentTest
  | "currenteventnotoffering" => currentNotOffering ""
  | "offeringandpools" => offeringAndPools "" "" []
  | "oath" => oath ""
  | "attended" => attended ""
  | "join" => join ""
  | "currenteventjoin" => currentJoin
  | "currenteventmanualinclude" => currentManualInclude
  | "currenteventaccepted" => currentAccepted
  | "currenteventnotjoin" => currentNotJoin
  | "joinwhich" => joinWhich "" ""
  | "offeringwhich" => offeringWhich "" "" ""
  | "eligible" => eligible
  | _ => unknown

/-- What messages call a rule. -/
def variantName : PoolRule → String
  | everyone => "True"
  | pool _ => "Pool"
  | difference _ _ => "PoolDiff"
  | both _ _ => "PoolAnd"
  | practice _ => "Practice"
  | offering _ _ => "Offering"
  | currentOffering _ => "CurrentEventOffering"
  | currentTest => "CurrentEventTest"
  | currentNotOffering _ => "CurrentEventNotOffering"
  | offeringAndPools _ _ _ => "OfferingAndPools"
  | oath _ => "Oath"
  | attended _ => "Attended"
  | join _ => "Join"
  | currentJoin => "CurrentEventJoin"
  | currentManualInclude => "CurrentEventManualInclude"
  | currentAccepted => "CurrentEventAccepted"
  | currentNotJoin => "CurrentEventNotJoin"
  | joinWhich _ _ => "JoinWhich"
  | offeringWhich _ _ _ => "OfferingWhich"
  | eligible => "Eligible"
  | unknown => "Unknown"

/-- The rule with one parameter set to a text. -/
def withText (name value : String) : PoolRule → PoolRule
  | pool _ => pool value
  | difference i o => if name = "inpool" then difference value o else difference i value
  | both p q => if name = "pool1" then both value q else both p value
  | practice _ => practice value
  | offering a s => if name = "aid" then offering value s else offering a value
  | currentOffering _ => currentOffering value
  | currentNotOffering _ => currentNotOffering value
  | offeringAndPools a s ps =>
    if name = "aid" then offeringAndPools value s ps else offeringAndPools a value ps
  | oath _ => oath value
  | attended _ => attended value
  | join _ => join value
  | joinWhich a r => if name = "aid" then joinWhich value r else joinWhich a value
  | offeringWhich a r s =>
    if name = "aid" then offeringWhich value r s
    else if name = "retreat" then offeringWhich a value s
    else offeringWhich a r value
  | r => r

/-- The rule with its list of pools set. -/
def withPools (pools : List String) : PoolRule → PoolRule
  | offeringAndPools a s _ => offeringAndPools a s pools
  | r => r

/-- How a rule with a tag is read. Every parameter is a text and has to be there, save the list of pools. -/
def layout (tag : String) : Layout PoolRule :=
  let blank := withTag tag
  let names := keysOf blank.parameters
  { title := "struct variant PoolAttribute::" ++ blank.variantName
    fields := names
    required := names.filter (· ≠ "pools")
    blank := blank
    set := fun name d r =>
      if name = "pools" then do return r.withPools (← Reader.items (Reader.text .string) d)
      else do return r.withText name (← Reader.text .string d)
    keep := none }

/-- How any rule is read. -/
def tagged : Tagged PoolRule where
  title := "internally tagged enum PoolAttribute"
  tag := "type"
  layout := layout

end PoolRule

/-- A named list of rules. -/
structure Pool where
  /-- The key of the pool. -/
  name : String := ""
  /-- What the pool is for. -/
  description : String := ""
  /-- The ways to belong to it. -/
  rules : List PoolRule := []

namespace Pool

/-- How a pool is read. A rule that does not fit becomes one that nobody meets. -/
def layout : Layout Pool where
  title := "struct Pool"
  fields := ["name", "description", "attributes"]
  required := ["name"]
  blank := {}
  set name d p :=
    match name with
    | "name" => do return { p with name := ← Reader.label d }
    | "description" => do return { p with description := ← Reader.label d }
    | "attributes" => do return { p with rules := ← Reader.each .unknown PoolRule.tagged.read d }
    | _ => .ok p
  keep := none

def toJson (p : Pool) : Json :=
  .record [("name", .text p.name), ("description", .text p.description),
    ("attributes", .list (p.rules.map PoolRule.toJson))]

end Pool

end RetreatDesk
