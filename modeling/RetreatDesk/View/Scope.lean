import RetreatDesk.Account.Summary
import RetreatDesk.Pool.Membership
import RetreatDesk.Registry.View

/-!
# What a view looks at

* `Scope`: the pools, the event and the sub-event that a view is shown for.
* `ViewFilter.passes`: whether a condition lets a person through.
-/

namespace RetreatDesk

/-- What a view is shown for. -/
structure Scope where
  pools : Sorted Pool
  event : Event
  /-- The sub-event, if the event has any. -/
  subEvent : Option String

namespace Scope

/-- The scope of an event when a sub-event was asked for, or none. -/
def of (pools : Sorted Pool) (event : Event) (asked : Option String) : Scope :=
  ⟨pools, event, event.effectiveSubEvent asked⟩

/-- A person's program for the event. -/
def program? (s : Scope) (p : Participant) : Option Program := p.program? s.event.aid

/-- Whether a person belongs to a pool. -/
def isMember (s : Scope) (p : Participant) (pool : String) : Bool := member s.pools p s.event.aid pool

/-- The state of a person's offering for a sub-event, or for the one in view. -/
def offeringStatus? (s : Scope) (p : Participant) (subEvent : Option String) : Option OfferingStatus :=
  (s.program? p).bind fun r => r.offeringStatus? (subEvent.or s.subEvent) s.event.config

/-- A person's account for the sub-event in view. -/
def account? (s : Scope) (p : Participant) : Option Account :=
  (s.program? p).map fun r => r.account s.subEvent s.event.config

end Scope

/-- Whether a condition lets a person through. Who has no offering on record has not made one. -/
def ViewFilter.passes (s : Scope) (p : Participant) : ViewFilter → Bool
  | .expect (.currentField name) value => (s.program? p).any (·.flag name) == value
  | .expect (.currentMap map name) value => ((s.program? p).bind (·.mapFlag map name)).getD false == value
  | .expect (.baseField name) value => p.flag name == value
  | .expect (.practice name) value => p.practises name == value
  | .expect (.poolMember pool) value => s.isMember p pool == value
  | .expect (.offering subEvent) value =>
    match s.offeringStatus? p subEvent with
    | some status => status.complete == value
    | none => !value
  | .expect (.deposit subEvent) value =>
    match s.offeringStatus? p subEvent with
    | some status => status.depositMade == value
    | none => !value
  | .expect (.spokenLanguage language) value => (p.spokenLanguage == language) == value
  | .expect (.writtenLanguage language) value => (p.writtenLanguage == language) == value
  | .unknown => true

/-- Whether every condition lets a person through. -/
def passesAll (s : Scope) (filters : List ViewFilter) (p : Participant) : Bool :=
  filters.all (·.passes s p)

end RetreatDesk
