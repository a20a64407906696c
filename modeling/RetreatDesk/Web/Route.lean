import RetreatDesk.Web.Encoding

/-!
# Routes

* `Route`: what an address asks for.
* `Route.ofPath?`: the route of a path. Parts that are names of pools, views and people stay escaped.
-/

namespace RetreatDesk.Web

/-- What an address asks for. -/
inductive Route where
  | members (pool : String)
  | membership (pool person : String)
  | view (key : String)
  | account (person : String)
  | change (person : String)
  | catalog
  /-- Whether the service runs. -/
  | health
  /-- Whether the service has started. -/
  | ready
  /-- The figures of the service. -/
  | metrics
  deriving DecidableEq

namespace Route

/-- The route of a path. A name at the end of a path may not be empty, one within it may. -/
def ofPath? (path : String) : Option Route :=
  match parts '/' path with
  | ["", "api", "v1", "pools", pool, "members"] => some (.members pool)
  | ["", "api", "v1", "pools", pool, "participants", person] =>
    if person.isEmpty then none else some (.membership pool person)
  | ["", "api", "v1", "views", key] => if key.isEmpty then none else some (.view key)
  | ["", "api", "v1", "participants", person, "installments"] => some (.account person)
  | ["", "api", "v1", "participants", person, "changes"] => some (.change person)
  | ["", "api", "v1", "catalog"] => some .catalog
  | ["", "health"] => some .health
  | ["", "ready"] => some .ready
  | ["", "metrics"] => some .metrics
  | _ => none

/-- Whether a route takes a body in; the others are only looked at. -/
def takesBody : Route → Bool
  | .view _ | .change _ => true
  | _ => false

/-- Whether a route is served for a method. Whoever may look may also ask for the head alone. -/
def serves (r : Route) (method : String) : Bool :=
  if r.takesBody then method = "POST" else method = "GET" || method = "HEAD"

end Route

end RetreatDesk.Web
