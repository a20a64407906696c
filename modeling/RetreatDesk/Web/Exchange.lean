import RetreatDesk.Web.Route
import RetreatDesk.Web.MediaType
import RetreatDesk.Desk.Update

/-!
# Requests and responses

* `Request`, `Response`: what comes in and what goes out.
* `respond`: the response to a request, and the desk after it.
* `DeskError.status`: look-ups that miss are not found, changes that do not fit are unprocessable.
-/

namespace RetreatDesk

/-- The status under which an error is answered. -/
def DeskError.status : DeskError → Nat
  | .rejectedChange _ _ => 422
  | _ => 404

namespace Web

/-- The bytes that come with a request. -/
structure Body where
  bytes : List UInt8

/-- A text sent along. -/
instance : Coe String Body := ⟨fun s => ⟨Utf8.bytes s⟩⟩

/-- What comes in. -/
structure Request where
  method : String
  /-- The path, perhaps with a scheme and a host before it, and a query and a fragment after it. -/
  target : String
  /-- What the body is said to hold. -/
  contentType : Option String
  body : Body

/-- What goes out. A body that is not JSON is not kept. -/
structure Response where
  status : Nat
  body : Option Json

namespace Response

/-- A response without a body. -/
def bare (status : Nat) : Response := ⟨status, none⟩

/-- An answer. -/
def ok (body : Json) : Response := ⟨200, some body⟩

/-- An error in words. -/
def ofError (e : DeskError) : Response := ⟨e.status, some (.record [("error", .text e.message)])⟩

/-- An answer, or the error that stands for it. -/
def ofResult (r : Except DeskError Json) : Response :=
  match r with
  | .ok body => ok body
  | .error e => ofError e

end Response

/-! ## Parts of a request -/

namespace Request

/-- The path of a request, and what is asked for there. A fragment of the target is for the sender alone. -/
def address (q : Request) : String × Option String := cut '?' (cut '#' (fromPath q.target)).1

def path (q : Request) : String := q.address.1

def query (q : Request) : Option String := q.address.2

end Request

/-- The event and sub-event that a query names: the event once, the sub-event at most once. -/
def selection? (query : String) : Option Selection :=
  let fields := formFields query
  let values (name : String) : List String := (fields.filter (·.1 = name)).map (·.2)
  match values "aid", values "subEvent" with
  | [aid], [] => some ⟨aid, none⟩
  | [aid], [sub] => some ⟨aid, some sub⟩
  | _, _ => none

/-- How many bytes a body may have. -/
def bodyLimit : Nat := 2097152

namespace Body

/-- The text of a body. Bytes that stand for no character are spelled as half a character after one that may only stand
within a text, so that they can be passed over just where half a character can. -/
def text (b : Body) : String :=
  String.ofList ((Utf8.decode b.bytes).flatMap fun c =>
    match c with
    | some c => [c]
    | none => "\ufffd\\udc00".toList)

/-- What a body holds. What follows its first value does not count. -/
def draft (b : Body) : Draft := (Document.ofText b.text).root

end Body

/-- What is looked for in a body, or the status that says why it is not there. -/
def readBody {α : Type} (r : Reader α) (q : Request) : Except Nat α :=
  if (q.contentType.map isJsonType).getD false then
    if bodyLimit < q.body.bytes.length then .error 413
    else
      match r q.body.draft with
      | .ok a => .ok a
      | .error (.unreadable _) => .error 400
      | .error _ => .error 422
  else .error 415

/-- The fields of a body that holds a change. -/
def changedFields : Reader (List (String × Json)) := fun d => do
  return (Listed.ofList (← Reader.entries Reader.json d)).entries

/-! ## Answers -/

/-- What is registered. -/
def catalog (d : Desk) : Json :=
  .record
    [("events", .list (d.events.values.map fun e =>
      .record [("aid", .text e.aid), ("name", .text e.name),
        ("pool", match e.config.pool with
          | some pool => .text pool
          | none => .null),
        ("subEvents", .ofTexts e.subEvents.keys),
        ("dashboardViews", .record (e.config.dashboardViews.entries.map fun (k, s) => (k, .text s)))])),
     ("pools", .ofTexts d.pools.keys), ("views", .ofTexts d.views.keys), ("participants", .ofNat d.people.size)]

/-- The response of a route that only looks. -/
def look (d : Desk) (started : Bool) (route : Route) (query : String) : Response :=
  match route with
  | .members pool =>
    match segmentText? pool, selection? query with
    | some pool, some s =>
      .ok (.record [("pool", .text pool), ("aid", .text s.aid), ("members", .ofTexts (d.members pool s.aid))])
    | _, _ => .bare 400
  | .membership pool person =>
    match segmentText? pool, segmentText? person, selection? query with
    | some pool, some person, some s =>
      .ofResult ((d.isMember pool person s.aid).map fun b =>
        .record [("pool", .text pool), ("participant_id", .text person), ("aid", .text s.aid),
          ("eligible", .bool b)])
    | _, _, _ => .bare 400
  | .account person =>
    match segmentText? person, selection? query with
    | some person, some s => .ofResult ((d.account person s.aid s.subEvent).map Account.toJson)
    | _, _ => .bare 400
  | .catalog => .ok (catalog d)
  | .health => .ok (.record [("status", .text "ok")])
  | .ready =>
    if started then .ok (.record [("status", .text "ready")])
    else ⟨503, some (.record [("status", .text "initializing")])⟩
  | .metrics => .bare 200
  | .view _ | .change _ => .bare 405

def showView (d : Desk) (key : String) (q : Request) : Response :=
  match segmentText? key with
  | none => .bare 400
  | some key =>
    match readBody ViewRequest.layout.read q with
    | .ok r => .ofResult ((d.view key r).map ViewOutput.toJson)
    | .error status => .bare status

/-- The response to a change, and the desk after it. -/
def takeChange (d : Desk) (person : String) (q : Request) : Response × Desk :=
  match segmentText? person with
  | none => (.bare 400, d)
  | some person =>
    match readBody changedFields q with
    | .ok fields =>
      match d.update ⟨person, fields⟩ with
      | .ok after => (.bare 204, after)
      | .error e => (.ofError e, d)
    | .error status => (.bare status, d)

/-- The response of a route that is served for the method of a request, and the desk after it. -/
def serve (started : Bool) (d : Desk) (q : Request) (route : Route) : Response × Desk :=
  match route with
  | .view key => (showView d key q, d)
  | .change person => takeChange d person q
  | route =>
    let r := look d started route (q.query.getD "")
    (if q.method = "HEAD" then .bare r.status else r, d)

/-- The response to a request, and the desk after it. -/
def respond (started : Bool) (d : Desk) (q : Request) : Response × Desk :=
  match Route.ofPath? q.path with
  | none => (.bare 404, d)
  | some route => if route.serves q.method then serve started d q route else (.bare 405, d)

/-- The desk after requests one after another. -/
def afterAll (started : Bool) (d : Desk) (requests : List Request) : Desk :=
  requests.foldl (fun d q => (respond started d q).2) d

end Web

end RetreatDesk
