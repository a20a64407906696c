import RetreatDesk.Json.Lexeme

/-!
# Reading a document

* `Document.ofText`: the draft that a text holds, and whether something follows it.
* `Draft.json?`: the value of a draft, or its first fault in reading order.
* `Draft.skip`: passes over a draft nobody wants, which forgives flaws but no fault.
* `Json.ofText?`: the value that a whole text holds.
-/

namespace RetreatDesk

/-! ## Putting lexemes together -/

/-- A container that has been opened and not closed. Its parts stand last one first. -/
inductive Frame where
  /-- A list with its items so far. -/
  | list (done : List Draft)
  /-- A record with its fields so far and the name that waits for a value. -/
  | record (done : List (Option String × Draft)) (name : Option String)

/-- What is due next. -/
inductive Turn where
  /-- A value, or the end of the list that was just opened. -/
  | value (closable : Bool)
  /-- A name, or the end of the record that was just opened. -/
  | name (closable : Bool)
  /-- The mark after a name. -/
  | colon
  /-- A comma, or the end of the container. -/
  | next

/-- A document: one draft, and whether more text follows it. -/
structure Document where
  /-- What the text holds. -/
  root : Draft
  /-- Whether something other than blanks follows. -/
  trailing : Bool

/-- The depth of containers from which on they have no value. -/
def depthLimit : Nat := 128

namespace Frame

/-- The container with one more value. -/
def take : Frame → Draft → Frame
  | .list done, d => .list (d :: done)
  | .record done name, d => .record ((name, d) :: done) none

/-- The container as a draft, with `around` containers open around it. -/
def close (around : Nat) (gap : Option Fault) (f : Frame) : Draft :=
  let d := match f with
    | .list done => Draft.list done.reverse gap
    | .record done _ => Draft.record done.reverse gap
  if depthLimit ≤ around + 1 then .flawed d else d

end Frame

/-- Ends the document with a value in the innermost container: nothing after it can be read. -/
def abandon (d : Draft) : List Frame → Draft
  | [] => d
  | f :: around => abandon ((f.take d).close around.length none) around

/-- Ends the document after the last part of the innermost container. -/
def abandonGap (fault : Fault) : List Frame → Draft
  | [] => .torn fault
  | f :: around => abandon (f.close around.length (some fault)) around

namespace Turn

/-- The document that ends here although something is due. -/
def atEnd (turn : Turn) (frames : List Frame) : Draft :=
  match turn with
  | .value _ | .colon => abandon (.torn .unfinished) frames
  | .name _ | .next => abandonGap .unfinished frames

/-- The document in which something else stands here. -/
def atOther (turn : Turn) (frames : List Frame) : Draft :=
  match turn with
  | .value _ | .colon => abandon (.torn .malformed) frames
  | .name _ | .next => abandonGap .malformed frames

end Turn

/-- Whether a lexeme ends the container. -/
def Frame.endsWith : Frame → Lexeme → Bool
  | .list _, .listClose => true
  | .record _ _, .recordClose => true
  | _, _ => false

/-- The turn after a comma. -/
def Frame.afterComma : Frame → Turn
  | .list _ => .value false
  | .record _ _ => .name false

/-- Puts the lexemes together, given what is due and the containers that are open, innermost first. -/
def assemble (turn : Turn) (frames : List Frame) : List Lexeme → Document
  | [] => ⟨turn.atEnd frames, false⟩
  | l :: rest =>
    match turn, frames, l with
    | .value _, frames, .listOpen => assemble (.value true) (.list [] :: frames) rest
    | .value _, frames, .recordOpen => assemble (.name true) (.record [] none :: frames) rest
    | .value _, frames, .word d =>
      match d, frames with
      | .broken _ _, frames => ⟨abandon d frames, false⟩
      | d, [] => ⟨d, !rest.isEmpty⟩
      | d, f :: around => assemble .next (f.take d :: around) rest
    | .value _, frames, .text s =>
      let d := match s with
        | some s => Draft.value (.text s)
        | none => .flawed (.value .null)
      match frames with
      | [] => ⟨d, !rest.isEmpty⟩
      | f :: around => assemble .next (f.take d :: around) rest
    | .value _, frames, .tornText reading skipping => ⟨abandon (.broken reading skipping) frames, false⟩
    | .value true, f :: around, l =>
      if f.endsWith l then shut f around rest else ⟨Turn.atOther (.value true) (f :: around), false⟩
    | .name _, .record done _ :: around, .text s => assemble .colon (.record done s :: around) rest
    | .name _, frames, .tornText reading skipping =>
      if reading = skipping then ⟨abandonGap reading frames, false⟩
      else ⟨abandon (.broken reading skipping) frames, false⟩
    | .name true, f :: around, l =>
      if f.endsWith l then shut f around rest else ⟨Turn.atOther (.name true) (f :: around), false⟩
    | .colon, frames, .colon => assemble (.value false) frames rest
    | .next, f :: around, .comma => assemble f.afterComma (f :: around) rest
    | .next, f :: around, l =>
      if f.endsWith l then shut f around rest else ⟨Turn.atOther .next (f :: around), false⟩
    | turn, frames, _ => ⟨turn.atOther frames, false⟩
where
  /-- Closes a container and hands it to the one around it. -/
  shut (f : Frame) (around : List Frame) (rest : List Lexeme) : Document :=
    let d := f.close around.length none
    match around with
    | [] => ⟨d, !rest.isEmpty⟩
    | g :: around => assemble .next (g.take d :: around) rest

/-- The document that a text holds. -/
def Document.ofText (s : String) : Document := assemble (.value false) [] (lex s)

/-! ## Values of drafts -/

namespace Draft

mutual

/-- The value of a draft, or its first fault. Of fields with one name the last value counts. -/
def json? : Draft → Except Fault Json
  | .value v => .ok v
  | .list items gap => do
    let vs ← jsons? items
    match gap with
    | some fault => .error fault
    | none => .ok (.list vs)
  | .record fields gap => do
    let fs ← jsonFields? [] fields
    match gap with
    | some fault => .error fault
    | none => .ok (.record fs)
  | .broken reading _ => .error reading
  | .flawed _ => .error .malformed

/-- The values of drafts in order. -/
def jsons? : List Draft → Except Fault (List Json)
  | [] => .ok []
  | d :: rest => do
    let v ← json? d
    let vs ← jsons? rest
    return v :: vs

/-- The fields in order, after those already read. -/
def jsonFields? (done : List (String × Json)) :
    List (Option String × Draft) → Except Fault (List (String × Json))
  | [] => .ok done
  | (name, d) :: rest =>
    match name with
    | none => .error .malformed
    | some name => do
      let v ← json? d
      jsonFields? (put name v done) rest

end

mutual

/-- Passes over a draft. -/
def skip : Draft → Except Fault Unit
  | .value _ => .ok ()
  | .list items gap => do
    skipItems items
    match gap with
    | some fault => .error fault
    | none => .ok ()
  | .record fields gap => do
    skipFields fields
    match gap with
    | some fault => .error fault
    | none => .ok ()
  | .broken _ skipping => .error skipping
  | .flawed inner => skip inner

/-- Passes over drafts in order. -/
def skipItems : List Draft → Except Fault Unit
  | [] => .ok ()
  | d :: rest => do
    skip d
    skipItems rest

/-- Passes over fields in order. -/
def skipFields : List (Option String × Draft) → Except Fault Unit
  | [] => .ok ()
  | (_, d) :: rest => do
    skip d
    skipFields rest

end

end Draft

/-- The value that a whole text holds. -/
def Json.ofText? (s : String) : Except Fault Json := do
  let doc := Document.ofText s
  let v ← doc.root.json?
  if doc.trailing then .error .malformed else .ok v

end RetreatDesk
