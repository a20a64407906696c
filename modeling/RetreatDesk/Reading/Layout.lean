import RetreatDesk.Reading.Reader

/-!
# Layouts of records

A layout names the fields of a record and tells what each one does to the value being read. Fields are read in the
order of the document, so the first problem of the document is the one that is told; a missing field comes last.

* `Layout.read`: reads a record, or a list of the fields in declared order.
* `Tagged.read`: reads a record whose tag chooses its layout.
-/

namespace RetreatDesk

structure Layout (α : Type) where
  /-- What a reader of messages knows the record as. -/
  title : String
  /-- The declared fields, in order. -/
  fields : List String
  /-- The declared fields that have to be there. -/
  required : List String
  /-- The record before its first field. -/
  blank : α
  /-- What a declared field does. -/
  set : String → Draft → α → Except Problem α
  /-- What any other field does, where such fields are kept. -/
  keep : Option (String → Json → α → α)

namespace Layout

variable {α : Type} (l : Layout α)

/-! ## Records -/

/-- One field that is not declared: kept or passed over. -/
def other (name : String) (d : Draft) (a : α) : Except Problem α :=
  match l.keep with
  | some keep => do return keep name (← Reader.json d) a
  | none => do
    Reader.skip d
    return a

/-- The fields one after another. `seen` holds the declared fields met so far. -/
def readFields (seen : List String) (a : α) :
    List (Option String × Draft) → Except Problem (List String × α)
  | [] => .ok (seen, a)
  | (none, _) :: _ => .error (.unreadable .malformed)
  | (some name, d) :: rest =>
    if name ∈ l.fields then
      if name ∈ seen then .error (.repeated name)
      else do
        let a ← l.set name d a
        readFields (name :: seen) a rest
    else do
      let a ← l.other name d a
      readFields seen a rest

/-- A whole record. -/
def readRecord (parts : List (Option String × Draft)) (gap : Option Fault) : Except Problem α := do
  let (seen, a) ← l.readFields [] l.blank parts
  passGap gap
  match l.required.find? (· ∉ seen) with
  | some name => .error (.missing name)
  | none => .ok a

/-! ## Lists -/

/-- The end of a list that is shorter than the fields: all fields left must be ones that may be missing. -/
def shortList (index : Nat) : List String → Except Problem Unit
  | [] => .ok ()
  | name :: names =>
    if name ∈ l.required then
      .error (.wrongLength index (.fields l.title l.fields.length))
    else shortList (index + 1) names

/-- The items as the fields in declared order, and how many items are left over. -/
def readItems (gap : Option Fault) (index : Nat) (a : α) :
    List String → List Draft → Except Problem (α × Nat)
  | [], rest => .ok (a, rest.length)
  | name :: names, [] => do
    passGap gap
    l.shortList index (name :: names)
    return (a, 0)
  | name :: names, d :: rest => do
    let a ← l.set name d a
    readItems gap (index + 1) a names rest

/-- A whole list. `surplus` is the problem of items left over. -/
def readList (surplus : Problem) (parts : List Draft) (gap : Option Fault) : Except Problem α := do
  let (a, left) ← l.readItems gap 0 l.blank l.fields parts
  if left = 0 then
    passGap gap
    return a
  else .error surplus

/-! ## Either -/

/-- A record, or a list of its fields unless other fields are kept. -/
def read : Reader α := fun d =>
  match d.fields?, d.items? with
  | some fs, _ => l.readRecord fs.parts fs.gap
  | none, some ds =>
    if l.keep.isSome then .error (d.unlike (.named l.title))
    else
      let surplus := if ds.settled then .wrongLength ds.parts.length .fewer else .unreadable .malformed
      l.readList surplus ds.parts ds.gap
  | none, none => .error (d.unlike (.named l.title))

end Layout

/-! ## Tagged records -/

structure Tagged (α : Type) where
  /-- What a reader of messages knows the record as. -/
  title : String
  /-- The field that holds the tag. -/
  tag : String
  /-- The layout for each tag. -/
  layout : String → Layout α

namespace Tagged

variable {α : Type} (t : Tagged α)

/-- The tag and the other fields, in order. -/
def splitFields (tag : Option String) (others : List (String × Json)) :
    List (Option String × Draft) → Except Problem (Option String × List (String × Json))
  | [] => .ok (tag, others.reverse)
  | (none, _) :: _ => .error (.unreadable .malformed)
  | (some name, d) :: rest =>
    if name = t.tag then
      if tag.isSome then .error (.repeated name)
      else do
        let s ← Reader.text .tag d
        splitFields (some s) others rest
    else do
      let v ← Reader.json d
      splitFields tag ((name, v) :: others) rest

/-- A record, the tag among its fields. -/
def readRecord (parts : List (Option String × Draft)) (gap : Option Fault) : Except Problem α := do
  let (tag, others) ← t.splitFields none [] parts
  passGap gap
  match tag with
  | none => .error (.missing t.tag)
  | some tag => (t.layout tag).readRecord (others.map fun (k, v) => (some k, .value v)) none

/-- A list, the tag first and the fields in declared order after it. -/
def readList (parts : List Draft) (gap : Option Fault) : Except Problem α :=
  match parts with
  | [] => do
    passGap gap
    .error (.missing t.tag)
  | d :: rest => do
    let tag ← Reader.text .tag d
    let others ← Reader.eachItem Reader.json rest
    passGap gap
    let l := t.layout tag
    let surplus := Problem.wrongLength others.length (.afterTag l.fields.length)
    l.readList surplus (others.map .value) none

/-- A tagged record, or a list that starts with the tag. -/
def read : Reader α := fun d =>
  match d.fields?, d.items? with
  | some fs, _ => t.readRecord fs.parts fs.gap
  | none, some ds => t.readList ds.parts ds.gap
  | none, none => .error (d.unlike (.named t.title))

end Tagged

end RetreatDesk
