import RetreatDesk.Reading.Problem
import RetreatDesk.Keyed.Sorted

/-!
# Readers

A reader takes what it looks for out of a draft, or tells the first problem in reading order. Scalars are read
loosely: a flag from any value, a text or an amount from whatever can be taken for one.

* `Reader.flag`, `Reader.label`, `Reader.note`, `Reader.amount`: scalars.
* `Reader.orBlank`: `null` stands for a blank.
* `Reader.entries`, `Reader.items`: every entry of a record, every item of a list.
* `Reader.each`, `Reader.sound`: lists whose bad items are neutralised or left out.
-/

namespace RetreatDesk

/-- Takes a value out of a draft. -/
abbrev Reader (α : Type) := Draft → Except Problem α

/-- Goes on unless there is a fault. -/
def passGap : Option Fault → Except Problem Unit
  | none => .ok ()
  | some fault => .error (.unreadable fault)

/-- The parts of a container and what is wrong behind them. -/
structure Parts (α : Type) where
  parts : List α
  /-- The fault after the last part. -/
  gap : Option Fault
  /-- Whether the parts belong to a value that has been read already. -/
  settled : Bool

namespace Draft

/-- The fields of a record. -/
def fields? : Draft → Option (Parts (Option String × Draft))
  | .value (.record fields) => some ⟨fields.map fun (k, v) => (some k, .value v), none, true⟩
  | .record fields gap => some ⟨fields, gap, false⟩
  | _ => none

/-- The items of a list. -/
def items? : Draft → Option (Parts Draft)
  | .value (.list items) => some ⟨items.map .value, none, true⟩
  | .list items gap => some ⟨items, gap, false⟩
  | _ => none

end Draft

namespace Reader

variable {α : Type}

/-! ## Scalars -/

/-- Any value. -/
def json : Reader Json := fun d =>
  match d.json? with
  | .ok v => .ok v
  | .error fault => .error (.unreadable fault)

/-- Passes over anything. -/
def skip : Reader Unit := fun d =>
  match d.skip with
  | .ok () => .ok ()
  | .error fault => .error (.unreadable fault)

/-- Whether the value says yes. -/
def flag : Reader Bool := fun d => do return (← json d).isSet

/-- The value as a text, empty when it cannot be taken for one. -/
def label : Reader String := fun d => do return ((← json d).text?).getD ""

/-- The value as a text, if it is one and not blank. -/
def note : Reader (Option String) := fun d => do
  return ((← json d).text?).filter (!Text.allBlank ·)

/-- The value as a number, nought when it cannot be taken for one. -/
def amount : Reader Float := fun d => do return ((← json d).amount?).getD 0.0

/-- A text and nothing else. -/
def text (wanted : Wanted) : Reader String
  | .value (.text s) => .ok s
  | d => .error (d.unlike wanted)

/-! ## Containers -/

/-- A blank for `null`. -/
def orBlank (blank : α) (r : Reader α) : Reader α
  | .value .null => .ok blank
  | d => r d

/-- A value that may be `null`. -/
def optional (r : Reader α) : Reader (Option α)
  | .value .null => .ok none
  | d => some <$> r d

/-- The fields one after another, each read alike. -/
def eachField (r : Reader α) : List (Option String × Draft) → Except Problem (List (String × α))
  | [] => .ok []
  | (none, _) :: _ => .error (.unreadable .malformed)
  | (some k, d) :: rest => do
    let v ← r d
    let vs ← eachField r rest
    return (k, v) :: vs

/-- Every entry of a record, in order, repeated names included. -/
def entries (r : Reader α) : Reader (List (String × α)) := fun d =>
  match d.fields? with
  | none => .error (d.unlike .map)
  | some fs => do
    let es ← eachField r fs.parts
    passGap fs.gap
    return es

/-- The items one after another, each read alike. -/
def eachItem (r : Reader α) : List Draft → Except Problem (List α)
  | [] => .ok []
  | d :: rest => do
    let v ← r d
    let vs ← eachItem r rest
    return v :: vs

/-- Every item of a list. -/
def items (r : Reader α) : Reader (List α) := fun d =>
  match d.items? with
  | none => .error (d.unlike .sequence)
  | some ds => do
    let vs ← eachItem r ds.parts
    passGap ds.gap
    return vs

/-- Entries by name, smallest first; `null` stands for none. -/
def sorted (r : Reader α) : Reader (Sorted α) :=
  orBlank .empty fun d => Sorted.ofList <$> entries r d

/-- Entries in the order of the document; `null` stands for none. -/
def listed (r : Reader α) : Reader (Listed α) :=
  orBlank .empty fun d => Listed.ofList <$> entries r d

/-- Texts by name; entries that cannot be taken for a text are left out. -/
def labels : Reader (Sorted String) :=
  orBlank .empty fun d => do
    let m := Sorted.ofList (← entries json d)
    return Sorted.ofList (m.entries.filterMap fun (k, v) => v.text?.map (k, ·))

/-- Values looked at one by one after the whole list has been read. -/
def values : Reader (List Json) := orBlank [] (items json)

/-- What a value holds, if it holds what is looked for. -/
def ofJson? (r : Reader α) (v : Json) : Option α := (r (.value v)).toOption

/-- Every item of a list; an item that does not fit becomes the stand-in. -/
def each (standIn : α) (r : Reader α) : Reader (List α) := fun d => do
  return (← values d).map fun v => (ofJson? r v).getD standIn

/-- The items of a list that fit. -/
def sound (r : Reader α) : Reader (List α) := fun d => do
  return (← values d).filterMap (ofJson? r)

/-- What a whole text holds. -/
def ofText (r : Reader α) (s : String) : Except Problem α := do
  let doc := Document.ofText s
  let a ← r doc.root
  if doc.trailing then .error (.unreadable .malformed) else .ok a

end Reader

end RetreatDesk
