import RetreatDesk.Json.Draft
import RetreatDesk.Text.Quoted

/-!
# Problems with a document

* `Problem`: why a document does not hold what was looked for.
* `Problem.message`: the wording of a problem.
-/

namespace RetreatDesk

/-- What stands in a document, told apart by kind. -/
inductive Found where
  | null
  | bool (b : Bool)
  | integer (n : Int)
  | floating (x : Float)
  | text (s : String)
  | sequence
  | map

/-- What was looked for. -/
inductive Wanted where
  | map
  | sequence
  | string
  /-- The tag of a tagged record. -/
  | tag
  /-- Something with a name of its own. -/
  | named (title : String)

/-- How many items were looked for. -/
inductive Extent where
  /-- No more than were taken. -/
  | fewer
  /-- One for each field. -/
  | fields (title : String) (count : Nat)
  /-- The items after a tag. -/
  | afterTag (count : Nat)

/-- Why a document does not hold what was looked for. -/
inductive Problem where
  /-- The text is no document. -/
  | unreadable (fault : Fault)
  | missing (field : String)
  /-- A field is there twice. -/
  | repeated (field : String)
  /-- Something else stands there. -/
  | wrongKind (found : Found) (wanted : Wanted)
  /-- A list is too short or too long. -/
  | wrongLength (length : Nat) (wanted : Extent)

/-- The kind of a value. -/
def Json.found : Json → Found
  | .null => .null
  | .bool b => .bool b
  | .number (.whole n) => .integer n
  | .number (.real x) => .floating x
  | .text s => .text s
  | .list _ => .sequence
  | .record _ => .map

/-- The kind of a draft. A container shows its kind before its parts are looked at. -/
def Draft.found? : Draft → Except Fault Found
  | .value v => .ok v.found
  | .list _ _ => .ok .sequence
  | .record _ _ => .ok .map
  | .broken reading _ => .error reading
  | .flawed (.list _ _) => .ok .sequence
  | .flawed (.record _ _) => .ok .map
  | .flawed _ => .error .malformed

/-- The problem that a draft is not what was looked for. -/
def Draft.unlike (d : Draft) (wanted : Wanted) : Problem :=
  match d.found? with
  | .ok found => .wrongKind found wanted
  | .error fault => .unreadable fault

/-! ## Wording -/

/-- A text between grave accents. -/
def ticked (s : String) : String := "`" ++ s ++ "`"

/-- The wording of what stands in a document. -/
def Found.message : Found → String
  | .null => "null"
  | .bool b => "boolean " ++ ticked (if b then "true" else "false")
  | .integer n => "integer " ++ ticked n.repr
  | .floating x => "floating point " ++ ticked (Decimal.text x)
  | .text s => "string " ++ Text.quoted s
  | .sequence => "sequence"
  | .map => "map"

/-- The wording of what was looked for. -/
def Wanted.message : Wanted → String
  | .map => "a map"
  | .sequence => "a sequence"
  | .string => "a string"
  | .tag => "variant identifier"
  | .named title => title

/-- A number of items. -/
def elements (n : Nat) : String := n.repr ++ (if n = 1 then " element" else " elements")

/-- The wording of how many items were looked for. -/
def Extent.message : Extent → String
  | .fewer => "fewer elements in array"
  | .fields title count => title ++ " with " ++ elements count
  | .afterTag count => elements count ++ " in sequence"

/-- The wording of a problem. A text that is no document has none. -/
def Problem.message : Problem → String
  | .unreadable _ => ""
  | .missing field => "missing field " ++ ticked field
  | .repeated field => "duplicate field " ++ ticked field
  | .wrongKind found wanted => "invalid type: " ++ found.message ++ ", expected " ++ wanted.message
  | .wrongLength length wanted => "invalid length " ++ length.repr ++ ", expected " ++ wanted.message

end RetreatDesk
