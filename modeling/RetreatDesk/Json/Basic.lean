import RetreatDesk.Decimal.Shortest
import RetreatDesk.Decimal.Numeral
import RetreatDesk.Text.Blank
import RetreatDesk.Keyed.Listed

/-!
# JSON values

* `Json`: values of a JSON document. Records keep the order of their fields.
* `isSet`: whether a value says yes: anything but `null`, `false`, zero and the empty text, list or record.
* `text?`, `amount?`: a value taken as a text or as a number, where it can be.
-/

namespace RetreatDesk

/-- A number of a JSON document. -/
inductive Number where
  /-- A whole number within sixty-four bits. -/
  | whole (n : Int)
  /-- Any other number. -/
  | real (x : Float)

/-- The number as a `Float`, to the nearest. -/
def Number.toFloat : Number → Float
  | .whole n => Decimal.ofInt n
  | .real x => x

def Number.text : Number → String
  | .whole n => n.repr
  | .real x => Decimal.text x

/-- A value of a JSON document. -/
inductive Json where
  | null
  | bool (b : Bool)
  | number (n : Number)
  | text (s : String)
  | list (items : List Json)
  | record (fields : List (String × Json))

namespace Json

instance : Inhabited Json := ⟨.null⟩

/-- A whole number as a value. -/
def ofNat (n : Nat) : Json := .number (.whole n)

/-- A `Float` as a value; what is not finite has no numeral and becomes `null`. -/
def ofFloat (x : Float) : Json := if Decimal.isFinite x then .number (.real x) else .null

/-- A list of texts as a value. -/
def ofTexts (texts : List String) : Json := .list (texts.map .text)

/-- The fields of a record; other values have none. -/
def fields : Json → List (String × Json)
  | .record fields => fields
  | _ => []

/-- Whether the value is a record. -/
def isRecord : Json → Bool
  | .record _ => true
  | _ => false

/-- The value under a name, in a record. -/
def get? (v : Json) (name : String) : Option Json := v.fields.lookup name

/-! ## Reading a value loosely -/

/-- Whether the value says yes. -/
def isSet : Json → Bool
  | .null => false
  | .bool b => b
  | .number n => !(n.toFloat == 0.0)
  | .text s => !s.isEmpty
  | .list items => !items.isEmpty
  | .record fields => !fields.isEmpty

/-- The value as a text: texts, numbers and truth values have one. -/
def text? : Json → Option String
  | .text s => some s
  | .number n => some n.text
  | .bool b => some (if b then "true" else "false")
  | _ => none

/-- The value as a number: numbers are, and texts that hold a numeral. -/
def amount? : Json → Option Float
  | .number n => some n.toFloat
  | .text s => Decimal.numeral? (Text.trim s)
  | _ => none

end Json

end RetreatDesk
