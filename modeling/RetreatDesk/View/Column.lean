import RetreatDesk.Registry.View
import RetreatDesk.Text.Part

/-!
# Columns

* `Predefined`: the columns known by their plain names.
* `Marker`: the parts of a name that tell the kind of a column, the most telling first.
* `Column`: a column ready for use, with exactly the parameters that its kind needs.
* `Column.of`: the column that a definition stands for.
* `Plan.of`: the columns of a view, each name once, with the hidden columns added.
-/

namespace RetreatDesk

/-! ## Predefined columns -/

/-- The columns known by their plain names. -/
inductive Predefined where
  | id
  | name
  | first
  | last
  | email
  | accepted
  | withdrawn
  | join
  | attended
  | allow
  | oath
  | eligible
  | manualInclude
  | test
  | limitFee
  | offering
  | deposit
  | installmentsTotal
  | installmentsReceived
  | installmentsDue
  | installmentsRefunded
  | lastPayment
  | spokenLanguage
  | writtenLanguage
  | owyaa
  | history
  deriving DecidableEq

namespace Predefined

def all : List Predefined :=
  [id, name, first, last, email, accepted, withdrawn, join, attended, allow, oath, eligible, manualInclude, test,
   limitFee, offering, deposit, installmentsTotal, installmentsReceived, installmentsDue, installmentsRefunded,
   lastPayment, spokenLanguage, writtenLanguage, owyaa, history]

/-- The plain name. -/
def field : Predefined → String
  | id => "id"
  | name => "name"
  | first => "first"
  | last => "last"
  | email => "email"
  | accepted => "accepted"
  | withdrawn => "withdrawn"
  | join => "join"
  | attended => "attended"
  | allow => "allow"
  | oath => "oath"
  | eligible => "eligible"
  | manualInclude => "manualInclude"
  | test => "test"
  | limitFee => "limitFee"
  | offering => "offering"
  | deposit => "deposit"
  | installmentsTotal => "installmentsTotal"
  | installmentsReceived => "installmentsReceived"
  | installmentsDue => "installmentsDue"
  | installmentsRefunded => "installmentsRefunded"
  | lastPayment => "lastPayment"
  | spokenLanguage => "spokenLanguage"
  | writtenLanguage => "writtenLanguage"
  | owyaa => "owyaa"
  | history => "history"

/-- The text at the head of the column. -/
def label : Predefined → String
  | id => "ID"
  | name => "Name"
  | first => "First"
  | last => "Last"
  | email => "Email"
  | accepted => "Accepted"
  | withdrawn => "Withdrawn"
  | join => "Joined"
  | attended => "Attended"
  | allow => "Allowed"
  | oath => "Oath"
  | eligible => "Eligible"
  | manualInclude => "Manual Include"
  | test => "Test"
  | limitFee => "Limit Fee"
  | offering => "Offering"
  | deposit => "Deposit"
  | installmentsTotal => "Total"
  | installmentsReceived => "Received"
  | installmentsDue => "Balance Due"
  | installmentsRefunded => "Refunded"
  | lastPayment => "Last Payment"
  | spokenLanguage => "Spoken Language"
  | writtenLanguage => "Written Language"
  | owyaa => "OWYAA"
  | history => "History"

/-- The predefined column with a plain name. -/
def ofField? (name : String) : Option Predefined := all.find? (·.field = name)

end Predefined

/-! ## Kinds of columns -/

/-- Whose program a column looks at. -/
inductive Whose where
  | current
  | event (aid : String)
  deriving DecidableEq

/-- What a column shows. -/
inductive ColumnKind where
  /-- Whether the person belongs to a pool. -/
  | poolMember (pool : String)
  /-- Whether a field of a program says yes. -/
  | programFlag (whose : Whose) (name : String)
  /-- Whether an entry of a map of a program says yes. -/
  | programMapFlag (whose : Whose) (map name : String)
  /-- The entries of a map of the current program that say yes. -/
  | programMapList (map : String)
  | programText (whose : Whose) (name : String)
  | programNumber (whose : Whose) (name : String)
  /-- Whether a field of the person says yes. -/
  | baseFlag (name : String)
  /-- A field of the person as text. -/
  | baseText (name : String)
  /-- Whether the person practises something. -/
  | practiceFlag (name : String)
  /-- For how many events the person booked. -/
  | offeringCount
  | predefined (column : Predefined)
  /-- Nothing that is known. -/
  | unknown
  deriving DecidableEq

namespace ColumnKind

def toJson : ColumnKind → Json
  | poolMember pool => .record [("kind", .text "poolMember"), ("pool", .text pool)]
  | programFlag .current name => .record [("kind", .text "currentAidBool"), ("boolName", .text name)]
  | programFlag (.event aid) name =>
    .record [("kind", .text "specifiedAidBool"), ("aid", .text aid), ("boolName", .text name)]
  | programMapFlag .current map name =>
    .record [("kind", .text "currentAidMapBool"), ("map", .text map), ("boolName", .text name)]
  | programMapFlag (.event aid) map name =>
    .record [("kind", .text "specifiedAidMapBool"), ("aid", .text aid), ("map", .text map),
      ("boolName", .text name)]
  | programMapList map => .record [("kind", .text "currentAidMapList"), ("map", .text map)]
  | programText .current name => .record [("kind", .text "currentAidString"), ("stringName", .text name)]
  | programText (.event aid) name =>
    .record [("kind", .text "specifiedAidString"), ("aid", .text aid), ("stringName", .text name)]
  | programNumber .current name => .record [("kind", .text "currentAidNumber"), ("numberName", .text name)]
  | programNumber (.event aid) name =>
    .record [("kind", .text "specifiedAidNumber"), ("aid", .text aid), ("numberName", .text name)]
  | baseFlag name => .record [("kind", .text "baseBool"), ("boolName", .text name)]
  | baseText name => .record [("kind", .text "baseString"), ("stringName", .text name)]
  | practiceFlag name => .record [("kind", .text "practiceBool"), ("boolName", .text name)]
  | offeringCount => .record [("kind", .text "offeringCount")]
  | predefined column => .record [("kind", .text "predefined"), ("column", .text column.field)]
  | unknown => .record [("kind", .text "unknown")]

end ColumnKind

/-- A part of a name that tells the kind of a column. -/
inductive Marker where
  | poolMember
  | currentBool
  | specifiedBool
  | currentMapBool
  | currentMapList
  | specifiedMapBool
  | currentString
  | specifiedString
  | currentNumber
  | specifiedNumber
  | baseBool
  | baseString
  | practiceBool
  | offeringCount
  deriving DecidableEq

namespace Marker

/-- The markers, the most telling first. -/
def all : List Marker :=
  [poolMember, currentBool, specifiedBool, currentMapBool, currentMapList, specifiedMapBool, currentString,
   specifiedString, currentNumber, specifiedNumber, baseBool, baseString, practiceBool, offeringCount]

/-- The marker as it stands in a name. -/
def text : Marker → String
  | poolMember => "poolMember"
  | currentBool => "currentAIDBool"
  | specifiedBool => "specifiedAIDBool"
  | currentMapBool => "currentAIDMapBool"
  | currentMapList => "currentAIDMapList"
  | specifiedMapBool => "specifiedAIDMapBool"
  | currentString => "currentAIDString"
  | specifiedString => "specifiedAIDString"
  | currentNumber => "currentAIDNumber"
  | specifiedNumber => "specifiedAIDNumber"
  | baseBool => "baseBool"
  | baseString => "baseString"
  | practiceBool => "practiceBool"
  | offeringCount => "offeringCount"

/-- The most telling marker in a name. -/
def find? (name : String) : Option Marker := all.find? fun m => Text.hasPart name m.text

/-- A parameter without the blanks around it; a blank one counts as missing. -/
def parameter? (value : Option String) : Option String :=
  (value.map Text.trim).filter (!·.isEmpty)

/-- The kind of a column with this marker, if its definition has every parameter needed. -/
def kind? (m : Marker) (d : ColumnDef) : Option ColumnKind :=
  let aid := parameter? d.aid
  let map := parameter? d.map
  let boolName := (parameter? d.boolName).or (parameter? d.field)
  let stringName := (parameter? d.stringName).or (parameter? d.field)
  let numberName := (parameter? d.numberName).or (parameter? d.field)
  match m with
  | poolMember => return .poolMember (← parameter? d.pool)
  | currentBool => return .programFlag .current (← boolName)
  | specifiedBool => return .programFlag (.event (← aid)) (← boolName)
  | currentMapBool => return .programMapFlag .current (← map) (← boolName)
  | currentMapList => return .programMapList (← map)
  | specifiedMapBool => return .programMapFlag (.event (← aid)) (← map) (← boolName)
  | currentString => return .programText .current (← stringName)
  | specifiedString => return .programText (.event (← aid)) (← stringName)
  | currentNumber => return .programNumber .current (← numberName)
  | specifiedNumber => return .programNumber (.event (← aid)) (← numberName)
  | baseBool => return .baseFlag (← boolName)
  | baseString => return .baseText (← stringName)
  | practiceBool => return .practiceFlag (← boolName)
  | offeringCount => some .offeringCount

end Marker

/-! ## Columns ready for use -/

/-- A column ready for use. -/
structure Column where
  /-- The name it is addressed by. -/
  field : String
  /-- The text at its head. -/
  header : String
  /-- Whether it is left out of tables. -/
  hidden : Bool
  kind : ColumnKind

namespace Column

def toJson (c : Column) : Json :=
  .record [("field", .text c.field), ("header", .text c.header), ("hidden", .bool c.hidden),
    ("kind", c.kind.toJson)]

/-- The kind of column that a definition stands for. -/
def kindOf (d : ColumnDef) : ColumnKind :=
  match Marker.find? d.name with
  | some m => (m.kind? d).getD .unknown
  | none => ((Predefined.ofField? d.name).map .predefined).getD .unknown

/-- The text at the head: the one given, or one that fits the kind. -/
def headerOf (d : ColumnDef) : ColumnKind → String
  | .unknown => "unknown: " ++ d.name
  | .predefined column => d.header.getD column.label
  | _ => d.header.getD d.name

/-- The column that a definition stands for. -/
def of (d : ColumnDef) : Column :=
  let kind := kindOf d
  ⟨d.name, headerOf d kind, d.hidden, kind⟩

/-- A predefined column under its plain name. -/
def ofPredefined (column : Predefined) (hidden : Bool) : Column :=
  ⟨column.field, column.label, hidden, .predefined column⟩

end Column

/-- The columns of a view, in order. -/
structure Plan where
  columns : List Column

namespace Plan

def hasField (columns : List Column) (name : String) : Bool := columns.any (·.field = name)

/-- One more definition; a name already used is passed over. -/
def addDef (columns : List Column) (d : ColumnDef) : List Column :=
  if hasField columns d.name then columns else columns ++ [Column.of d]

/-- A hidden predefined column, unless its name is used. -/
def addHidden (columns : List Column) (column : Predefined) : List Column :=
  if hasField columns column.field then columns else columns ++ [Column.ofPredefined column true]

/-- The columns of a list of definitions, with the key and the history of the person added out of sight. -/
def of (defs : List ColumnDef) : Plan :=
  ⟨addHidden (addHidden (defs.foldl addDef []) .id) .history⟩

/-- The columns that are not hidden. -/
def visible (p : Plan) : List Column := p.columns.filter (!·.hidden)

def kind? (p : Plan) (name : String) : Option ColumnKind :=
  (p.columns.find? (·.field = name)).map (·.kind)

def toJson (p : Plan) : Json := .list (p.columns.map Column.toJson)

end Plan

end RetreatDesk
