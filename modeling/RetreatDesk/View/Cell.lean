import RetreatDesk.View.Column
import RetreatDesk.View.Scope
import RetreatDesk.Decimal.Fixed

/-!
# Cells

* `Cell`: a truth value, a number or a text.
* `Cell.text`: whole numbers without places, others with two.
* `ColumnKind.cell`: what a column shows of a person. Each column is looked up on its own.
-/

namespace RetreatDesk

/-- What stands in a row under a column. -/
inductive Cell where
  | bool (b : Bool)
  | number (x : Float)
  | text (s : String)

namespace Cell

/-- The cell of a column without a meaning. -/
def unknown : Cell := .text "unknown"

/-- A cell with nothing in it. -/
def empty : Cell := .text ""

def toJson : Cell → Json
  | bool b => .bool b
  | number x => .ofFloat x
  | text s => .text s

/-- The cell as it stands in a table. -/
def display : Cell → String
  | bool b => if b then "true" else "false"
  | number x => if Decimal.isWhole x then Decimal.fixed 0 x else Decimal.fixed 2 x
  | text s => s

end Cell

/-- The program that a column looks at. -/
def Whose.program? (s : Scope) (p : Participant) : Whose → Option Program
  | .current => s.program? p
  | .event aid => p.program? aid

/-- The events that a person attended. -/
def Participant.attendedEvents (p : Participant) : List String :=
  (p.programs.entries.filter (·.2.attended)).map (·.1)

/-- An amount of a person's account. -/
def Scope.amountCell (s : Scope) (p : Participant) (pick : Account → Float) : Cell :=
  match s.account? p with
  | some a => .number (pick a)
  | none => .unknown

/-- What a predefined column shows of a person. -/
def Predefined.cell (s : Scope) (p : Participant) (column : Predefined) : Cell :=
  match column with
  | .id => .text p.id
  | .name => .text p.fullName
  | .first => .text p.first
  | .last => .text p.last
  | .email => .text p.email
  | .offering => .bool ((s.offeringStatus? p none).any (·.complete))
  | .deposit => .bool ((s.offeringStatus? p none).any (·.depositMade))
  | .installmentsTotal => s.amountCell p (·.total)
  | .installmentsReceived => s.amountCell p (·.received)
  | .installmentsDue => s.amountCell p (·.due)
  | .installmentsRefunded => s.amountCell p (·.refunded)
  | .lastPayment => .text (((s.account? p).bind (·.lastPayment)).getD "")
  | .spokenLanguage => .text p.spokenLanguage
  | .writtenLanguage => .text p.writtenLanguage
  | .history => .text (String.intercalate ", " p.attendedEvents)
  | column => .bool ((s.program? p).any (·.flag column.field))

/-- What a column shows of a person. -/
def ColumnKind.cell (s : Scope) (p : Participant) : ColumnKind → Cell
  | .poolMember pool => .bool (s.isMember p pool)
  | .programFlag whose name => .bool ((whose.program? s p).any (·.flag name))
  | .programMapFlag whose map name => .bool (((whose.program? s p).bind (·.mapFlag map name)).getD false)
  | .programMapList map =>
    .text (((s.program? p).map fun r => String.intercalate ", " (r.mapKeys map)).getD "")
  | .programText whose name => .text (((whose.program? s p).bind (·.text? name)).getD "")
  | .programNumber whose name =>
    match (whose.program? s p).bind (·.number? name) with
    | some x => .number x
    | none => .empty
  | .baseFlag name => .bool (p.flag name)
  | .baseText name => .text ((p.text? name).getD "")
  | .practiceFlag name => .bool (p.practises name)
  | .offeringCount =>
    .number (Decimal.ofInt (p.programs.values.countP (·.hasOffering Program.anySubEvent)))
  | .predefined column => column.cell s p
  | .unknown => .unknown

/-- One cell for each column. -/
def Plan.row (s : Scope) (p : Participant) (plan : Plan) : List Cell :=
  plan.columns.map (·.kind.cell s p)

end RetreatDesk
