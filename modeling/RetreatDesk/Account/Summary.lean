import RetreatDesk.Registry.Event

/-!
# Accounts

* `Account`: what one person owes and has paid for one sub-event.
* `Program.account`: charges the picked retreats in the order of the form, up to a limit, and adds up the payments.
* `Program.offeringStatus?`: whether an offering was made and is complete.
-/

namespace RetreatDesk

/-- What is owed and has been paid. -/
structure Account where
  total : Float
  received : Float
  /-- What is left to pay. -/
  due : Float
  /-- What was paid back. -/
  refunded : Float
  /-- Whether anything was paid. -/
  depositMade : Bool
  /-- Whether everything was paid. -/
  complete : Bool
  /-- When the last payment came. -/
  lastPayment : Option String

namespace Account

def toJson (a : Account) : Json :=
  .record ([("total", .ofFloat a.total), ("received", .ofFloat a.received), ("due", .ofFloat a.due),
    ("refunded", .ofFloat a.refunded), ("depositMade", .bool a.depositMade),
    ("offeringComplete", .bool a.complete)] ++ optionalField "lastPaymentDate" a.lastPayment)

end Account

/-! ## Charges -/

/-- How many retreats are charged under the fee limit. -/
def limitedCharges : Nat := 2

/-- How many retreats are charged without it. -/
def unlimitedCharges : Nat := 100

namespace Program

/-- How many retreats are charged. -/
def chargeLimit (p : Program) : Nat := if p.limitFee then limitedCharges else unlimitedCharges

/-- Adds the prices of picked retreats to a sum, for at most `limit` retreats that have a price. -/
def charge (prices : Sorted RetreatPrice) (limit : Nat) (sum : Float) : List (String × Bool) → Float
  | [] => sum
  | (retreat, picked) :: rest =>
    match limit with
    | 0 => sum
    | left + 1 =>
      match picked, prices.get? retreat with
      | true, some price => charge prices left (sum + price.total) rest
      | _, _ => charge prices (left + 1) sum rest

end Program

/-! ## Payments -/

/-- The payment that records money paid back. -/
def refundName : String := "refunded"

/-- Payments added up. -/
structure Payments where
  received : Float := 0.0
  /-- What was paid back. -/
  refunded : Float := 0.0
  /-- When the last payment came in. -/
  last : Option String := none

namespace Payments

/-- One more payment. -/
def add (s : Payments) (name : String) (i : Installment) : Payments :=
  if name = refundName then { s with refunded := s.refunded + i.amount }
  else { s with received := s.received + i.amount, last := i.time.or s.last }

def ofOffering (o : Option Offering) : Payments :=
  match o with
  | none => {}
  | some o => o.installments.entries.foldl (fun s e => s.add e.1 e.2) {}

end Payments

/-! ## Accounts and states of offerings -/

/-- Whether a deposit was made for a sub-event, and whether the offering is complete. -/
structure OfferingStatus where
  depositMade : Bool
  /-- Everything was paid. -/
  complete : Bool
  deriving DecidableEq

namespace Program

def account (p : Program) (subEvent : Option String) (config : EventConfig) : Account :=
  let total := charge config.prices p.chargeLimit 0.0 p.whichRetreats.entries
  let paid := Payments.ofOffering (subEvent.bind p.offering?)
  let depositMade := decide (0.0 < paid.received)
  { total := total
    received := paid.received
    due := total - paid.received
    refunded := paid.refunded
    depositMade := depositMade
    complete := depositMade && decide (total ≤ paid.received)
    lastPayment := paid.last }

/-- The state of the offering for a sub-event; nothing where no offering is on record. Where payments are not
counted one by one an offering on record is complete. -/
def offeringStatus? (p : Program) (subEvent : Option String) (config : EventConfig) : Option OfferingStatus :=
  match subEvent with
  | none => none
  | some key =>
    if (p.offering? key).isNone then none
    else if config.countsInstallments then
      let a := p.account (some key) config
      some ⟨a.depositMade, a.complete⟩
    else some ⟨true, true⟩

end Program

end RetreatDesk
