import Mathlib.Data.List.Infix
import RetreatDesk.Account.Summary

/-!
# The retreats that are charged

* `Program.charged`: the picked retreats that have a price, as many as the limit allows.
* `Program.total_account`: what is owed is the sum of their prices.
* `Program.stillCharged_of_prefix`: picks that come after the others do not take the place of a charged retreat, and once
  the limit is reached they are not charged at all.
-/

namespace RetreatDesk.Program

/-- The picked retreats that have a price, in the order of the form. -/
def priced (prices : Sorted RetreatPrice) (picks : List (String × Bool)) : List String :=
  (picks.filter fun e => e.2 && (prices.get? e.1).isSome).map (·.1)

/-- The retreats that are charged, in the order in which their prices are added up. -/
def charged (r : Program) (prices : Sorted RetreatPrice) : List String :=
  (priced prices r.whichRetreats.entries).take r.chargeLimit

def priceOf (prices : Sorted RetreatPrice) (retreat : String) : Float := ((prices.get? retreat).map (·.total)).getD 0.0

variable {prices : Sorted RetreatPrice}

theorem priced_append (picks later : List (String × Bool)) :
    priced prices (picks ++ later) = priced prices picks ++ priced prices later := by
  rw [priced, List.filter_append, List.map_append]
  rfl

theorem priced_cons_of_charged {retreat : String} {price : RetreatPrice} (h : prices.get? retreat = some price)
    (rest : List (String × Bool)) : priced prices ((retreat, true) :: rest) = retreat :: priced prices rest := by
  simp [priced, h]

theorem priced_cons_of_free {retreat : String} {picked : Bool} (h : picked = true → prices.get? retreat = none)
    (rest : List (String × Bool)) : priced prices ((retreat, picked) :: rest) = priced prices rest := by
  cases picked with
  | false => simp [priced]
  | true => simp [priced, h rfl]

/-- The induction is along the form; the limit goes down with every retreat that is charged. -/
theorem charge_eq (picks : List (String × Bool)) (limit : Nat) (sum : Float) :
    charge prices limit sum picks =
      ((priced prices picks).take limit).foldl (fun sum retreat => sum + priceOf prices retreat) sum := by
  induction picks generalizing limit sum with
  | nil => rw [charge, priced, List.filter_nil, List.map_nil, List.take_nil, List.foldl_nil]
  | cons e rest ih =>
    obtain ⟨retreat, picked⟩ := e
    cases limit with
    | zero => rw [charge, List.take_zero, List.foldl_nil]
    | succ left =>
      by_cases hcharged : picked = true ∧ ∃ price, prices.get? retreat = some price
      · obtain ⟨rfl, price, hprice⟩ := hcharged
        have hsum : sum + priceOf prices retreat = sum + price.total := by rw [priceOf, hprice]; rfl
        rw [priced_cons_of_charged hprice, List.take_succ_cons, List.foldl_cons, hsum, ← ih, charge]
        simp only [hprice]
      · have hfree : picked = true → prices.get? retreat = none := fun hpicked =>
          Option.eq_none_iff_forall_ne_some.mpr fun price hprice => hcharged ⟨hpicked, price, hprice⟩
        rw [priced_cons_of_free hfree, ← ih, charge]
        exact fun price hpicked hprice => hcharged ⟨hpicked, price, hprice⟩

/-- What is owed is the sum of the prices of the retreats that are charged. -/
theorem total_account (r : Program) (subEvent : Option String) (config : EventConfig) :
    (r.account subEvent config).total =
      (r.charged config.prices).foldl (fun sum retreat => sum + priceOf config.prices retreat) 0.0 :=
  charge_eq r.whichRetreats.entries r.chargeLimit 0.0

/-- Whatever is charged for the one program is charged first for the other, and nothing else if the limit is reached.
For both programs, what is charged makes up what is owed. -/
structure StillCharged (r r' : Program) : Prop where
  charged : ∀ prices, r.charged prices <+: r'.charged prices
  owed : ∀ (config : EventConfig) subEvent, ∀ s ∈ [r, r'],
    (s.account subEvent config).total =
      (s.charged config.prices).foldl (fun sum retreat => sum + priceOf config.prices retreat) 0.0
  total : ∀ config : EventConfig, (r.charged config.prices).length = r.chargeLimit → ∀ subEvent,
    (r'.account subEvent config).total = (r.account subEvent config).total

/-- Picks that come after the others do not take the place of a charged retreat. -/
theorem stillCharged_of_prefix {r r' : Program} (hpicks : r.whichRetreats.entries <+: r'.whichRetreats.entries)
    (hlimit : r'.limitFee = r.limitFee) : r.StillCharged r' := by
  have hsame : r'.chargeLimit = r.chargeLimit := by rw [chargeLimit, hlimit]; rfl
  have hfirst : ∀ prices, r.charged prices <+: r'.charged prices := by
    intro prices
    obtain ⟨later, hlater⟩ := hpicks
    rw [charged, charged, hsame, ← hlater, priced_append]
    exact List.IsPrefix.take (List.prefix_append _ _) _
  refine ⟨hfirst, fun config subEvent s _ => total_account s subEvent config, fun config hfull subEvent => ?_⟩
  have hlength : (r'.charged config.prices).length ≤ (r.charged config.prices).length := by
    rw [hfull, ← hsame]
    exact List.length_take_le _ _
  rw [total_account, total_account, (hfirst config.prices).eq_of_length_le hlength]

end RetreatDesk.Program
