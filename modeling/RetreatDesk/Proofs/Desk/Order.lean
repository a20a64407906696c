import RetreatDesk.Demo.Registry
import RetreatDesk.Proofs.Account.Charged
import RetreatDesk.Proofs.Desk.Changed
import RetreatDesk.Proofs.Registry.Order

/-!
# The order of picks and payments

Retreats are charged in the order of the form until the limit is reached, so it matters who stands first. A change goes
through sorted programs and offerings down to picks and payments in order, and leaves these where they stand.

* `Participant.picks_of_changed`, `Participant.payments_of_changed`: picks and payments of a person after a change.
* `Desk.update_keeps_order`: what a desk makes of a change that names picks or payments, and what is charged then.
-/

namespace RetreatDesk

open Json

namespace Participant

section
variable {current : Option Participant} (hcurrent : ∀ p ∈ current, p.Readable) {c : Change}
  (hc : (Json.record c.fields).Distinct) {q : Participant} (h : changed current c = .ok q) {aid : String} {r : Program}
  (hr : current.bind (·.program? aid) = some r) {w : List (String × Json)}

include hcurrent hc h hr

/-- The picks after a change are the picks before with what the change says laid over them. -/
theorem picks_of_changed
    (hw : (Json.record c.fields).at? ["programs", aid, "whichRetreats"] = some (.record w)) :
    ∃ r', q.program? aid = some r' ∧ r'.whichRetreats.entries = r.picksAfter w := by
  obtain ⟨p, rfl, hprogram⟩ := Option.bind_eq_some_iff.mp hr
  have hpicks := at?_changedRecord (some p) hc (by decide) hw
  rw [Option.bind_some, at?_picks, hprogram, Option.map_some, settle_record] at hpicks
  obtain ⟨r', hr', hread⟩ := readAs_picks (readAs_of_changed hcurrent hc h) hpicks
  exact ⟨r', hr', Facet.entries_of_picks hread⟩

/-- The payments after a change are those before, and then those that are new, both in order. -/
theorem payments_of_changed {subEvent : String}
    (hw : (Json.record c.fields).at? ["programs", aid, "offeringHistory", subEvent, "installments"] =
      some (.record w)) :
    ∃ r', q.program? aid = some r' ∧
      r'.paymentNames subEvent = overlayNames (r.paymentNames subEvent) (keysOf w) := by
  obtain ⟨p, rfl, hprogram⟩ := Option.bind_eq_some_iff.mp hr
  have hpayments := at?_changedRecord (some p) hc (by decide) hw
  rw [Option.bind_some, at?_payments, hprogram, Option.bind_some] at hpayments
  obtain ⟨r', o, hr', ho, hread⟩ := readAs_payments (readAs_of_changed hcurrent hc h) hpayments
  have hsettled := keysOf_settle (hc.at? hw).names ((r.offering? subEvent).map fun o => .record o.writtenPayments)
  obtain ⟨fs, hfs⟩ := exists_settle_record ((r.offering? subEvent).map fun o => .record o.writtenPayments) w
  rw [hfs, r.keysOf_writtenPayments] at hsettled
  rw [hfs] at hread
  refine ⟨r', hr', ?_⟩
  calc r'.paymentNames subEvent
    _ = keysOf o.installments.entries := by rw [Program.paymentNames, ho]; rfl
    _ = keysOf fs := Facet.keysOf_of_listed hread
    _ = overlayNames (r.paymentNames subEvent) (keysOf w) := hsettled

end

end Participant

namespace Desk

def program? (d : Desk) (id aid : String) : Option Program := (d.people.get? id).bind (·.program? aid)

/-- A change that names picks leaves those that stand on the form in their places and adds the others behind, in its own
order, each with what the change says of it. So it is with the names of payments. If it names only retreats that are
not on the form and the fee limit stays, whatever was charged is still charged first, and nothing else once the limit
had been reached. What is asked of the change holds of every change that was read from a text. -/
theorem update_keeps_order {d : Desk} (hd : d.Reached) {c : Change} (hc : (Json.record c.fields).Distinct)
    {aid : String} {r : Program} (hr : d.program? c.participantId aid = some r) {e : Desk} (he : d.update c = .ok e) :
    (∀ w, (Json.record c.fields).at? ["programs", aid, "whichRetreats"] = some (.record w) →
      ∃ r', e.program? c.participantId aid = some r' ∧
        keysOf r'.whichRetreats.entries = overlayNames (keysOf r.whichRetreats.entries) (keysOf w) ∧
        (∀ k, r'.whichRetreats.get? k = ((w.lookup k).map Json.isSet).or (r.whichRetreats.get? k)) ∧
        ((∀ k ∈ keysOf w, k ∉ keysOf r.whichRetreats.entries) → r'.limitFee = r.limitFee → r.StillCharged r')) ∧
    ∀ subEvent w,
      (Json.record c.fields).at? ["programs", aid, "offeringHistory", subEvent, "installments"] = some (.record w) →
      ∃ r', e.program? c.participantId aid = some r' ∧
        r'.paymentNames subEvent = overlayNames (r.paymentNames subEvent) (keysOf w) := by
  obtain ⟨q, hq, rfl⟩ := update_eq_ok.mp he
  have hcurrent : ∀ p ∈ d.people.get? c.participantId, p.Readable := fun p hp => hd.readable hp
  have hafter : ({ d with people := d.people.insert c.participantId q } : Desk).program? c.participantId aid =
      q.program? aid := by
    rw [program?, Sorted.get?_insert_self, Option.bind_some]
  simp only [hafter]
  constructor
  · intro w hw
    have hnames := (hc.at? hw).names
    obtain ⟨r', hr', hpicks⟩ := Participant.picks_of_changed hcurrent hc hq hr hw
    refine ⟨r', hr', hpicks ▸ r.keysOf_picksAfter hnames, fun k => ?_, fun hfresh hlimit => ?_⟩
    · rw [Listed.get?, hpicks, r.lookup_picksAfter hnames]
    · exact Program.stillCharged_of_prefix (hpicks ▸ r.prefix_picksAfter hnames hfresh) hlimit
  · intro subEvent w hw
    exact Participant.payments_of_changed hcurrent hc hq hr hw

/-- Somebody with a limited fee, two picks and a payment, as a document. -/
def thrifty : Json :=
  .record [("participants", .list [.record [("id", .text "p-005"), ("programs", .record [(Demo.aid, .record
    [("limitFee", .bool true), ("whichRetreats", .record [("week2", .bool true), ("weekend", .bool true)]),
      ("offeringHistory", .record [("retreat", .record [("installments", .record [("second", .record [])])])])])])]])]

def thriftyProgram : Program :=
  { limitFee := true, whichRetreats := .ofList [("week2", true), ("weekend", true)]
    offeringHistory := .ofList [("retreat", { installments := .ofList [("second", {})] })] }

def afterThrifty : Snapshot :=
  { participants := [{ id := "p-005", programs := .ofList [(Demo.aid, thriftyProgram)] }] }

/-- One more pick and one more payment, whose names would stand first if they were sorted. -/
def addition : Change :=
  ⟨"p-005", [("programs", .record [(Demo.aid, .record [("whichRetreats", .record [("week1", .text "yes")]),
    ("offeringHistory", .record [("retreat", .record [("installments", .record [("deposit", .list [])])])])])])]⟩

def threeRetreats : EventConfig := { prices := .ofList [("week1", ⟨400.0⟩), ("week2", ⟨400.0⟩), ("weekend", ⟨150.0⟩)] }

/-- The new pick and the new payment go last, and the pick costs nothing where two others are charged already. -/
theorem update_keeps_order_addition : ∃ e r', (ofSnapshot afterThrifty).update addition = .ok e ∧
    e.program? "p-005" Demo.aid = some r' ∧
    keysOf r'.whichRetreats.entries = ["week2", "weekend", "week1"] ∧ r'.whichRetreats.get? "week1" = some true ∧
    r'.paymentNames "retreat" = ["second", "deposit"] ∧
    ∀ subEvent, (r'.account subEvent threeRetreats).total = (thriftyProgram.account subEvent threeRetreats).total := by
  have hloaded : Snapshot.layout.read (.value thrifty) = .ok afterThrifty := rfl
  have hd : (ofSnapshot afterThrifty).Reached := .loaded hloaded
  have hdistinct : (Json.record addition.fields).Distinct := by
    refine .singleton (.singleton (.record (by decide) ?_))
    simp only [List.forall_mem_cons]
    exact ⟨.singleton (.text _), .singleton (.singleton (.singleton (.list (by simp)))), by simp⟩
  have hfound : (ofSnapshot afterThrifty).program? "p-005" Demo.aid = some thriftyProgram := rfl
  have htaken : (ofSnapshot afterThrifty).update addition = .ok ((ofSnapshot afterThrifty).updated addition) := rfl
  obtain ⟨hpicks, hpayments⟩ := update_keeps_order hd hdistinct hfound htaken
  obtain ⟨r', hr', hkeys, hget, hcharged⟩ := hpicks _ rfl
  obtain ⟨_, hr'', hnames⟩ := hpayments "retreat" _ rfl
  cases hr'.symm.trans hr''
  have hlimit : r'.limitFee = thriftyProgram.limitFee := by
    have hafter := congrArg (Option.map Program.limitFee) hr'
    exact (Option.some.inj hafter).symm
  have hfull : (thriftyProgram.charged threeRetreats.prices).length = thriftyProgram.chargeLimit := rfl
  exact ⟨_, r', htaken, hr', hkeys.trans rfl, (hget "week1").trans rfl, hnames.trans rfl,
    (hcharged (by decide) hlimit).total threeRetreats hfull⟩

end Desk

end RetreatDesk
