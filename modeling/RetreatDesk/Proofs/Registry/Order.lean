import RetreatDesk.Proofs.Json.Path
import RetreatDesk.Proofs.Reading.Arising
import RetreatDesk.Proofs.Registry.Slots

/-!
# Picks and payments at the ends of their paths

The picks of a program and the payments of an offering stand deep in the record of a person, the programs and offerings
on the way being sorted, the picks and payments themselves in order.

* `Participant.at?_picks`, `Participant.at?_payments`: what is written at the ends of the paths.
* `Participant.readAs_picks`, `Participant.readAs_payments`: what is read there off a record that changes can leave.
-/

namespace RetreatDesk

open Json

/-! ## Writing -/

namespace Offering

/-- The payments in order, as they are written. -/
def writtenPayments (o : Offering) : List (String × Json) := o.installments.entries.map fun e => (e.1, e.2.toJson)

theorem get?_installments (o : Offering) : o.toJson.get? "installments" = some (.record o.writtenPayments) := by
  cases o with
  | mk sku time installments extra => cases sku <;> cases time <;> rfl

end Offering

namespace Program

/-- The picks in order, as they are written. -/
def writtenPicks (r : Program) : List (String × Json) := r.whichRetreats.entries.map fun e => (e.1, .bool e.2)

/-- The names of the payments for a sub-event, in order; none where no offering is on record. -/
def paymentNames (r : Program) (subEvent : String) : List String :=
  keysOf ((r.offering? subEvent).elim [] (·.installments.entries))

theorem keysOf_writtenPayments (r : Program) (subEvent : String) :
    keysOf (((r.offering? subEvent).map fun o => .record o.writtenPayments).elim [] fields) =
      r.paymentNames subEvent := by
  unfold paymentNames
  cases r.offering? subEvent with
  | none => rfl
  | some o => exact keysOf_map _ _

theorem at?_offering (r : Program) (subEvent : String) :
    r.toJson.at? ["offeringHistory", subEvent] = (r.offering? subEvent).map Offering.toJson := at?_entry rfl subEvent

end Program

namespace Participant

theorem at?_program (p : Participant) (aid : String) :
    p.toJson.at? ["programs", aid] = (p.program? aid).map Program.toJson := at?_entry rfl aid

theorem at?_picks (p : Participant) (aid : String) :
    p.toJson.at? ["programs", aid, "whichRetreats"] = (p.program? aid).map fun r => .record r.writtenPicks := by
  change p.toJson.at? (["programs", aid] ++ ["whichRetreats"]) = _
  rw [at?_append, at?_program]
  cases p.program? aid <;> rfl

theorem at?_payments (p : Participant) (aid subEvent : String) :
    p.toJson.at? ["programs", aid, "offeringHistory", subEvent, "installments"] =
      ((p.program? aid).bind (·.offering? subEvent)).map fun o => .record o.writtenPayments := by
  change p.toJson.at? (["programs", aid] ++ (["offeringHistory", subEvent] ++ ["installments"])) = _
  rw [at?_append, at?_program]
  cases p.program? aid with
  | none => rfl
  | some r =>
    rw [Option.map_some, Option.bind_some, at?_append, Program.at?_offering, Option.bind_some]
    cases r.offering? subEvent with
    | none => rfl
    | some o =>
      rw [Option.map_some, Option.bind_some, at?_cons, Offering.get?_installments]
      rfl

end Participant

/-! ## Picks after a change -/

namespace Program

/-- The picks of a program with a record of changes laid over them. -/
def picksAfter (r : Program) (changes : List (String × Json)) : List (String × Bool) :=
  (overlayFields r.writtenPicks changes).map fun e => (e.1, e.2.isSet)

theorem keysOf_writtenPicks (r : Program) : keysOf r.writtenPicks = keysOf r.whichRetreats.entries := keysOf_map _ _

section
variable (r : Program) {changes : List (String × Json)} (h : (keysOf changes).Nodup)

include h

theorem keysOf_picksAfter :
    keysOf (r.picksAfter changes) = overlayNames (keysOf r.whichRetreats.entries) (keysOf changes) := by
  rw [picksAfter, keysOf_map, keysOf_overlayFields _ h, keysOf_writtenPicks]

theorem lookup_picksAfter (k : String) :
    (r.picksAfter changes).lookup k = ((changes.lookup k).map isSet).or (r.whichRetreats.get? k) := by
  have hwritten : r.writtenPicks.lookup k = (r.whichRetreats.get? k).map .bool := lookup_map _ k _
  rw [picksAfter, lookup_map, lookup_overlayFields h, hwritten]
  cases hw : changes.lookup k with
  | none => cases r.whichRetreats.get? k <;> rfl
  | some w =>
    -- A pick is no record, so whatever the change says takes its place.
    rw [settled_some, settle_on_scalar fun u hu => by
      obtain ⟨b, -, rfl⟩ := Option.map_eq_some_iff.mp hu
      rfl]
    rfl

theorem prefix_picksAfter (hfresh : ∀ k ∈ keysOf changes, k ∉ keysOf r.whichRetreats.entries) :
    r.whichRetreats.entries <+: r.picksAfter changes := by
  have hnodup : (keysOf (r.writtenPicks ++ changes)).Nodup := by
    rw [keysOf_append, keysOf_writtenPicks]
    exact r.whichRetreats.distinct.append h fun k hold hnew => hfresh k hnew hold
  have hback : (r.writtenPicks.map fun e => (e.1, e.2.isSet)) = r.whichRetreats.entries := by
    rw [writtenPicks, List.map_map]
    exact List.map_id _
  rw [picksAfter, overlayFields_of_fresh hnodup, List.map_append, hback]
  exact List.prefix_append _ _

end

end Program

/-! ## Reading -/

theorem Offering.readAs_payments {u : Json} {o : Offering} (h : (Facet.whole layout.read toJson).ReadAs u o) {v : Json}
    (hv : u.get? "installments" = some v) :
    (Facet.listed Installment.layout.read Installment.toJson).ReadAs v o.installments := by
  have hslots := described.readAs_slots toJson_eq h
  simp only [slots, List.forall_mem_cons] at hslots
  obtain ⟨-, -, hinstallments, -⟩ := hslots
  exact hinstallments v hv

namespace Program

theorem readAs_picks {u : Json} {r : Program} (h : (Facet.whole layout.read toJson).ReadAs u r) {v : Json}
    (hv : u.get? "whichRetreats" = some v) : (Facet.listed Reader.flag .bool).ReadAs v r.whichRetreats := by
  have hslots := described.readAs_slots toJson_eq h
  simp only [slots, List.forall_mem_cons] at hslots
  obtain ⟨-, -, -, -, -, -, -, -, -, -, -, hretreats, -⟩ := hslots
  exact hretreats v hv

theorem readAs_offering {u : Json} {r : Program} (h : (Facet.whole layout.read toJson).ReadAs u r) {subEvent : String}
    {v : Json} (hv : u.at? ["offeringHistory", subEvent] = some v) :
    ∃ o, r.offering? subEvent = some o ∧ (Facet.whole Offering.layout.read Offering.toJson).ReadAs v o := by
  obtain ⟨history, hhistory, hv⟩ := at?_pair_eq_some.mp hv
  have hslots := described.readAs_slots toJson_eq h
  simp only [slots, List.forall_mem_cons] at hslots
  obtain ⟨-, -, -, -, -, -, -, -, -, -, -, -, hofferings, -⟩ := hslots
  exact Facet.sorted_readAs (hofferings history hhistory) hv

end Program

namespace Participant

variable {u : Json} {p : Participant} (h : (Facet.whole layout.read toJson).ReadAs u p)

include h

theorem readAs_program {aid : String} {v : Json} (hv : u.at? ["programs", aid] = some v) :
    ∃ r, p.program? aid = some r ∧ (Facet.whole Program.layout.read Program.toJson).ReadAs v r := by
  obtain ⟨programs, hprograms, hv⟩ := at?_pair_eq_some.mp hv
  have hslots := described.readAs_slots toJson_eq h
  simp only [slots, List.forall_mem_cons] at hslots
  obtain ⟨-, -, -, -, hsorted, -⟩ := hslots
  exact Facet.sorted_readAs (hsorted programs hprograms) hv

theorem readAs_picks {aid : String} {v : Json} (hv : u.at? ["programs", aid, "whichRetreats"] = some v) :
    ∃ r, p.program? aid = some r ∧ (Facet.listed Reader.flag .bool).ReadAs v r.whichRetreats := by
  change u.at? (["programs", aid] ++ ["whichRetreats"]) = _ at hv
  rw [at?_append] at hv
  obtain ⟨program, hprogram, hv⟩ := Option.bind_eq_some_iff.mp hv
  obtain ⟨r, hr, hread⟩ := readAs_program h hprogram
  obtain ⟨w, hw, ⟨⟩⟩ := Option.bind_eq_some_iff.mp hv
  exact ⟨r, hr, Program.readAs_picks hread hw⟩

theorem readAs_payments {aid subEvent : String} {v : Json}
    (hv : u.at? ["programs", aid, "offeringHistory", subEvent, "installments"] = some v) :
    ∃ r o, p.program? aid = some r ∧ r.offering? subEvent = some o ∧
      (Facet.listed Installment.layout.read Installment.toJson).ReadAs v o.installments := by
  change u.at? (["programs", aid] ++ (["offeringHistory", subEvent] ++ ["installments"])) = _ at hv
  rw [at?_append] at hv
  obtain ⟨program, hprogram, hv⟩ := Option.bind_eq_some_iff.mp hv
  rw [at?_append] at hv
  obtain ⟨offering, hoffering, hv⟩ := Option.bind_eq_some_iff.mp hv
  obtain ⟨w, hw, ⟨⟩⟩ := Option.bind_eq_some_iff.mp hv
  obtain ⟨r, hr, hread⟩ := readAs_program h hprogram
  obtain ⟨o, ho, hread⟩ := Program.readAs_offering hread hoffering
  exact ⟨r, o, hr, ho, Offering.readAs_payments hread hw⟩

end Participant

end RetreatDesk
