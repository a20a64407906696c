import RetreatDesk.Proofs.Desk.Redelivery
import RetreatDesk.Proofs.Json.Path
import RetreatDesk.Proofs.Reading.Arising

/-!
# The changed record of a person

* `Participant.arises_changedRecord`, `Participant.readAs_of_changed`: it is one that changes can leave, and a person
  after a change is read off it.
* `Participant.at?_changedRecord`: what stands in it at the end of a path along which the change says something.
-/

namespace RetreatDesk.Participant

open Json

section
variable {current : Option Participant} (hcurrent : ∀ p ∈ current, p.Readable) {c : Change}
  (hc : (Json.record c.fields).Distinct)

include hcurrent hc

theorem arises_changedRecord : (Facet.whole layout.read toJson).Arises (changedRecord current c) := by
  refine ⟨current.map toJson, some (.record (keyedFields c)), stands_of_readable hcurrent, ?_, ?_⟩
  · rintro w ⟨⟩
    exact hc.put "id" (.text c.participantId)
  · rw [settled_some, changedRecord_eq hc.names]

theorem readAs_of_changed {q : Participant} (h : changed current c = .ok q) :
    (Facet.whole layout.read toJson).ReadAs (changedRecord current c) q :=
  ⟨arises_changedRecord hcurrent hc, changed_eq_ok.mp h⟩

end

/-- What the change says anywhere but of the key is settled on what was written before. -/
theorem at?_changedRecord (current : Option Participant) {c : Change} (hc : (Json.record c.fields).Distinct) {k : String}
    (hk : k ≠ "id") {rest : List String} {w : Json} (hw : (Json.record c.fields).at? (k :: rest) = some w) :
    (changedRecord current c).at? (k :: rest) =
      some (settle (current.bind fun p => p.toJson.at? (k :: rest)) w) := by
  have hkeyed : (Json.record (keyedFields c)).at? (k :: rest) = some w := by
    have hlookup : (keyedFields c).lookup k = c.fields.lookup k := lookup_put_of_ne hk _ _
    change ((keyedFields c).lookup k).bind _ = some w
    rw [hlookup]
    exact hw
  have hdistinct : (Json.record (keyedFields c)).Distinct := hc.put "id" (.text _)
  rw [changedRecord_eq hc.names, at?_settle_of_at? hdistinct hkeyed, Option.bind_map]
  rfl

end RetreatDesk.Participant
