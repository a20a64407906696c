import RetreatDesk.Proofs.Reading.Frame
import RetreatDesk.Proofs.Registry.Written

/-!
# What a change leaves of a person

A change may reach down to a single field of a payment. On every level it leaves what it does not name, save amounts that
are no finite numbers: these are lost whenever the record is written.

* `Installment.Spared`, `Offering.Spared`, `Program.Spared`, `Participant.Spared`: what a record of changes leaves.
* `Participant.spares`: that it does so.
-/

namespace RetreatDesk

open Json

/-! ## Installments -/

namespace Installment

/-- The fields that are not named stay. -/
def Spared : List (String × Json) → Installment → Installment → Prop := Layout.Spared slots fun _ => []

theorem spares : (Facet.whole layout.read toJson).Spares asWritten Spared := by
  intro i changes j hi hchanges hfits
  exact described.spared toJson_eq hi hchanges hfits slots_readBack fun _ => rfl

end Installment

/-! ## Offerings -/

namespace Offering

structure Spared (changes : List (String × Json)) (o o' : Offering) : Prop
    extends Layout.Spared slots (·.extra.entries) changes o o' where
  installments : ∀ inner, changes.lookup "installments" = some (.record inner) →
    Kept Installment.Spared inner o.installments.get? o'.installments.get?

theorem spares : (Facet.whole layout.read toJson).Spares asWritten Spared := by
  intro o changes o' ho hchanges hfits
  have hwithin := described.within toJson_eq ho hchanges hfits asWritten
  simp only [slots, List.forall_mem_cons] at hwithin
  obtain ⟨-, -, hinstallments, -⟩ := hwithin
  refine ⟨described.spared toJson_eq ho hchanges hfits slots_readBack fun _ => rfl, ?_⟩
  exact hinstallments _ ((Facet.listed_spares Installment.readsBack Installment.spares).along fun _ => rfl)

end Offering

/-! ## Programs -/

namespace Program

structure Spared (changes : List (String × Json)) (p q : Program) : Prop
    extends Layout.Spared slots (·.extra.entries) changes p q where
  whichRetreats : ∀ inner, changes.lookup "whichRetreats" = some (.record inner) →
    KeptBeside inner p.whichRetreats.get? q.whichRetreats.get?
  offeringHistory : ∀ inner, changes.lookup "offeringHistory" = some (.record inner) →
    Kept Offering.Spared inner p.offeringHistory.get? q.offeringHistory.get?

theorem spares : (Facet.whole layout.read toJson).Spares asWritten Spared := by
  intro p changes q hp hchanges hfits
  have hwithin := described.within toJson_eq hp hchanges hfits asWritten
  simp only [slots, List.forall_mem_cons] at hwithin
  obtain ⟨-, -, -, -, -, -, -, -, -, -, -, hretreats, hhistory, -⟩ := hwithin
  refine ⟨described.spared toJson_eq hp hchanges hfits slots_readBack fun _ => rfl, ?_, ?_⟩
  · exact hretreats _ (Facet.picks_spare.along fun _ => rfl)
  · exact hhistory _ ((Facet.sorted_spares Offering.readsBack Offering.spares).along fun _ => rfl)

end Program

/-! ## People -/

namespace Participant

/-- The fields that are not named stay, those without a meaning included, and so does what is not named in the records
that stand there. -/
structure Spared (changes : List (String × Json)) (p q : Participant) : Prop
    extends Layout.Spared slots (·.extra.entries) changes p q where
  programs : ∀ inner, changes.lookup "programs" = some (.record inner) →
    Kept Program.Spared inner p.programs.get? q.programs.get?
  practice : ∀ inner, changes.lookup "practice" = some (.record inner) →
    Kept Json.Spared inner p.practice.get? q.practice.get?
  emails : ∀ inner, changes.lookup "emails" = some (.record inner) →
    KeptBeside inner p.emails.get? q.emails.get?

theorem spares : (Facet.whole layout.read toJson).Spares asWritten Spared := by
  intro p changes q hp hchanges hfits
  have hwithin := described.within toJson_eq hp hchanges hfits asWritten
  simp only [slots, List.forall_mem_cons] at hwithin
  obtain ⟨-, -, -, -, hprograms, hpractice, hemails, -⟩ := hwithin
  refine ⟨described.spared toJson_eq hp hchanges hfits slots_readBack fun _ => rfl, ?_, ?_, ?_⟩
  · exact hprograms _ ((Facet.sorted_spares Program.readsBack Program.spares).along fun _ => rfl)
  · have hvalues := Facet.sorted_spares Facet.whole_json_readsBack Facet.whole_json_spares
    rw [Sorted.map_id] at hvalues
    exact hpractice _ (hvalues.along fun _ => rfl)
  · exact hemails _ (Facet.labels_spare.along fun _ => rfl)

end Participant

end RetreatDesk
