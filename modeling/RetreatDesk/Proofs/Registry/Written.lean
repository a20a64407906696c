import RetreatDesk.Proofs.Registry.Slots
import RetreatDesk.Proofs.Reading.Written

/-!
# People as they are written

What is left of a person once the record has been written is the person without the amounts that have no numeral.

* `Installment.asWritten`, `Offering.asWritten`, `Program.asWritten`, `Participant.asWritten`: amounts without a numeral
  are nought, everything else is as it was.
* `Participant.readsBack`: what is read off the written record of a person.
* `Participant.asWritten_eq_self`: nothing is lost exactly where every amount is a finite number.
-/

namespace RetreatDesk

/-! ## Installments -/

namespace Installment

def asWritten (i : Installment) : Installment := { i with amount := Decimal.asWritten i.amount }

/-- The amount is a finite number. -/
def FiniteAmounts (i : Installment) : Prop := Decimal.isFinite i.amount = true

instance (i : Installment) : Decidable i.FiniteAmounts :=
  inferInstanceAs (Decidable (Decimal.isFinite i.amount = true))

theorem asWritten_eq_self {i : Installment} : i.asWritten = i ↔ i.FiniteAmounts := by
  unfold FiniteAmounts
  rw [← Decimal.asWritten_eq_self]
  cases i
  simp [asWritten]

theorem slots_readBack : ∀ s ∈ slots, s.facet.ReadsBack asWritten := by
  simp only [slots, List.forall_mem_cons]
  exact ⟨Facet.amount_readsBack.along fun _ => rfl, Facet.note_readsBack.along fun _ => rfl, by simp⟩

theorem readsBack : (Facet.whole layout.read toJson).ReadsBack asWritten :=
  described.readsBack toJson_eq slots_readBack fun _ => rfl

end Installment

/-! ## Offerings -/

namespace Offering

def asWritten (o : Offering) : Offering := { o with installments := o.installments.map Installment.asWritten }

def FiniteAmounts (o : Offering) : Prop := ∀ e ∈ o.installments.entries, e.2.FiniteAmounts

instance (o : Offering) : Decidable o.FiniteAmounts :=
  inferInstanceAs (Decidable (∀ e ∈ o.installments.entries, e.2.FiniteAmounts))

theorem asWritten_eq_self {o : Offering} : o.asWritten = o ↔ o.FiniteAmounts := by
  have hpayments : o.asWritten = o ↔ o.installments.map Installment.asWritten = o.installments := by
    cases o
    simp [asWritten]
  rw [hpayments, Listed.map_eq_self]
  exact forall₂_congr fun _ _ => Installment.asWritten_eq_self

theorem slots_readBack : ∀ s ∈ slots, s.facet.ReadsBack asWritten := by
  simp only [slots, List.forall_mem_cons]
  exact ⟨Facet.note_readsBack.along fun _ => rfl, Facet.note_readsBack.along fun _ => rfl,
    (Facet.listed_readsBack Installment.readsBack).along fun _ => rfl, by simp⟩

theorem readsBack : (Facet.whole layout.read toJson).ReadsBack asWritten :=
  described.readsBack toJson_eq slots_readBack fun _ => rfl

end Offering

/-! ## Programs -/

namespace Program

def asWritten (p : Program) : Program := { p with offeringHistory := p.offeringHistory.map Offering.asWritten }

def FiniteAmounts (p : Program) : Prop := ∀ e ∈ p.offeringHistory.entries, e.2.FiniteAmounts

instance (p : Program) : Decidable p.FiniteAmounts :=
  inferInstanceAs (Decidable (∀ e ∈ p.offeringHistory.entries, e.2.FiniteAmounts))

theorem asWritten_eq_self {p : Program} : p.asWritten = p ↔ p.FiniteAmounts := by
  have hhistory : p.asWritten = p ↔ p.offeringHistory.map Offering.asWritten = p.offeringHistory := by
    cases p
    simp [asWritten]
  rw [hhistory, Sorted.map_eq_self]
  exact forall₂_congr fun _ _ => Offering.asWritten_eq_self

theorem slots_readBack : ∀ s ∈ slots, s.facet.ReadsBack asWritten := by
  have hflag : ∀ get : Program → Bool, (∀ p : Program, get p.asWritten = get p) →
      (Facet.flag.along get).ReadsBack asWritten := fun _ hget => Facet.flag_readsBack.along hget
  have hpicks := Facet.listed_readsBack Facet.whole_flag_readsBack
  rw [Listed.map_id] at hpicks
  simp only [slots, List.forall_mem_cons]
  exact ⟨hflag _ fun _ => rfl, hflag _ fun _ => rfl, hflag _ fun _ => rfl, hflag _ fun _ => rfl, hflag _ fun _ => rfl,
    hflag _ fun _ => rfl, hflag _ fun _ => rfl, hflag _ fun _ => rfl, hflag _ fun _ => rfl, hflag _ fun _ => rfl,
    hflag _ fun _ => rfl, hpicks.along fun _ => rfl,
    (Facet.sorted_readsBack Offering.readsBack).along fun _ => rfl, by simp⟩

theorem readsBack : (Facet.whole layout.read toJson).ReadsBack asWritten :=
  described.readsBack toJson_eq slots_readBack fun _ => rfl

end Program

/-! ## People -/

namespace Participant

def asWritten (p : Participant) : Participant := { p with programs := p.programs.map Program.asWritten }

/-- Every payment of the person is a finite number. -/
def FiniteAmounts (p : Participant) : Prop := ∀ e ∈ p.programs.entries, e.2.FiniteAmounts

instance (p : Participant) : Decidable p.FiniteAmounts :=
  inferInstanceAs (Decidable (∀ e ∈ p.programs.entries, e.2.FiniteAmounts))

theorem asWritten_eq_self {p : Participant} : p.asWritten = p ↔ p.FiniteAmounts := by
  have hprograms : p.asWritten = p ↔ p.programs.map Program.asWritten = p.programs := by
    cases p
    simp [asWritten]
  rw [hprograms, Sorted.map_eq_self]
  exact forall₂_congr fun _ _ => Program.asWritten_eq_self

theorem slots_readBack : ∀ s ∈ slots, s.facet.ReadsBack asWritten := by
  have hlabel : ∀ (blank : Option String) (get : Participant → String), (∀ p, get (asWritten p) = get p) →
      ((Facet.label blank).along get).ReadsBack asWritten :=
    fun blank _ hget => (Facet.label_readsBack blank).along hget
  have hpractice := Facet.sorted_readsBack Facet.whole_json_readsBack
  rw [Sorted.map_id] at hpractice
  simp only [slots, List.forall_mem_cons]
  exact ⟨hlabel none _ fun _ => rfl, hlabel (some "") _ fun _ => rfl, hlabel (some "") _ fun _ => rfl,
    hlabel (some "") _ fun _ => rfl, (Facet.sorted_readsBack Program.readsBack).along fun _ => rfl,
    hpractice.along fun _ => rfl, Facet.labels_readsBack.along fun _ => rfl, Facet.note_readsBack.along fun _ => rfl,
    Facet.note_readsBack.along fun _ => rfl, Facet.flag_readsBack.along fun _ => rfl,
    Facet.flag_readsBack.along fun _ => rfl, by simp⟩

/-- What is read off the written record of a person. -/
theorem readsBack : (Facet.whole layout.read toJson).ReadsBack asWritten :=
  described.readsBack toJson_eq slots_readBack fun _ => rfl

end Participant

end RetreatDesk
