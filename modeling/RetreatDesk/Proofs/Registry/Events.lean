import RetreatDesk.Registry.Event
import RetreatDesk.Proofs.Calendar.Date
import RetreatDesk.Proofs.Reading.Items
import RetreatDesk.Proofs.Registry.Slots

/-!
# Events as they are written

* `RetreatPrice.described`, `EventConfig.described`, `SubEvent.described`, `Event.described`: the layouts are nothing
  but their slots and the fields kept besides.
* `Event.readsBack`: what is read off the written record of an event.
* `Event.asWritten_eq_self`: nothing is lost exactly where every price is a finite number.
-/

namespace RetreatDesk

open Json

/-! ## Prices -/

namespace RetreatPrice

def slots : List (Slot RetreatPrice) := [.amount "offeringTotal" (·.total) fun x p => { p with total := x }]

theorem described : layout.Described slots fun _ => [] where
  fields_eq := rfl
  nodup := by decide
  blank_of_required := by simp [layout]
  required_of_blank := by simp [slots]
  blank_eq := by simp [slots, layout]
  sound_of_blank := by simp [slots]
  set_eq := by
    simp only [slots, List.forall_mem_cons]
    exact ⟨fun _ _ => rfl, by simp⟩
  get_put := by simp [slots]
  get_put_of_ne := by simp [slots]
  rest_put _ _ _ _ := rfl
  get_keep := by simp [layout]
  rest_keep := by simp [layout]
  rest_blank := rfl
  rest_nodup _ := List.nodup_nil
  ext x y h _ := by
    cases x; cases y
    simpa [slots] using h

theorem toJson_eq (p : RetreatPrice) : p.toJson = .record (Slot.written slots p ++ []) := rfl

def asWritten (p : RetreatPrice) : RetreatPrice := { p with total := Decimal.asWritten p.total }

/-- The price is a finite number. -/
def FiniteAmounts (p : RetreatPrice) : Prop := Decimal.isFinite p.total = true

instance (p : RetreatPrice) : Decidable p.FiniteAmounts :=
  inferInstanceAs (Decidable (Decimal.isFinite p.total = true))

theorem asWritten_eq_self {p : RetreatPrice} : p.asWritten = p ↔ p.FiniteAmounts := by
  unfold FiniteAmounts
  rw [← Decimal.asWritten_eq_self]
  cases p
  simp [asWritten]

theorem slots_readBack : ∀ s ∈ slots, s.facet.ReadsBack asWritten := by
  simp only [slots, List.forall_mem_cons]
  exact ⟨Facet.amount_readsBack.along fun _ => rfl, by simp⟩

theorem readsBack : (Facet.whole layout.read toJson).ReadsBack asWritten :=
  described.readsBack toJson_eq slots_readBack fun _ => rfl

end RetreatPrice

/-! ## Settings -/

namespace EventConfig

def slots : List (Slot EventConfig) :=
  [.note "pool" (·.pool) fun s c => { c with pool := s },
   .sorted "whichRetreatsConfig" RetreatPrice.layout.read RetreatPrice.toJson (·.prices)
     fun m c => { c with prices := m },
   .note "offeringPresentation" (·.presentation) fun s c => { c with presentation := s },
   .labels "dashboardViews" (·.dashboardViews) fun m c => { c with dashboardViews := m }]

theorem described : layout.Described slots fun _ => [] where
  fields_eq := rfl
  nodup := by decide
  blank_of_required := by simp [layout]
  required_of_blank := by simp [slots]
  blank_eq := by simp [slots, layout]
  sound_of_blank := by simp [slots]
  set_eq := by
    simp only [slots, List.forall_mem_cons]
    exact ⟨fun _ _ => rfl, fun _ _ => bind_pure_comp _ _, fun _ _ => rfl, fun _ _ => bind_pure_comp _ _, by simp⟩
  get_put := by simp [slots]
  get_put_of_ne := by simp [slots]
  rest_put _ _ _ _ := rfl
  get_keep := by simp [layout]
  rest_keep := by simp [layout]
  rest_blank := rfl
  rest_nodup _ := List.nodup_nil
  ext x y h _ := by
    cases x; cases y
    simp_all [slots]

theorem toJson_eq (c : EventConfig) : c.toJson = .record (Slot.written slots c ++ []) := by
  cases c with
  | mk pool prices presentation views => cases pool <;> cases presentation <;> rfl

def asWritten (c : EventConfig) : EventConfig := { c with prices := c.prices.map RetreatPrice.asWritten }

def FiniteAmounts (c : EventConfig) : Prop := ∀ e ∈ c.prices.entries, e.2.FiniteAmounts

instance (c : EventConfig) : Decidable c.FiniteAmounts :=
  inferInstanceAs (Decidable (∀ e ∈ c.prices.entries, e.2.FiniteAmounts))

theorem asWritten_eq_self {c : EventConfig} : c.asWritten = c ↔ c.FiniteAmounts := by
  have hprices : c.asWritten = c ↔ c.prices.map RetreatPrice.asWritten = c.prices := by
    cases c
    simp [asWritten]
  rw [hprices, Sorted.map_eq_self]
  exact forall₂_congr fun _ _ => RetreatPrice.asWritten_eq_self

theorem slots_readBack : ∀ s ∈ slots, s.facet.ReadsBack asWritten := by
  simp only [slots, List.forall_mem_cons]
  exact ⟨Facet.note_readsBack.along fun _ => rfl, (Facet.sorted_readsBack RetreatPrice.readsBack).along fun _ => rfl,
    Facet.note_readsBack.along fun _ => rfl, Facet.labels_readsBack.along fun _ => rfl, by simp⟩

theorem readsBack : (Facet.whole layout.read toJson).ReadsBack asWritten :=
  described.readsBack toJson_eq slots_readBack fun _ => rfl

end EventConfig

/-! ## Parts of events -/

namespace SubEvent

/-- A date that is written only if there is one; what is no date counts as none. -/
def day : Facet (Option Date) :=
  .ofReader (fun d => do return (← Reader.json d).text?.bind Date.ofText?) (some none) (Option.map (.text ∘ Date.text))

theorem day_readsBack : day.ReadsBack id := by
  rintro (- | d) -
  · rfl
  · exact congrArg Except.ok d.ofText?_text

def slots : List (Slot SubEvent) :=
  [⟨"date", Option Date, (·.date), fun d s => { s with date := d },
    fun d => do return (← Reader.json d).text?.bind Date.ofText?, some none, day.write⟩]

theorem described : layout.Described slots (·.extra.entries) where
  fields_eq := rfl
  nodup := by decide
  blank_of_required := by simp [layout]
  required_of_blank := by simp [slots]
  blank_eq := by simp [slots, layout]
  sound_of_blank := by simp [slots]
  set_eq := by
    simp only [slots, List.forall_mem_cons]
    exact ⟨fun _ _ => rfl, by simp⟩
  get_put := by simp [slots]
  get_put_of_ne := by simp [slots]
  rest_put := by simp [slots]
  get_keep := by simp [layout, slots]
  rest_keep := by simp [layout, Listed.insert]
  rest_blank := rfl
  rest_nodup s := s.extra.distinct
  ext x y h hrest := by
    cases x; cases y
    have hextra := Listed.ext hrest
    simp_all [slots]

theorem toJson_eq (s : SubEvent) : s.toJson = .record (Slot.written slots s ++ s.extra.entries) := by
  cases s with
  | mk date extra => cases date <;> rfl

theorem slots_readBack : ∀ s ∈ slots, s.facet.ReadsBack id := by
  simp only [slots, List.forall_mem_cons]
  exact ⟨day_readsBack.along fun _ => rfl, by simp⟩

theorem readsBack : (Facet.whole layout.read toJson).ReadsBack id :=
  described.readsBack toJson_eq slots_readBack fun _ => rfl

end SubEvent

/-! ## Events -/

namespace Event

def slots : List (Slot Event) :=
  [.label "aid" none (·.aid) fun s e => { e with aid := s },
   .label "name" (some "") (·.name) fun s e => { e with name := s },
   .nullable "config" {} EventConfig.layout.read EventConfig.toJson (·.config) fun c e => { e with config := c },
   .sorted "subEvents" SubEvent.layout.read SubEvent.toJson (·.subEvents) fun m e => { e with subEvents := m }]

theorem described : layout.Described slots fun _ => [] where
  fields_eq := rfl
  nodup := by decide
  blank_of_required := by simp [layout, slots]
  required_of_blank := by simp [slots, layout]
  blank_eq := by simp [slots, layout]
  sound_of_blank := by
    simp only [slots, List.forall_mem_cons]
    exact ⟨fun _ => ⟨some (.text ""), rfl⟩, by simp [Slot.label]⟩
  set_eq := by
    simp only [slots, List.forall_mem_cons]
    exact ⟨fun _ _ => rfl, fun _ _ => rfl, fun _ _ => bind_pure_comp _ _, fun _ _ => bind_pure_comp _ _, by simp⟩
  get_put := by simp [slots]
  get_put_of_ne := by simp [slots]
  rest_put _ _ _ _ := rfl
  get_keep := by simp [layout]
  rest_keep := by simp [layout]
  rest_blank := rfl
  rest_nodup _ := List.nodup_nil
  ext x y h _ := by
    cases x; cases y
    simp_all [slots]

theorem toJson_eq (e : Event) : e.toJson = .record (Slot.written slots e ++ []) := rfl

def asWritten (e : Event) : Event := { e with config := e.config.asWritten }

/-- Every price of the event is a finite number. -/
def FiniteAmounts (e : Event) : Prop := e.config.FiniteAmounts

instance (e : Event) : Decidable e.FiniteAmounts :=
  inferInstanceAs (Decidable e.config.FiniteAmounts)

theorem asWritten_eq_self {e : Event} : e.asWritten = e ↔ e.FiniteAmounts := by
  have hconfig : e.asWritten = e ↔ e.config.asWritten = e.config := by
    cases e
    simp [asWritten]
  exact hconfig.trans EventConfig.asWritten_eq_self

theorem slots_readBack : ∀ s ∈ slots, s.facet.ReadsBack asWritten := by
  have hblank : ∃ v, EventConfig.layout.read (.value v) = .ok {} := ⟨.record [], rfl⟩
  have hparts := Facet.sorted_readsBack SubEvent.readsBack
  rw [Sorted.map_id] at hparts
  simp only [slots, List.forall_mem_cons]
  exact ⟨(Facet.label_readsBack none).along fun _ => rfl, (Facet.label_readsBack (some "")).along fun _ => rfl,
    (Facet.nullable_readsBack hblank (fun _ => by rintro ⟨⟩) EventConfig.readsBack).along fun _ => rfl,
    hparts.along fun _ => rfl, by simp⟩

/-- What is read off the written record of an event. -/
theorem readsBack : (Facet.whole layout.read toJson).ReadsBack asWritten :=
  described.readsBack toJson_eq slots_readBack fun _ => rfl

end Event

end RetreatDesk
