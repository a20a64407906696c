import RetreatDesk.Registry.Participant
import RetreatDesk.Proofs.Reading.Record

/-!
# The records of the registry, slot by slot

* `Installment.described`, `Offering.described`, `Program.described`, `Participant.described`: the layouts are nothing
  but their slots and the fields kept besides.
* `Participant.steady`: a person changed twice in the same way is the person changed once.
-/

namespace RetreatDesk

open Json

namespace Slot

variable {α β : Type}

@[simp] def flag (name : String) (get : α → Bool) (put : Bool → α → α) : Slot α :=
  ⟨name, Bool, get, put, Reader.flag, some false, Facet.flag.write⟩

@[simp] def label (name : String) (blank : Option String) (get : α → String)
    (put : String → α → α) : Slot α :=
  ⟨name, String, get, put, Reader.label, blank, (Facet.label blank).write⟩

@[simp] def note (name : String) (get : α → Option String) (put : Option String → α → α) : Slot α :=
  ⟨name, Option String, get, put, Reader.note, some none, Facet.note.write⟩

@[simp] def amount (name : String) (get : α → Float) (put : Float → α → α) : Slot α :=
  ⟨name, Float, get, put, Reader.amount, some 0.0, Facet.amount.write⟩

@[simp] def sorted (name : String) (r : Reader β) (write : β → Json) (get : α → Sorted β)
    (put : Sorted β → α → α) : Slot α :=
  ⟨name, Sorted β, get, put, Reader.sorted r, some .empty, (Facet.sorted r write).write⟩

@[simp] def listed (name : String) (r : Reader β) (write : β → Json) (get : α → Listed β)
    (put : Listed β → α → α) : Slot α :=
  ⟨name, Listed β, get, put, Reader.listed r, some .empty, (Facet.listed r write).write⟩

@[simp] def labels (name : String) (get : α → Sorted String)
    (put : Sorted String → α → α) : Slot α :=
  ⟨name, Sorted String, get, put, Reader.labels, some .empty, Facet.labels.write⟩

theorem written_cons (s : Slot α) (slots : List (Slot α)) (x : α) :
    written (s :: slots) x = (s.write (s.get x)).elim [] (fun v => [(s.name, v)]) ++ written slots x := by
  unfold written
  rw [List.map_cons, List.filterMap_cons]
  cases s.write (s.get x) <;> rfl

end Slot

theorem optionalField_eq (name : String) (s : Option String) :
    optionalField name s = (Facet.note.write s).elim [] fun v => [(name, v)] := by
  cases s <;> rfl

/-! ## Installments -/

namespace Installment

def slots : List (Slot Installment) :=
  [.amount "offeringAmount" (·.amount) fun x i => { i with amount := x },
   .note "offeringTime" (·.time) fun s i => { i with time := s }]

theorem described : layout.Described slots fun _ => [] where
  fields_eq := rfl
  nodup := by decide
  blank_of_required := by simp [layout]
  required_of_blank := by simp [slots]
  blank_eq := by simp [slots, layout]
  sound_of_blank := by simp [slots]
  set_eq := by
    simp only [slots, List.forall_mem_cons]
    exact ⟨fun _ _ => rfl, fun _ _ => rfl, by simp⟩
  get_put := by simp [slots]
  get_put_of_ne := by simp [slots]
  rest_put _ _ _ _ := rfl
  get_keep := by simp [layout]
  rest_keep := by simp [layout]
  rest_blank := rfl
  rest_nodup _ := List.nodup_nil
  ext x y h _ := by
    cases x; cases y
    simpa [slots] using h

theorem toJson_eq (i : Installment) : i.toJson = .record (Slot.written slots i ++ []) := by
  cases i with
  | mk amount time => cases time <;> rfl

theorem steady : (Facet.whole layout.read toJson).Steady := by
  refine described.steady toJson_eq ?_
  simp only [slots, List.forall_mem_cons]
  exact ⟨Facet.amount_steady, Facet.note_steady, by simp⟩

end Installment

/-! ## Offerings -/

namespace Offering

def slots : List (Slot Offering) :=
  [.note "offeringSKU" (·.sku) fun s o => { o with sku := s },
   .note "offeringTime" (·.time) fun s o => { o with time := s },
   .listed "installments" Installment.layout.read Installment.toJson (·.installments)
     fun m o => { o with installments := m }]

theorem described : layout.Described slots (·.extra.entries) where
  fields_eq := rfl
  nodup := by decide
  blank_of_required := by simp [layout]
  required_of_blank := by simp [slots]
  blank_eq := by simp [slots, layout]
  sound_of_blank := by simp [slots]
  set_eq := by
    simp only [slots, List.forall_mem_cons]
    exact ⟨fun _ _ => rfl, fun _ _ => rfl, fun _ _ => bind_pure_comp _ _, by simp⟩
  get_put := by simp [slots]
  get_put_of_ne := by simp [slots]
  rest_put := by simp [slots]
  get_keep := by simp [layout, slots]
  rest_keep := by simp [layout, Listed.insert]
  rest_blank := rfl
  rest_nodup o := o.extra.distinct
  ext x y h hrest := by
    cases x; cases y
    have hextra := Listed.ext hrest
    simp_all [slots]

theorem toJson_eq (o : Offering) : o.toJson = .record (Slot.written slots o ++ o.extra.entries) := by
  cases o with
  | mk sku time installments extra => cases sku <;> cases time <;> rfl

theorem steady : (Facet.whole layout.read toJson).Steady := by
  refine described.steady toJson_eq ?_
  simp only [slots, List.forall_mem_cons]
  exact ⟨Facet.note_steady, Facet.note_steady, Facet.listed_steady Installment.steady, by simp⟩

end Offering

/-! ## Programs -/

/-- Whether each retreat was picked is read after the whole record, which makes no difference. -/
theorem listed_flag (v : Json) : Reader.listed Reader.flag (.value v) =
    (fun picks => Listed.ofList (picks.map fun (k, w) => (k, w.isSet))) <$>
      Reader.orBlank [] (Reader.entries Reader.json) (.value v) := by
  cases v with
  | record fs =>
    change Listed.ofList <$> Reader.entries Reader.flag (.value (.record fs)) =
      _ <$> Reader.entries Reader.json (.value (.record fs))
    rw [Reader.entries_record, Reader.entries_record, Reader.eachField_json, Reader.eachField_flag]
    rfl
  | _ => rfl

namespace Program

def slots : List (Slot Program) :=
  [.flag "join" (·.join) fun b p => { p with join := b },
   .flag "accepted" (·.accepted) fun b p => { p with accepted := b },
   .flag "withdrawn" (·.withdrawn) fun b p => { p with withdrawn := b },
   .flag "allow" (·.allow) fun b p => { p with allow := b },
   .flag "attended" (·.attended) fun b p => { p with attended := b },
   .flag "oath" (·.oath) fun b p => { p with oath := b },
   .flag "eligible" (·.eligible) fun b p => { p with eligible := b },
   .flag "manualInclude" (·.manualInclude) fun b p => { p with manualInclude := b },
   .flag "test" (·.test) fun b p => { p with test := b },
   .flag "limitFee" (·.limitFee) fun b p => { p with limitFee := b },
   .flag "owyaa" (·.owyaa) fun b p => { p with owyaa := b },
   .listed "whichRetreats" Reader.flag .bool (·.whichRetreats) fun m p => { p with whichRetreats := m },
   .sorted "offeringHistory" Offering.layout.read Offering.toJson (·.offeringHistory)
     fun m p => { p with offeringHistory := m }]

theorem set_whichRetreats (v : Json) (p : Program) : layout.set "whichRetreats" (.value v) p =
    (fun m => { p with whichRetreats := m }) <$> Reader.listed Reader.flag (.value v) := by
  rw [listed_flag, ← comp_map]
  exact bind_pure_comp _ _

theorem described : layout.Described slots (·.extra.entries) where
  fields_eq := rfl
  nodup := by decide
  blank_of_required := by simp [layout]
  required_of_blank := by simp [slots]
  blank_eq := by simp [slots, layout]
  sound_of_blank := by simp [slots]
  set_eq := by
    simp only [slots, List.forall_mem_cons]
    exact ⟨fun _ _ => rfl, fun _ _ => rfl, fun _ _ => rfl, fun _ _ => rfl, fun _ _ => rfl, fun _ _ => rfl,
      fun _ _ => rfl, fun _ _ => rfl, fun _ _ => rfl, fun _ _ => rfl, fun _ _ => rfl, set_whichRetreats,
      fun _ _ => bind_pure_comp _ _, by simp⟩
  get_put := by simp [slots]
  get_put_of_ne := by simp [slots]
  rest_put := by simp [slots]
  get_keep := by simp [layout, slots]
  rest_keep := by simp [layout, Listed.insert]
  rest_blank := rfl
  rest_nodup p := p.extra.distinct
  ext x y h hrest := by
    cases x; cases y
    have hextra := Listed.ext hrest
    simp_all [slots]

theorem toJson_eq (p : Program) : p.toJson = .record (Slot.written slots p ++ p.extra.entries) := rfl

theorem steady : (Facet.whole layout.read toJson).Steady := by
  refine described.steady toJson_eq ?_
  simp only [slots, List.forall_mem_cons]
  exact ⟨Facet.flag_steady, Facet.flag_steady, Facet.flag_steady, Facet.flag_steady, Facet.flag_steady,
    Facet.flag_steady, Facet.flag_steady, Facet.flag_steady, Facet.flag_steady, Facet.flag_steady,
    Facet.flag_steady, Facet.listed_steady Facet.whole_flag_steady, Facet.sorted_steady Offering.steady, by simp⟩

end Program

/-! ## Participants -/

namespace Participant

def slots : List (Slot Participant) :=
  [.label "id" none (·.id) fun s p => { p with id := s },
   .label "first" (some "") (·.first) fun s p => { p with first := s },
   .label "last" (some "") (·.last) fun s p => { p with last := s },
   .label "email" (some "") (·.email) fun s p => { p with email := s },
   .sorted "programs" Program.layout.read Program.toJson (·.programs) fun m p => { p with programs := m },
   .sorted "practice" Reader.json (fun v => v) (·.practice) fun m p => { p with practice := m },
   .labels "emails" (·.emails) fun m p => { p with emails := m },
   .note "spokenLangPref" (·.spokenLangPref) fun s p => { p with spokenLangPref := s },
   .note "writtenLangPref" (·.writtenLangPref) fun s p => { p with writtenLangPref := s },
   .flag "spokenTranslate" (·.spokenTranslate) fun b p => { p with spokenTranslate := b },
   .flag "unsubscribe" (·.unsubscribe) fun b p => { p with unsubscribe := b }]

theorem described : layout.Described slots (·.extra.entries) where
  fields_eq := rfl
  nodup := by decide
  blank_of_required := by simp [layout, slots]
  required_of_blank := by simp [slots, layout]
  blank_eq := by simp [slots, layout]
  sound_of_blank := by
    simp only [slots, List.forall_mem_cons]
    exact ⟨fun _ => ⟨some (.text ""), rfl⟩, by simp [Slot.label]⟩
  set_eq := by
    simp only [slots, List.forall_mem_cons]
    exact ⟨fun _ _ => rfl, fun _ _ => rfl, fun _ _ => rfl, fun _ _ => rfl, fun _ _ => bind_pure_comp _ _,
      fun _ _ => bind_pure_comp _ _, fun _ _ => bind_pure_comp _ _, fun _ _ => rfl, fun _ _ => rfl, fun _ _ => rfl,
      fun _ _ => rfl, by simp⟩
  get_put := by simp [slots]
  get_put_of_ne := by simp [slots]
  rest_put := by simp [slots]
  get_keep := by simp [layout, slots]
  rest_keep := by simp [layout, Listed.insert]
  rest_blank := rfl
  rest_nodup p := p.extra.distinct
  ext x y h hrest := by
    cases x; cases y
    have hextra := Listed.ext hrest
    simp_all [slots]

theorem toJson_eq (p : Participant) : p.toJson = .record (Slot.written slots p ++ p.extra.entries) := by
  cases p with
  | mk id first last email programs practice emails spoken written translate unsubscribe extra =>
    cases spoken <;> cases written <;>
      simp [toJson, slots, Slot.written, Facet.label,
        Facet.sorted, Facet.labels, Facet.note, Facet.flag, Facet.ofReader, optionalField]

theorem steady : (Facet.whole layout.read toJson).Steady := by
  refine described.steady toJson_eq ?_
  simp only [slots, List.forall_mem_cons]
  exact ⟨Facet.label_steady _, Facet.label_steady _, Facet.label_steady _, Facet.label_steady _,
    Facet.sorted_steady Program.steady, Facet.sorted_steady Facet.whole_json_steady, Facet.labels_steady,
    Facet.note_steady, Facet.note_steady, Facet.flag_steady, Facet.flag_steady, by simp⟩

end Participant

end RetreatDesk
