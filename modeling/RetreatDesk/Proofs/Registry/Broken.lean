import RetreatDesk.Proofs.Json.Path
import RetreatDesk.Proofs.Reading.Rejection
import RetreatDesk.Proofs.Registry.Written

/-!
# Records of people that cannot be read

* `Installment.Broken`, `Offering.Broken`, `Program.Broken`: what is refused as one. Of an offering and of a program only
  the containers in it can be broken; no other field is ever refused.
* `Participant.Broken`: a record of a person with a broken container.
* `Offering.broken_iff`, `Program.broken_iff`, `Participant.broken_iff`: broken is what holds, at the end of some path, a
  value that is refused there (`RefusedAt`).
* `Participant.exists_read_iff`: a record of a person that has a key can be read exactly if it is not broken.
* `Participant.broken_settle_iff`: what a change leaves of a person is broken exactly if the change is.
-/

namespace RetreatDesk

open Json

namespace Facet

section
variable {broken : Json → Prop} (hnone : ∀ v, ¬ broken v)

include hnone

theorem flag_refuses : flag.Refuses broken := refuses_nothing (fun _ => ⟨_, rfl⟩) hnone

theorem label_refuses (blank : Option String) : (label blank).Refuses broken := refuses_nothing (fun _ => ⟨_, rfl⟩) hnone

theorem note_refuses : note.Refuses broken := refuses_nothing (fun _ => ⟨_, rfl⟩) hnone

end

theorem whole_flag_refuses : (whole Reader.flag .bool).Refuses fun _ => False :=
  refuses_nothing (fun _ => ⟨_, rfl⟩) fun _ => id

theorem whole_json_refuses : (whole Reader.json fun v => v).Refuses fun _ => False :=
  refuses_nothing (fun _ => ⟨_, rfl⟩) fun _ => id

end Facet

/-! ## Installments -/

namespace Installment

/-- Neither a record nor a list of at most two items, the amount and the time. -/
def Broken : Json → Prop
  | .record _ => False
  | .list items => 2 < items.length
  | _ => True

/-- A list is read item by item, and what is missing is blank. -/
theorem exists_read_list_iff (items : List Json) :
    (∃ i, layout.read (.value (.list items)) = .ok i) ↔ ¬ Broken (.list items) := by
  rcases items with - | ⟨amount, - | ⟨time, - | ⟨more, rest⟩⟩⟩
  · exact iff_of_true ⟨_, rfl⟩ (by simp [Broken])
  · exact iff_of_true ⟨_, rfl⟩ (by simp [Broken])
  · exact iff_of_true ⟨_, rfl⟩ (by simp [Broken])
  · refine iff_of_false ?_ (by simp [Broken])
    rintro ⟨i, hi⟩
    cases hi

theorem refuses : (Facet.whole layout.read toJson).Refuses Broken := by
  have hrecord : ∀ fs, Broken (.record fs) ↔ ∃ k v, fs.lookup k = some v ∧ False := by simp [Broken]
  refine (described.composite toJson_eq).refuses _ hrecord (fun u hu => ?_) readsBack fun _ _ _ _ _ => Iff.rfl
  change (∃ i, layout.read (.value u) = .ok i) ↔ _
  cases u with
  | record fs =>
    have hslots : ∀ s ∈ slots, ∀ v, ∃ x, s.reader (.value v) = .ok x := by
      simp only [slots, List.forall_mem_cons]
      exact ⟨fun _ => ⟨_, rfl⟩, fun _ => ⟨_, rfl⟩, by simp⟩
    rw [described.exists_read_record_iff ((described.composite toJson_eq).arises_record hu).1]
    exact iff_of_true ⟨by simp [layout], fun s hs v _ => hslots s hs v⟩ id
  | list items => exact exists_read_list_iff items
  | _ =>
    refine iff_of_false ?_ (not_not_intro trivial)
    rintro ⟨i, hi⟩
    cases hi

end Installment

/-! ## Offerings -/

namespace Offering

/-- A field of an offering that is refused. -/
def BrokenField (name : String) (v : Json) : Prop := name = "installments" ∧ BrokenContainer Installment.Broken v

def Broken : Json → Prop := BrokenRecord BrokenField

theorem mem_fields_of_brokenField (k : String) (v : Json) (h : BrokenField k v) : k ∈ layout.fields := by
  rw [h.1]
  decide

theorem slots_refuse : ∀ s ∈ slots, s.part.Refuses (BrokenField s.name) := by
  simp only [slots, List.forall_mem_cons]
  exact ⟨Facet.note_refuses (by simp [BrokenField]), Facet.note_refuses (by simp [BrokenField]),
    (Facet.listed_refuses Installment.readsBack Installment.refuses).congr (by simp [BrokenField]), by simp⟩

theorem refuses : (Facet.whole layout.read toJson).Refuses Broken :=
  described.refuses toJson_eq slots_refuse mem_fields_of_brokenField rfl rfl readsBack

/-- What is refused where in an offering. -/
def RefusedAt : List String → Json → Prop
  | [], v => v.isRecord = false
  | ["installments"], v => v ≠ .null ∧ v.isRecord = false
  | ["installments", _], v => Installment.Broken v
  | _, _ => False

theorem broken_iff {v : Json} : Broken v ↔ ∃ path w, v.at? path = some w ∧ RefusedAt path w := by
  rw [exists_at?_iff]
  refine or_congr_right (exists₂_congr fun k u => and_congr_right fun _ => ?_)
  by_cases hk : k = "installments"
  · subst hk
    rw [exists_at?_iff]
    refine (and_iff_right rfl).trans (brokenContainer_iff.trans ?_)
    refine or_congr_right (exists₂_congr fun k u => and_congr_right fun _ => ?_)
    rw [exists_at?_iff]
    simp [RefusedAt]
  · simp [BrokenField, RefusedAt, hk]

end Offering

/-! ## Programs -/

namespace Program

/-- A field of a program that is refused. -/
def BrokenField (name : String) (v : Json) : Prop :=
  (name = "whichRetreats" ∧ BrokenContainer (fun _ => False) v) ∨
    (name = "offeringHistory" ∧ BrokenContainer Offering.Broken v)

def Broken : Json → Prop := BrokenRecord BrokenField

theorem mem_fields_of_brokenField (k : String) (v : Json) (h : BrokenField k v) : k ∈ layout.fields := by
  rcases h with ⟨rfl, -⟩ | ⟨rfl, -⟩ <;> decide

theorem slots_refuse : ∀ s ∈ slots, s.part.Refuses (BrokenField s.name) := by
  have hflag : ∀ name, name ∉ ["whichRetreats", "offeringHistory"] → Facet.flag.Refuses (BrokenField name) := by
    intro name hname
    simp only [List.mem_cons, List.not_mem_nil, or_false, not_or] at hname
    exact Facet.flag_refuses (by simp [BrokenField, hname])
  simp only [slots, List.forall_mem_cons]
  exact ⟨hflag _ (by decide), hflag _ (by decide), hflag _ (by decide), hflag _ (by decide), hflag _ (by decide),
    hflag _ (by decide), hflag _ (by decide), hflag _ (by decide), hflag _ (by decide), hflag _ (by decide),
    hflag _ (by decide),
    (Facet.listed_refuses Facet.whole_flag_readsBack Facet.whole_flag_refuses).congr (by simp [BrokenField]),
    (Facet.sorted_refuses Offering.readsBack Offering.refuses).congr (by simp [BrokenField]), by simp⟩

theorem refuses : (Facet.whole layout.read toJson).Refuses Broken :=
  described.refuses toJson_eq slots_refuse mem_fields_of_brokenField rfl rfl readsBack

/-- What is refused where in a program. -/
def RefusedAt : List String → Json → Prop
  | [], v => v.isRecord = false
  | ["whichRetreats"], v => v ≠ .null ∧ v.isRecord = false
  | ["offeringHistory"], v => v ≠ .null ∧ v.isRecord = false
  | "offeringHistory" :: _ :: rest, v => Offering.RefusedAt rest v
  | _, _ => False

theorem broken_iff {v : Json} : Broken v ↔ ∃ path w, v.at? path = some w ∧ RefusedAt path w := by
  rw [exists_at?_iff]
  refine or_congr_right (exists₂_congr fun k u => and_congr_right fun _ => ?_)
  by_cases hpicks : k = "whichRetreats"
  · subst hpicks
    rw [exists_at?_iff]
    simp [BrokenField, brokenContainer_iff, RefusedAt]
  by_cases hhistory : k = "offeringHistory"
  · subst hhistory
    rw [exists_at?_iff]
    simp [BrokenField, brokenContainer_iff, Offering.broken_iff, RefusedAt]
  · simp [BrokenField, RefusedAt, hpicks, hhistory]

end Program

/-! ## People -/

namespace Participant

/-- A field of a person that is refused. -/
def BrokenField (name : String) (v : Json) : Prop :=
  (name = "programs" ∧ BrokenContainer Program.Broken v) ∨
    (name ∈ ["practice", "emails"] ∧ BrokenContainer (fun _ => False) v)

/-- A record of a person with a field that is refused. -/
def Broken (v : Json) : Prop := ∃ k w, v.get? k = some w ∧ BrokenField k w

theorem mem_fields_of_brokenField (k : String) (v : Json) (h : BrokenField k v) : k ∈ layout.fields := by
  rcases h with ⟨rfl, -⟩ | ⟨hk, -⟩
  · decide
  · rcases List.mem_pair.mp hk with rfl | rfl <;> decide

theorem slots_refuse : ∀ s ∈ slots, s.part.Refuses (BrokenField s.name) := by
  have hsound : ∀ name, name ∉ ["programs", "practice", "emails"] → ∀ v, ¬ BrokenField name v := by
    intro name hname
    simp only [List.mem_cons, List.not_mem_nil, or_false, not_or] at hname
    simp [BrokenField, hname]
  have hlabel := fun name hname blank => Facet.label_refuses (hsound name hname) blank
  simp only [slots, List.forall_mem_cons]
  exact ⟨hlabel _ (by decide) _, hlabel _ (by decide) _, hlabel _ (by decide) _, hlabel _ (by decide) _,
    (Facet.sorted_refuses Program.readsBack Program.refuses).congr (by simp [BrokenField]),
    (Facet.sorted_refuses Facet.whole_json_readsBack Facet.whole_json_refuses).congr (by simp [BrokenField]),
    Facet.labels_refuses.congr (by simp [BrokenField]), Facet.note_refuses (hsound _ (by decide)),
    Facet.note_refuses (hsound _ (by decide)), Facet.flag_refuses (hsound _ (by decide)),
    Facet.flag_refuses (hsound _ (by decide)), by simp⟩

/-- A record that changes leave of a person, with the key in it, can be read exactly if it is not broken. -/
theorem exists_read_iff {fs : List (String × Json)} (h : (Facet.whole layout.read toJson).Arises (.record fs))
    (hid : "id" ∈ keysOf fs) : (∃ p, layout.read (.value (.record fs)) = .ok p) ↔ ¬ Broken (.record fs) := by
  rw [described.exists_read_iff toJson_eq slots_refuse mem_fields_of_brokenField h]
  exact and_iff_right (by simpa [layout] using hid)

/-- What a change leaves of a person is broken exactly if the change is. -/
theorem broken_settle_iff {t : Option Json} (ht : (Facet.whole layout.read toJson).Stands t)
    {changes : List (String × Json)} (hchanges : (Json.record changes).Distinct) :
    Broken (settle t (.record changes)) ↔ Broken (.record changes) :=
  described.broken_settle_iff toJson_eq slots_refuse mem_fields_of_brokenField readsBack ht hchanges

/-- What is refused where in a record of a person. -/
def RefusedAt : List String → Json → Prop
  | ["programs"], v => v ≠ .null ∧ v.isRecord = false
  | ["practice"], v => v ≠ .null ∧ v.isRecord = false
  | ["emails"], v => v ≠ .null ∧ v.isRecord = false
  | "programs" :: _ :: rest, v => Program.RefusedAt rest v
  | _, _ => False

theorem broken_iff {v : Json} : Broken v ↔ ∃ path w, v.at? path = some w ∧ RefusedAt path w := by
  rw [exists_at?_iff]
  have hself : ¬ RefusedAt [] v := by simp [RefusedAt]
  rw [or_iff_right hself]
  refine exists₂_congr fun k u => and_congr_right fun _ => ?_
  by_cases hprograms : k = "programs"
  · subst hprograms
    rw [exists_at?_iff]
    simp [BrokenField, brokenContainer_iff, Program.broken_iff, RefusedAt]
  by_cases hrecord : k ∈ ["practice", "emails"]
  · rw [exists_at?_iff]
    rcases List.mem_pair.mp hrecord with rfl | rfl <;> simp [BrokenField, brokenContainer_iff, RefusedAt]
  · obtain ⟨hpractice, hemails⟩ : k ≠ "practice" ∧ k ≠ "emails" := by simpa using hrecord
    simp [BrokenField, RefusedAt, hprograms, hpractice, hemails]

end Participant

end RetreatDesk
