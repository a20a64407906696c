import RetreatDesk.Registry.View
import RetreatDesk.Proofs.Reading.Items
import RetreatDesk.Proofs.Reading.Tagged
import RetreatDesk.Proofs.Registry.Slots

/-!
# Views as they are written

* `ColumnDef.described`, `View.described`: the layouts are nothing but their slots.
* `ViewFilter.solid_of_read`: no condition that has been read asks for a blank sub-event.
* `ViewFilter.readsBack`: such a condition is read back as it was, one that asks for nothing too.
* `View.readsBack`: a view is read back as it was.
-/

namespace RetreatDesk

open Json

/-! ## Columns -/

namespace ColumnDef

def slots : List (Slot ColumnDef) :=
  [.label "name" none (·.name) fun s c => { c with name := s },
   .note "headerName" (·.header) fun s c => { c with header := s },
   .note "pool" (·.pool) fun s c => { c with pool := s },
   .note "aid" (·.aid) fun s c => { c with aid := s },
   .note "map" (·.map) fun s c => { c with map := s },
   .note "boolName" (·.boolName) fun s c => { c with boolName := s },
   .note "stringName" (·.stringName) fun s c => { c with stringName := s },
   .note "numberName" (·.numberName) fun s c => { c with numberName := s },
   .note "field" (·.field) fun s c => { c with field := s },
   .flag "hidden" (·.hidden) fun b c => { c with hidden := b }]

theorem described : layout.Described slots fun _ => [] where
  fields_eq := rfl
  nodup := by decide
  blank_of_required := by simp [layout, slots]
  required_of_blank := by simp [slots, layout]
  blank_eq := by simp [slots, layout]
  sound_of_blank := by
    simp only [slots, List.forall_mem_cons]
    exact ⟨fun _ => ⟨some (.text ""), rfl⟩, by simp⟩
  set_eq := by
    simp only [slots, List.forall_mem_cons]
    exact ⟨fun _ _ => rfl, fun _ _ => rfl, fun _ _ => rfl, fun _ _ => rfl, fun _ _ => rfl, fun _ _ => rfl,
      fun _ _ => rfl, fun _ _ => rfl, fun _ _ => rfl, fun _ _ => rfl, by simp⟩
  get_put := by simp [slots]
  get_put_of_ne := by simp [slots]
  rest_put _ _ _ _ := rfl
  get_keep := by simp [layout]
  rest_keep := by simp [layout]
  rest_blank := rfl
  rest_nodup _ := List.nodup_nil
  ext x y h _ := by
    cases x; cases y
    simp_all [slots]

theorem toJson_eq (c : ColumnDef) : c.toJson = .record (Slot.written slots c ++ []) := by
  simp only [toJson, slots, Slot.written_cons, optionalField_eq, List.append_assoc]
  rfl

theorem slots_readBack : ∀ s ∈ slots, s.facet.ReadsBack id := by
  have hnote : ∀ get : ColumnDef → Option String, (Facet.note.along get).ReadsBack id := fun _ =>
    Facet.note_readsBack.along fun _ => rfl
  simp only [slots, List.forall_mem_cons]
  exact ⟨(Facet.label_readsBack none).along fun _ => rfl, hnote _, hnote _, hnote _, hnote _, hnote _, hnote _, hnote _,
    hnote _, Facet.flag_readsBack.along fun _ => rfl, by simp⟩

theorem readsBack : (Facet.whole layout.read toJson).ReadsBack id :=
  described.readsBack toJson_eq slots_readBack fun _ => rfl

end ColumnDef

/-! ## Conditions -/

namespace ViewFact

/-- A fact is not about a blank sub-event. -/
def Solid : ViewFact → Prop
  | offering (some s) => Text.allBlank s = false
  | deposit (some s) => Text.allBlank s = false
  | _ => True

theorem solid_withText (name value : String) {fact : ViewFact} (h : fact.Solid) : (fact.withText name value).Solid := by
  cases fact with
  | currentMap map field =>
    change Solid (if name = "map" then _ else _)
    split <;> trivial
  | offering _ | deposit _ => exact h
  | _ => trivial

theorem solid_withSubEvent {v : Json} {s : Option String} (hs : Reader.note (.value v) = .ok s) {fact : ViewFact}
    (h : fact.Solid) : (fact.withSubEvent s).Solid := by
  cases fact with
  | offering _ | deposit _ =>
    cases s with
    | none => trivial
    | some t => exact Facet.solid_of_note hs
  | _ => exact h

end ViewFact

namespace ViewFilter

def Solid : ViewFilter → Prop
  | expect fact _ => fact.Solid
  | unknown => True

theorem solid_blank (tag : String) : (layout tag).blank.Solid := by
  unfold layout
  cases htag : ViewFact.withTag? tag with
  | none => trivial
  | some fact =>
    unfold ViewFact.withTag? at htag
    split at htag <;> cases htag <;> trivial

theorem solid_take {tag : String} {f f' : ViewFilter} {k : String} {v : Json} (h : f.Solid)
    (hread : (layout tag).take f k (.value v) = .ok f') : f'.Solid := by
  unfold Layout.take at hread
  split at hread
  · unfold layout at hread
    split at hread
    · cases hread
      exact h
    · cases f with
      | unknown =>
        cases hread
        trivial
      | expect fact value =>
        dsimp only at hread
        split at hread
        · cases hread
          exact h
        · split at hread
          · obtain ⟨s, hs, hread⟩ := bind_eq_ok.mp hread
            cases hread
            exact ViewFact.solid_withSubEvent hs h
          · obtain ⟨s, -, hread⟩ := bind_eq_ok.mp hread
            cases hread
            exact ViewFact.solid_withText k s h
  · rw [Layout.other_value] at hread
    cases hread
    unfold layout
    cases ViewFact.withTag? tag <;> exact h

/-- No condition that has been read asks for a blank sub-event. -/
theorem solid_of_read {d : Draft} {f : ViewFilter} (h : tagged.read d = .ok f) : f.Solid :=
  tagged.read_invariant solid_blank (fun _ _ _ _ _ hf hread => solid_take hf hread) h

/-- A sub-event that is not blank is read as it is, whether it comes with an offering or a deposit. -/
theorem read_subEvent {tag : String} {fact : ViewFact} (htag : ViewFact.withTag? tag = some fact)
    (hnames : fact.parameterNames = ["subEvent"]) (hrequired : keysOf fact.parameters = []) {s : String}
    (hs : Text.allBlank s = false) (value : Bool) :
    (layout tag).read (.value (.record [("subEvent", .text s), ("boolValue", .bool value)])) =
      .ok (expect (fact.withSubEvent (some s)) value) := by
  have hblank : (layout tag).blank = expect fact true := by rw [layout, htag]
  have hnothing : (layout tag).required = [] := by rw [layout, htag, ← hrequired]
  have hsubEvent : (layout tag).take (expect fact true) "subEvent" (.value (.text s)) =
      .ok (expect (fact.withSubEvent (some s)) true) := by
    simp [Layout.take, layout, htag, hnames, Facet.note_of_solid hs]
  have hvalue : (layout tag).take (expect (fact.withSubEvent (some s)) true) "boolValue" (.value (.bool value)) =
      .ok (expect (fact.withSubEvent (some s)) value) := by
    simp [Layout.take, layout, htag, hnames]
    rfl
  refine ((layout tag).read_record_eq_ok (by simp [hnothing]) (by simp [keysOf])).mpr ⟨?_, by simp [hnothing]⟩
  rw [hblank, Layout.takeAll_cons, hsubEvent]
  change (Layout.takeAll _ _ [("boolValue", .bool value)]) = _
  rw [Layout.takeAll_cons, hvalue]
  rfl

theorem read_toJson {f : ViewFilter} (h : f.Solid) : tagged.read (.value f.toJson) = .ok f := by
  cases f with
  | unknown => rfl
  | expect fact value =>
    -- Only a sub-event may be missing, and only it is looked at again when it is there.
    cases fact with
    | offering s =>
      cases s with
      | none => rfl
      | some s =>
        have hread : (layout "offering").read _ = _ := read_subEvent rfl rfl rfl h value
        exact hread
    | deposit s =>
      cases s with
      | none => rfl
      | some s =>
        have hread : (layout "deposit").read _ = _ := read_subEvent rfl rfl rfl h value
        exact hread
    | _ => rfl

theorem readsBack : (Facet.whole tagged.read toJson).ReadsBack id := by
  rintro f ⟨t, ht⟩
  cases t with
  | none => cases ht
  | some v => exact read_toJson (solid_of_read ht)

end ViewFilter

/-! ## Views -/

namespace View

def slots : List (Slot View) :=
  [.label "name" none (·.name) fun s v => { v with name := s },
   .soundItems "columnDefs" ColumnDef.layout.read ColumnDef.toJson (·.columns) fun cs v => { v with columns := cs },
   .allItems "viewConditions" .unknown ViewFilter.tagged.read ViewFilter.toJson (·.filters)
     fun fs v => { v with filters := fs }]

theorem described : layout.Described slots fun _ => [] where
  fields_eq := rfl
  nodup := by decide
  blank_of_required := by simp [layout, slots]
  required_of_blank := by simp [slots, layout]
  blank_eq := by simp [slots, layout]
  sound_of_blank := by
    simp only [slots, List.forall_mem_cons]
    exact ⟨fun _ => ⟨some (.text ""), rfl⟩, by simp⟩
  set_eq := by
    simp only [slots, List.forall_mem_cons]
    exact ⟨fun _ _ => rfl, fun _ _ => bind_pure_comp _ _, fun _ _ => bind_pure_comp _ _, by simp⟩
  get_put := by simp [slots]
  get_put_of_ne := by simp [slots]
  rest_put _ _ _ _ := rfl
  get_keep := by simp [layout]
  rest_keep := by simp [layout]
  rest_blank := rfl
  rest_nodup _ := List.nodup_nil
  ext x y h _ := by
    cases x; cases y
    simp_all [slots]

theorem toJson_eq (v : View) : v.toJson = .record (Slot.written slots v ++ []) := rfl

theorem slots_readBack : ∀ s ∈ slots, s.facet.ReadsBack id := by
  have hcolumns := Facet.soundItems_readsBack ColumnDef.readsBack
  have hfilters := Facet.allItems_readsBack ⟨ViewFilter.unknown.toJson, ViewFilter.read_toJson trivial⟩
    ViewFilter.readsBack
  rw [List.map_id_fun] at hcolumns hfilters
  simp only [slots, List.forall_mem_cons]
  exact ⟨(Facet.label_readsBack none).along fun _ => rfl, hcolumns.along fun _ => rfl, hfilters.along fun _ => rfl,
    by simp⟩

/-- A view is read back as it was. -/
theorem readsBack : (Facet.whole layout.read toJson).ReadsBack id :=
  described.readsBack toJson_eq slots_readBack fun _ => rfl

end View

end RetreatDesk
