import RetreatDesk.Proofs.Reading.Parameters
import RetreatDesk.Proofs.Registry.Views

/-!
# Conditions as they are entered

* `ViewFilter.kinds`: the kinds of conditions, each with the parameters that it needs.
* `ViewFilter.tabular`: a condition is told by its tag and by what it holds under the names of its parameters.
* `ViewFilter.read_iff_spelledBy`: a condition is read off a record exactly if the record spells it.
* `ViewFilter.exists_read_iff_complete`: some condition is, exactly if the record has all that a kind needs.
-/

namespace RetreatDesk

open Json

/-- What a note makes of a value: its text, unless there is none or a blank one. -/
def Json.asNote (v : Json) : Option Json := ((v.text?).filter (!Text.allBlank ·)).map .text

theorem lookup_cons_eq_ite {α : Type} (k j : String) (v : α) (l : List (String × α)) :
    ((k, v) :: l).lookup j = if j = k then some v else l.lookup j := by
  split
  · next h => rw [h, List.lookup_cons_self]
  · next h => exact lookup_cons_of_ne h v l

theorem lookup_optionalField (name n : String) (s : Option String) :
    (optionalField name s).lookup n = if n = name then s.map .text else none := by
  cases s with
  | none => simp [optionalField]
  | some s => exact lookup_cons_eq_ite name n _ []

/-! ## Facts -/

namespace ViewFact

theorem withTag?_tag (fact : ViewFact) : ∃ blank, withTag? fact.tag = some blank ∧
    blank.tag = fact.tag ∧ blank.parameterNames = fact.parameterNames := by
  cases fact <;> exact ⟨_, rfl, rfl, rfl⟩

theorem tag_withTag? {s : String} {fact : ViewFact} (h : withTag? s = some fact) : fact.tag = s := by
  unfold withTag? at h
  split at h <;> cases h <;> rfl

theorem tag_withText (n s : String) (fact : ViewFact) : (fact.withText n s).tag = fact.tag := by
  cases fact <;> simp only [withText] <;> (try split) <;> rfl

theorem tag_withSubEvent (s : Option String) (fact : ViewFact) : (fact.withSubEvent s).tag = fact.tag := by
  cases fact <;> rfl

/-- A text that is set stands under its name, and the other parameters stay. -/
theorem lookup_withText (fact : ViewFact) : ∀ n ∈ fact.parameterNames, n ≠ "subEvent" → ∀ s m,
    (fact.withText n s).parameters.lookup m = if m = n then some (.text s) else fact.parameters.lookup m := by
  cases fact with
  | currentMap map name =>
    intro n hn _ s m
    rcases List.mem_cons.mp hn with rfl | hn
    · simp only [withText, parameters, lookup_cons_eq_ite, if_true]
      split <;> rfl
    · cases List.mem_singleton.mp hn
      have hother : ("boolName" : String) ≠ "map" := by decide
      simp only [withText, if_neg hother, parameters, lookup_cons_eq_ite]
      by_cases hmap : m = "map"
      · rw [if_pos hmap, if_pos hmap, if_neg fun hname => hother (hname.symm.trans hmap)]
      · rw [if_neg hmap, if_neg hmap]
        split <;> rfl
  | _ => simp +contextual [parameterNames, parameters, withText, lookup_cons_eq_ite]

theorem lookup_withSubEvent (fact : ViewFact) : "subEvent" ∈ fact.parameterNames → ∀ s m,
    (fact.withSubEvent s).parameters.lookup m =
      if m = "subEvent" then s.map .text else fact.parameters.lookup m := by
  cases fact <;> simp +contextual [parameterNames, parameters, withSubEvent, lookup_optionalField]

theorem ext_parameters {a b : ViewFact} (htag : a.tag = b.tag)
    (h : ∀ n ∈ a.parameterNames, a.parameters.lookup n = b.parameters.lookup n) : a = b := by
  cases a <;> cases b <;>
    simp_all [tag, parameters, parameterNames, lookup_optionalField, lookup_cons_eq_ite, Option.map_inj_right]

theorem keysOf_parameters_subset (fact : ViewFact) : keysOf fact.parameters ⊆ fact.parameterNames := by
  cases fact with
  | offering s | deposit s => cases s <;> simp [parameters, parameterNames, optionalField]
  | _ => exact List.Subset.refl _

/-- Every parameter but the sub-event is a text, and none has the name of another field. -/
theorem lookup_parameter (fact : ViewFact) : ∀ n ∈ fact.parameterNames, n ≠ "name" ∧ n ≠ "boolValue" ∧
    (n ≠ "subEvent" → ∃ s, fact.parameters.lookup n = some (.text s)) := by
  cases fact <;> simp [parameterNames, parameters, lookup_cons_eq_ite]

/-- A fact whose parameters are not known yet is about no sub-event. -/
theorem lookup_subEvent_of_blank {s : String} {blank : ViewFact} (h : withTag? s = some blank) :
    blank.parameters.lookup "subEvent" = none := by
  unfold withTag? at h
  split at h <;> cases h <;> rfl

end ViewFact

/-! ## Conditions -/

namespace ViewFilter

/-- The kinds of conditions. -/
def kinds : List (String × List String) :=
  [("currentAIDBool", ["boolName"]), ("currentAIDMapBool", ["map", "boolName"]), ("baseBool", ["boolName"]),
   ("practiceBool", ["boolName"]), ("poolMember", ["pool"]), ("offering", []), ("deposit", []),
   ("spokenLanguage", ["stringValue"]), ("writtenLanguage", ["stringValue"])]

/-- The fields of a record are those of a condition: a kind with all that it needs. -/
def Complete (fs : List (String × Json)) : Prop := ∃ kind, OfKind kinds "name" fs kind

/-- The fields of a record spell a condition: its tag, each of its parameters as it is, and the answer that is expected,
which is yes if there is none. A sub-event, where there can be one, is taken for a note. -/
structure SpelledBy (fs : List (String × Json)) (fact : ViewFact) (value : Bool) : Prop where
  tag : fs.lookup "name" = some (.text fact.tag)
  parameter : ∀ n ∈ fact.parameterNames, n ≠ "subEvent" → fs.lookup n = fact.parameters.lookup n
  subEvent : "subEvent" ∈ fact.parameterNames →
    fact.parameters.lookup "subEvent" = (fs.lookup "subEvent").bind asNote
  value : value = (fs.lookup "boolValue").elim true isSet

/-! ### What is read -/

/-- What a condition holds under the name of a field. -/
def held : ViewFilter → String → Option Json
  | expect fact value, n => if n = "boolValue" then some (.bool value) else fact.parameters.lookup n
  | unknown, _ => none

/-- What becomes of a value under the name of a field. -/
def taken (n : String) (v : Json) : Option (Option Json) :=
  if n = "boolValue" then some (some (.bool v.isSet))
  else if n = "subEvent" then some v.asNote
  else (Reader.ofJson? (Reader.text .string) v).map fun s => some (.text s)

/-- A condition of the kind that a tag names. -/
def HasTag (tag : String) (f : ViewFilter) : Prop :=
  match f with
  | expect fact _ => fact.tag = tag
  | unknown => ViewFact.withTag? tag = none

section
variable {s : String} {blank : ViewFact} (h : ViewFact.withTag? s = some blank)

include h

theorem fields_layout : (layout s).fields = blank.parameterNames ++ ["boolValue"] := by
  simp only [layout, h]

theorem required_layout : (layout s).required = keysOf blank.parameters := by
  simp only [layout, h]

theorem set_layout (n : String) (v : Json) (fact : ViewFact) (value : Bool) :
    (layout s).set n (.value v) (expect fact value) =
      if n = "boolValue" then .ok (expect fact v.isSet)
      else if n = "subEvent" then .ok (expect (fact.withSubEvent ((v.text?).filter (!Text.allBlank ·))) value)
      else (fun t => expect (fact.withText n t) value) <$> Reader.text .string (.value v) := by
  simp only [layout, h]
  rfl

theorem exists_fact {f : ViewFilter} (hf : HasTag s f) : ∃ fact value, f = expect fact value ∧ fact.tag = s ∧
    fact.parameterNames = blank.parameterNames := by
  cases f with
  | unknown => cases hf.symm.trans h
  | expect fact value =>
    obtain ⟨blank', hblank', -, hnames⟩ := fact.withTag?_tag
    have htag : fact.tag = s := hf
    rw [htag, h] at hblank'
    cases hblank'
    exact ⟨fact, value, rfl, htag, hnames.symm⟩

theorem blank_layout : (layout s).blank = expect blank true := by
  simp only [layout, h]

theorem tabular_of_known : (layout s).Tabular (HasTag s) held taken where
  keep_eq := by simp only [layout, h]
  required_subset n hn := by
    rw [required_layout h] at hn
    rw [fields_layout h]
    exact List.mem_append_left _ (blank.keysOf_parameters_subset hn)
  kind_blank := by
    rw [blank_layout h]
    exact ViewFact.tag_withTag? h
  of_set {n v a b} hn ha hset := by
    obtain ⟨fact, value, rfl, htag, hnames⟩ := exists_fact h ha
    rw [fields_layout h, ← hnames] at hn
    rw [set_layout h] at hset
    unfold taken
    split at hset
    · next hvalue =>
      cases hset
      refine ⟨htag, ?_, fun m _ hm => ?_⟩
      · rw [if_pos hvalue, held, if_pos hvalue]
      · rw [held, held, if_neg (hvalue ▸ hm), if_neg (hvalue ▸ hm)]
    · next hvalue =>
      have hn : n ∈ fact.parameterNames := by simpa [hvalue] using hn
      split at hset
      · next hsub =>
        cases hset
        subst hsub
        refine ⟨(fact.tag_withSubEvent _).trans htag, ?_, fun m _ hm => ?_⟩
        · rw [if_neg hvalue, if_pos rfl, held, if_neg hvalue, fact.lookup_withSubEvent hn, if_pos rfl]
          rfl
        · rw [held, held, fact.lookup_withSubEvent hn, if_neg hm]
      · next hsub =>
        obtain ⟨t, ht, rfl⟩ := map_eq_ok.mp hset
        refine ⟨(fact.tag_withText n t).trans htag, ?_, fun m _ hm => ?_⟩
        · rw [if_neg hvalue, if_neg hsub, held, if_neg hvalue, fact.lookup_withText n hn hsub, if_pos rfl,
            Reader.ofJson?_eq_some.mpr ht]
          rfl
        · rw [held, held, fact.lookup_withText n hn hsub, if_neg hm]
  exists_set {n v a} hn ha hv := by
    obtain ⟨fact, value, rfl, -, -⟩ := exists_fact h ha
    unfold taken at hv
    rw [set_layout h]
    split at hv
    · next hvalue => exact ⟨_, if_pos hvalue⟩
    · next hvalue =>
      rw [if_neg hvalue]
      split at hv
      · next hsub => exact ⟨_, if_pos hsub⟩
      · next hsub =>
        rw [if_neg hsub]
        obtain ⟨t, ht⟩ := Option.ne_none_iff_exists'.mp hv
        obtain ⟨text, htext, -⟩ := Option.map_eq_some_iff.mp ht
        exact ⟨_, map_eq_ok.mpr ⟨text, Reader.ofJson?_eq_some.mp htext, rfl⟩⟩
  ext {a b} ha hb hheld := by
    obtain ⟨fact, value, rfl, htag, hnames⟩ := exists_fact h ha
    obtain ⟨fact', value', rfl, htag', -⟩ := exists_fact h hb
    rw [fields_layout h, ← hnames] at hheld
    have hvalue : value = value' := by
      simpa [held] using hheld "boolValue" (List.mem_append_right _ List.mem_cons_self)
    have hfact : fact = fact' := by
      refine ViewFact.ext_parameters (htag.trans htag'.symm) fun n hn => ?_
      have hsame := hheld n (List.mem_append_left _ hn)
      rwa [held, held, if_neg (fact.lookup_parameter n hn).2.1, if_neg (fact.lookup_parameter n hn).2.1] at hsame
    rw [hfact, hvalue]

end

theorem tabular_of_unknown {s : String} (h : ViewFact.withTag? s = none) : (layout s).Tabular (HasTag s) held taken := by
  have hfields : (layout s).fields = [] := by simp only [layout, h]
  have hkind : ∀ {f}, HasTag s f → f = unknown := by
    intro f hf
    cases f with
    | unknown => rfl
    | expect fact value =>
      obtain ⟨blank, hblank, -, -⟩ := fact.withTag?_tag
      have htag : fact.tag = s := hf
      cases (htag ▸ hblank).symm.trans h
  refine ⟨by simp only [layout, h], by simp only [layout, h]; simp, ?_, fun hn => ?_, fun hn => ?_, fun ha hb _ => ?_⟩
  · simp only [layout, h]
    exact h
  · simp [hfields] at hn
  · simp [hfields] at hn
  · rw [hkind ha, hkind hb]

theorem tabular (s : String) : (layout s).Tabular (HasTag s) held taken := by
  cases h : ViewFact.withTag? s with
  | none => exact tabular_of_unknown h
  | some blank => exact tabular_of_known h

theorem name_not_parameter (s : String) : tagged.tag ∉ (tagged.layout s).fields := by
  change "name" ∉ (layout s).fields
  cases h : ViewFact.withTag? s with
  | none => simp [layout, h]
  | some blank =>
    rw [fields_layout h]
    intro hmem
    rcases List.mem_append.mp hmem with hmem | hmem
    · exact (blank.lookup_parameter _ hmem).1 rfl
    · exact absurd hmem (by decide)

theorem mem_kinds (fact : ViewFact) : (fact.tag, fact.parameterNames.filter (· ≠ "subEvent")) ∈ kinds := by
  cases fact <;> simp [ViewFact.tag, ViewFact.parameterNames, ViewFact.parameters, kinds]

/-- What the kinds need is what the layouts require. -/
theorem layout_of_mem_kinds {kind : String} {needed : List String} (h : (kind, needed) ∈ kinds) :
    ViewFact.withTag? kind ≠ none ∧ (layout kind).required = needed ∧
      ∀ n ∈ (layout kind).fields, n = "boolValue" ∨ n = "subEvent" ∨ n ∈ needed := by
  have hall : ∀ e ∈ kinds, ViewFact.withTag? e.1 ≠ none ∧ (layout e.1).required = e.2 ∧
      ∀ n ∈ (layout e.1).fields, n = "boolValue" ∨ n = "subEvent" ∨ n ∈ e.2 := by decide
  exact hall _ h

/-- Every parameter but the sub-event has to be there. -/
theorem mem_required {fact : ViewFact} {n : String} :
    n ∈ (layout fact.tag).required ↔ n ∈ fact.parameterNames ∧ n ≠ "subEvent" := by
  obtain ⟨blank, hblank, -, hnames⟩ := fact.withTag?_tag
  rw [required_layout hblank, ← hnames]
  constructor
  · intro hmem
    refine ⟨blank.keysOf_parameters_subset hmem, ?_⟩
    rintro rfl
    obtain ⟨w, hw⟩ := exists_lookup_of_mem hmem
    cases (ViewFact.lookup_subEvent_of_blank hblank).symm.trans hw
  · rintro ⟨hn, hne⟩
    obtain ⟨s, hs⟩ := (blank.lookup_parameter n hn).2.2 hne
    exact mem_keysOf_of_lookup hs

theorem taken_text_iff {n : String} (hvalue : n ≠ "boolValue") (hsub : n ≠ "subEvent") {v : Json} {s : String} :
    taken n v = some (some (.text s)) ↔ v = .text s := by
  rw [taken, if_neg hvalue, if_neg hsub, Option.map_eq_some_iff]
  constructor
  · rintro ⟨s', hs, heq⟩
    cases heq
    exact Reader.text_eq_ok.mp (Reader.ofJson?_eq_some.mp hs)
  · exact fun hv => ⟨s, Reader.ofJson?_eq_some.mpr (Reader.text_eq_ok.mpr hv), rfl⟩

theorem heldAfter_subEvent {t u : Option Json} :
    Layout.heldAfter taken "subEvent" none t = some u ↔ u = t.bind asNote := by
  cases t <;> exact ⟨fun h => (Option.some.inj h).symm, fun h => congrArg some h.symm⟩

theorem heldAfter_value {t : Option Json} {value : Bool} :
    Layout.heldAfter taken "boolValue" (some (.bool true)) t = some (some (.bool value)) ↔
      value = t.elim true isSet := by
  cases t with
  | none =>
    constructor
    · intro h
      cases h
      rfl
    · rintro rfl
      rfl
  | some v =>
    constructor
    · intro h
      cases h
      rfl
    · rintro rfl
      rfl

/-- A condition holds what stands under the name of a parameter, and of a sub-event what a note makes of it. -/
theorem heldAfter_parameter {fact blank : ViewFact} (hblank : ViewFact.withTag? fact.tag = some blank) {n : String}
    (hn : n ∈ fact.parameterNames) {fs : List (String × Json)} (hthere : n ≠ "subEvent" → n ∈ keysOf fs) :
    Layout.heldAfter taken n (blank.parameters.lookup n) (fs.lookup n) = some (fact.parameters.lookup n) ↔
      if n = "subEvent" then fact.parameters.lookup n = (fs.lookup n).bind asNote
      else fs.lookup n = fact.parameters.lookup n := by
  obtain ⟨-, hvalue, htext⟩ := fact.lookup_parameter n hn
  split
  · next hsub =>
    rw [hsub, ViewFact.lookup_subEvent_of_blank hblank]
    exact heldAfter_subEvent
  · next hsub =>
    obtain ⟨s, hs⟩ := htext hsub
    obtain ⟨v, hv⟩ := exists_lookup_of_mem (hthere hsub)
    rw [hs, hv, Option.some_inj]
    exact taken_text_iff hvalue hsub

/-- What spells a condition that asks for something is complete. -/
theorem SpelledBy.complete {fs : List (String × Json)} {fact : ViewFact} {value : Bool}
    (h : SpelledBy fs fact value) : Complete fs := by
  refine ⟨fact.tag, fact.parameterNames.filter (· ≠ "subEvent"), mem_kinds fact, h.tag, fun n hn => ?_⟩
  obtain ⟨hn, hne⟩ := List.mem_filter.mp hn
  rw [h.parameter n hn (of_decide_eq_true hne)]
  exact (fact.lookup_parameter n hn).2.2 (of_decide_eq_true hne)

/-- What is complete holds nothing but parameters that are taken. -/
theorem taken_of_complete {fs : List (String × Json)} {kind : String} {needed : List String}
    (hkind : (kind, needed) ∈ kinds) (htexts : ∀ n ∈ needed, ∃ s, fs.lookup n = some (.text s)) :
    ∀ n ∈ (layout kind).fields, ∀ v, fs.lookup n = some v → taken n v ≠ none := by
  obtain ⟨-, -, hothers⟩ := layout_of_mem_kinds hkind
  intro n hn v hv
  by_cases hvalue : n = "boolValue"
  · simp [taken, hvalue]
  by_cases hsub : n = "subEvent"
  · simp [taken, hsub]
  obtain ⟨s, hs⟩ := htexts n (((hothers n hn).resolve_left hvalue).resolve_left hsub)
  cases hs.symm.trans hv
  simp [(taken_text_iff hvalue hsub).mpr]

section
variable {fs : List (String × Json)} (hfs : (keysOf fs).Nodup)

include hfs

/-- A condition is read off a record exactly if the record spells it. -/
theorem read_iff_spelledBy {fact : ViewFact} {value : Bool} :
    tagged.read (.value (.record fs)) = .ok (expect fact value) ↔ SpelledBy fs fact value := by
  obtain ⟨blank, hblank, -, hnames⟩ := fact.withTag?_tag
  have hfields : (tagged.layout fact.tag).fields = fact.parameterNames ++ ["boolValue"] := by
    rw [← hnames]
    exact fields_layout hblank
  have hheld : ∀ (f : ViewFact) (b : Bool), ∀ n ∈ fact.parameterNames, held (expect f b) n = f.parameters.lookup n :=
    fun f b n hn => by rw [held, if_neg (fact.lookup_parameter n hn).2.1]
  rw [Tagged.read_tabular_iff tabular name_not_parameter hfs]
  constructor
  · rintro ⟨s, hs, hkind, hthere, hafter⟩
    have htag : fact.tag = s := hkind
    subst htag
    rw [hfields, tagged, blank_layout hblank] at hafter
    have hparameter : ∀ n ∈ fact.parameterNames, if n = "subEvent"
        then fact.parameters.lookup n = (fs.lookup n).bind asNote else fs.lookup n = fact.parameters.lookup n := by
      intro n hn
      refine (heldAfter_parameter hblank hn fun hne => ?_).mp ?_
      · exact hthere n (mem_required.mpr ⟨hn, hne⟩)
      · rw [← hheld blank true n hn, ← hheld fact value n hn]
        exact hafter n (List.mem_append_left _ hn)
    refine ⟨hs, fun n hn hne => ?_, fun hsub => ?_, ?_⟩
    · simpa only [if_neg hne] using hparameter n hn
    · simpa only [if_true] using hparameter _ hsub
    · exact heldAfter_value.mp (hafter "boolValue" (List.mem_append_right _ List.mem_cons_self))
  · intro h
    have hthere : ∀ n ∈ fact.parameterNames, n ≠ "subEvent" → n ∈ keysOf fs := by
      intro n hn hne
      obtain ⟨s, hs⟩ := (fact.lookup_parameter n hn).2.2 hne
      exact mem_keysOf_of_lookup ((h.parameter n hn hne).trans hs)
    refine ⟨fact.tag, h.tag, rfl, fun n hn => ?_, fun n hn => ?_⟩
    · obtain ⟨hmem, hne⟩ := mem_required.mp hn
      exact hthere n hmem hne
    · rw [hfields] at hn
      rw [tagged, blank_layout hblank]
      rcases List.mem_append.mp hn with hn | hn
      · rw [hheld _ _ n hn, hheld _ _ n hn, heldAfter_parameter hblank hn (hthere n hn)]
        split
        · next hsub =>
          subst hsub
          exact h.subEvent hn
        · next hsub => exact h.parameter n hn hsub
      · cases List.mem_singleton.mp hn
        exact heldAfter_value.mpr h.value

/-- A condition that asks for something is read off a record exactly if the record is complete. -/
theorem exists_read_iff_complete :
    (∃ f, f ≠ unknown ∧ tagged.read (.value (.record fs)) = .ok f) ↔ Complete fs := by
  constructor
  · rintro ⟨f, hf, hread⟩
    cases f with
    | unknown => exact absurd rfl hf
    | expect fact value => exact ((read_iff_spelledBy hfs).mp hread).complete
  · rintro ⟨kind, needed, hkind, htag, htexts⟩
    obtain ⟨hknown, hneeded, -⟩ := layout_of_mem_kinds hkind
    have hrequired : ∀ n ∈ (layout kind).required, n ∈ keysOf fs := fun n hn =>
      (htexts n (hneeded ▸ hn)).elim fun s => mem_keysOf_of_lookup
    obtain ⟨f, hread, hf⟩ := Tagged.exists_read_tabular tabular name_not_parameter hfs htag hrequired
      (taken_of_complete hkind htexts)
    refine ⟨f, ?_, hread⟩
    rintro rfl
    exact hknown hf

end

end ViewFilter

end RetreatDesk
