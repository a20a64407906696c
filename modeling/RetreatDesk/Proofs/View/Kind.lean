import RetreatDesk.Proofs.Text.Trim
import RetreatDesk.Proofs.View.Plan

/-!
# The kind of a column

A name tells the kind of a column by the first marker in it, and the definition has to tell the rest.

* `Marker.Leads`: the first marker in a name.
* `Parameter.HasValue`: what a definition tells for a parameter.
* `Column.Fits`: the kind that fits a definition.
* `Column.kindOf_eq_iff`: it is the kind of the column.
-/

namespace RetreatDesk

/-! ## Markers in names -/

namespace Marker

/-- The marker stands somewhere in a name. -/
def StandsIn (m : Marker) (name : String) : Prop := ∃ before after, name = before ++ m.text ++ after

/-- The marker stands in a name and no more telling one does. -/
def Leads (m : Marker) (name : String) : Prop :=
  m.StandsIn name ∧ ∃ front back, all = front ++ m :: back ∧ ∀ m' ∈ front, ¬ m'.StandsIn name

theorem standsIn_iff {m : Marker} {name : String} : m.StandsIn name ↔ Text.hasPart name m.text = true := by
  rw [Text.hasPart_iff]
  constructor
  · rintro ⟨before, after, rfl⟩
    exact ⟨before.toList, after.toList, by rw [String.toList_append, String.toList_append]⟩
  · rintro ⟨before, after, h⟩
    refine ⟨String.ofList before, String.ofList after, String.ext ?_⟩
    rw [String.toList_append, String.toList_append, String.toList_ofList, String.toList_ofList, h]

theorem find?_eq_some_iff {name : String} {m : Marker} : find? name = some m ↔ m.Leads name := by
  simp [find?, List.find?_eq_some_iff_append, Leads, standsIn_iff]

theorem mem_all (m : Marker) : m ∈ all := by
  cases m <;> decide

theorem find?_eq_none_iff {name : String} : find? name = none ↔ ∀ m : Marker, ¬ m.StandsIn name := by
  simp [find?, standsIn_iff, mem_all]

end Marker

/-! ## Parameters -/

/-- What a definition may have to tell of a column besides its name. -/
inductive Parameter where
  | pool
  | aid
  | map
  | boolName
  | stringName
  | numberName

namespace Parameter

/-- The text that a definition has for a parameter. -/
def own (d : ColumnDef) : Parameter → Option String
  | pool => d.pool
  | aid => d.aid
  | map => d.map
  | boolName => d.boolName
  | stringName => d.stringName
  | numberName => d.numberName

/-- The name of a field may also stand in the definition as a plain `field`. -/
def namesField : Parameter → Bool
  | boolName | stringName | numberName => true
  | pool | aid | map => false

/-- A text that is more than white space says what is left without the white space around it. -/
def Says (given : Option String) (value : String) : Prop :=
  value ≠ "" ∧ ∃ text, given = some text ∧ Text.IsCore text value

/-- What a definition tells for a parameter. -/
inductive HasValue (d : ColumnDef) (q : Parameter) (value : String) : Prop
  | own (h : Says (q.own d) value)
  | field (hname : q.namesField = true) (hnothing : ∀ other, ¬ Says (q.own d) other) (h : Says d.field value)

theorem says_iff {given : Option String} {value : String} :
    Says given value ↔ Marker.parameter? given = some value := by
  cases given with
  | none => simp [Says, Marker.parameter?]
  | some text => simp [Says, ← Text.trim_eq_iff, Marker.parameter?, Option.filter_eq_some_iff, and_comm]

theorem says_nothing_iff {given : Option String} : (∀ value, ¬ Says given value) ↔ Marker.parameter? given = none := by
  simp only [says_iff, Option.eq_none_iff_forall_ne_some, ne_eq]

/-- The value of a parameter, looked up. -/
def value? (d : ColumnDef) : Parameter → Option String
  | pool => Marker.parameter? d.pool
  | aid => Marker.parameter? d.aid
  | map => Marker.parameter? d.map
  | boolName => (Marker.parameter? d.boolName).or (Marker.parameter? d.field)
  | stringName => (Marker.parameter? d.stringName).or (Marker.parameter? d.field)
  | numberName => (Marker.parameter? d.numberName).or (Marker.parameter? d.field)

theorem value?_eq (d : ColumnDef) (q : Parameter) : q.value? d =
    (Marker.parameter? (q.own d)).or (if q.namesField then Marker.parameter? d.field else none) := by
  cases q with
  | pool | aid | map => exact Option.or_none.symm
  | boolName | stringName | numberName => rfl

theorem hasValue_iff {d : ColumnDef} {q : Parameter} {value : String} :
    HasValue d q value ↔ q.value? d = some value := by
  rw [value?_eq, Option.or_eq_some_iff]
  constructor
  · rintro (h | ⟨hname, hnothing, h⟩)
    · exact .inl (says_iff.mp h)
    · rw [if_pos hname]
      exact .inr ⟨says_nothing_iff.mp hnothing, says_iff.mp h⟩
  · rintro (h | ⟨hnothing, h⟩)
    · exact .own (says_iff.mpr h)
    · split at h
      · next hname => exact .field hname (says_nothing_iff.mpr hnothing) (says_iff.mpr h)
      · cases h

theorem tidy_of_hasValue {d : ColumnDef} {q : Parameter} {value : String} (h : HasValue d q value) :
    value ≠ "" ∧ Text.Tidy value := by
  rcases h with ⟨hvalue, _, -, hcore⟩ | ⟨-, -, hvalue, _, -, hcore⟩
  · exact ⟨hvalue, hcore.tidy⟩
  · exact ⟨hvalue, hcore.tidy⟩

end Parameter

/-! ## Kinds with a marker -/

/-- What a definition has to tell under a marker. -/
def Marker.needs : Marker → List Parameter
  | poolMember => [.pool]
  | currentBool => [.boolName]
  | specifiedBool => [.aid, .boolName]
  | currentMapBool => [.map, .boolName]
  | currentMapList => [.map]
  | specifiedMapBool => [.aid, .map, .boolName]
  | currentString => [.stringName]
  | specifiedString => [.aid, .stringName]
  | currentNumber => [.numberName]
  | specifiedNumber => [.aid, .numberName]
  | baseBool => [.boolName]
  | baseString => [.stringName]
  | practiceBool => [.boolName]
  | offeringCount => []

namespace ColumnKind

/-- The marker under which a kind of column is authored. -/
def marker? : ColumnKind → Option Marker
  | poolMember _ => some .poolMember
  | programFlag .current _ => some .currentBool
  | programFlag (.event _) _ => some .specifiedBool
  | programMapFlag .current _ _ => some .currentMapBool
  | programMapFlag (.event _) _ _ => some .specifiedMapBool
  | programMapList _ => some .currentMapList
  | programText .current _ => some .currentString
  | programText (.event _) _ => some .specifiedString
  | programNumber .current _ => some .currentNumber
  | programNumber (.event _) _ => some .specifiedNumber
  | baseFlag _ => some .baseBool
  | baseText _ => some .baseString
  | practiceFlag _ => some .practiceBool
  | offeringCount => some .offeringCount
  | predefined _ | unknown => none

/-- The parameters that a column goes by. -/
def parameters : ColumnKind → List (Parameter × String)
  | poolMember pool => [(.pool, pool)]
  | programFlag .current name => [(.boolName, name)]
  | programFlag (.event aid) name => [(.aid, aid), (.boolName, name)]
  | programMapFlag .current map name => [(.map, map), (.boolName, name)]
  | programMapFlag (.event aid) map name => [(.aid, aid), (.map, map), (.boolName, name)]
  | programMapList map => [(.map, map)]
  | programText .current name => [(.stringName, name)]
  | programText (.event aid) name => [(.aid, aid), (.stringName, name)]
  | programNumber .current name => [(.numberName, name)]
  | programNumber (.event aid) name => [(.aid, aid), (.numberName, name)]
  | baseFlag name => [(.boolName, name)]
  | baseText name => [(.stringName, name)]
  | practiceFlag name => [(.boolName, name)]
  | offeringCount | predefined _ | unknown => []

theorem marker_cases (kind : ColumnKind) :
    kind = .unknown ∨ (∃ c, kind = .predefined c) ∨ ∃ m, kind.marker? = some m := by
  cases kind with
  | unknown => exact .inl rfl
  | predefined c => exact .inr (.inl ⟨c, rfl⟩)
  | programFlag whose | programMapFlag whose | programText whose | programNumber whose =>
    cases whose <;> exact .inr (.inr ⟨_, rfl⟩)
  | _ => exact .inr (.inr ⟨_, rfl⟩)

theorem parameters_of_marker? {kind : ColumnKind} {m : Marker} (h : kind.marker? = some m) :
    kind.parameters.map (·.1) = m.needs := by
  unfold marker? at h
  split at h <;> cases h <;> rfl

section
variable {m : Marker} {d : ColumnDef} {kind : ColumnKind}

/-- The cases go by the number of parameters. -/
theorem marker?_of_kind? (h : m.kind? d = some kind) :
    kind.marker? = some m ∧ ∀ e ∈ kind.parameters, e.1.value? d = some e.2 := by
  cases m with
  | offeringCount =>
    cases h
    exact ⟨rfl, List.forall_mem_nil _⟩
  | poolMember | currentBool | currentMapList | currentString | currentNumber | baseBool | baseString | practiceBool =>
    obtain ⟨a, ha, h⟩ := Option.bind_eq_some_iff.mp h
    cases h
    exact ⟨rfl, List.forall_mem_singleton.mpr ha⟩
  | specifiedBool | currentMapBool | specifiedString | specifiedNumber =>
    obtain ⟨a, ha, h⟩ := Option.bind_eq_some_iff.mp h
    obtain ⟨b, hb, h⟩ := Option.bind_eq_some_iff.mp h
    cases h
    exact ⟨rfl, List.forall_mem_cons.mpr ⟨ha, List.forall_mem_singleton.mpr hb⟩⟩
  | specifiedMapBool =>
    obtain ⟨a, ha, h⟩ := Option.bind_eq_some_iff.mp h
    obtain ⟨b, hb, h⟩ := Option.bind_eq_some_iff.mp h
    obtain ⟨c, hc, h⟩ := Option.bind_eq_some_iff.mp h
    cases h
    exact ⟨rfl, List.forall_mem_cons.mpr ⟨ha, List.forall_mem_cons.mpr ⟨hb, List.forall_mem_singleton.mpr hc⟩⟩⟩

theorem kind?_of_marker? (hm : kind.marker? = some m) (hvalues : ∀ e ∈ kind.parameters, e.1.value? d = some e.2) :
    m.kind? d = some kind := by
  cases kind with
  | predefined column => cases hm
  | unknown => cases hm
  | offeringCount =>
    cases hm
    rfl
  | poolMember | programMapList | baseFlag | baseText | practiceFlag =>
    cases hm
    obtain ⟨ha, -⟩ := List.forall_mem_cons.mp hvalues
    exact Option.bind_eq_some_iff.mpr ⟨_, ha, rfl⟩
  | programFlag whose | programText whose | programNumber whose =>
    cases whose with
    | current =>
      cases hm
      obtain ⟨ha, -⟩ := List.forall_mem_cons.mp hvalues
      exact Option.bind_eq_some_iff.mpr ⟨_, ha, rfl⟩
    | event aid =>
      cases hm
      obtain ⟨ha, hvalues⟩ := List.forall_mem_cons.mp hvalues
      obtain ⟨hb, -⟩ := List.forall_mem_cons.mp hvalues
      exact Option.bind_eq_some_iff.mpr ⟨_, ha, Option.bind_eq_some_iff.mpr ⟨_, hb, rfl⟩⟩
  | programMapFlag whose =>
    cases whose with
    | current =>
      cases hm
      obtain ⟨ha, hvalues⟩ := List.forall_mem_cons.mp hvalues
      obtain ⟨hb, -⟩ := List.forall_mem_cons.mp hvalues
      exact Option.bind_eq_some_iff.mpr ⟨_, ha, Option.bind_eq_some_iff.mpr ⟨_, hb, rfl⟩⟩
    | event aid =>
      cases hm
      obtain ⟨ha, hvalues⟩ := List.forall_mem_cons.mp hvalues
      obtain ⟨hb, hvalues⟩ := List.forall_mem_cons.mp hvalues
      obtain ⟨hc, -⟩ := List.forall_mem_cons.mp hvalues
      exact Option.bind_eq_some_iff.mpr
        ⟨_, ha, Option.bind_eq_some_iff.mpr ⟨_, hb, Option.bind_eq_some_iff.mpr ⟨_, hc, rfl⟩⟩⟩

/-- A column is made under a marker exactly from the parameters that the definition tells. -/
theorem kind?_eq_some_iff :
    m.kind? d = some kind ↔ kind.marker? = some m ∧ ∀ e ∈ kind.parameters, e.1.HasValue d e.2 := by
  simp only [Parameter.hasValue_iff]
  exact ⟨marker?_of_kind?, fun h => kind?_of_marker? h.1 h.2⟩

theorem exists_kind? (h : ∀ q ∈ m.needs, ∃ value, q.value? d = some value) : ∃ kind, m.kind? d = some kind := by
  cases m with
  | offeringCount => exact ⟨_, rfl⟩
  | poolMember | currentBool | currentMapList | currentString | currentNumber | baseBool | baseString | practiceBool =>
    obtain ⟨⟨a, ha⟩, -⟩ := List.forall_mem_cons.mp h
    exact ⟨_, Option.bind_eq_some_iff.mpr ⟨a, ha, rfl⟩⟩
  | specifiedBool | currentMapBool | specifiedString | specifiedNumber =>
    obtain ⟨⟨a, ha⟩, h⟩ := List.forall_mem_cons.mp h
    obtain ⟨⟨b, hb⟩, -⟩ := List.forall_mem_cons.mp h
    exact ⟨_, Option.bind_eq_some_iff.mpr ⟨a, ha, Option.bind_eq_some_iff.mpr ⟨b, hb, rfl⟩⟩⟩
  | specifiedMapBool =>
    obtain ⟨⟨a, ha⟩, h⟩ := List.forall_mem_cons.mp h
    obtain ⟨⟨b, hb⟩, h⟩ := List.forall_mem_cons.mp h
    obtain ⟨⟨c, hc⟩, -⟩ := List.forall_mem_cons.mp h
    exact ⟨_, Option.bind_eq_some_iff.mpr
      ⟨a, ha, Option.bind_eq_some_iff.mpr ⟨b, hb, Option.bind_eq_some_iff.mpr ⟨c, hc, rfl⟩⟩⟩⟩

/-- Nothing is made under a marker if the definition tells too little. -/
theorem kind?_eq_none_iff : m.kind? d = none ↔ ∃ q ∈ m.needs, ∀ value, ¬ q.HasValue d value := by
  simp only [Parameter.hasValue_iff]
  constructor
  · intro hnone
    by_contra hall
    push Not at hall
    obtain ⟨kind, hkind⟩ := exists_kind? hall
    rw [hnone] at hkind
    cases hkind
  · rintro ⟨q, hq, hmissing⟩
    by_contra hsome
    obtain ⟨kind, hkind⟩ := Option.ne_none_iff_exists'.mp hsome
    obtain ⟨hmarker, hvalues⟩ := marker?_of_kind? hkind
    rw [← parameters_of_marker? hmarker] at hq
    obtain ⟨e, he, rfl⟩ := List.mem_map.mp hq
    exact hmissing e.2 (hvalues e he)

end

end ColumnKind

/-! ## Kinds and definitions -/

namespace Column

/-- The kind of column that fits a definition. -/
inductive Fits (d : ColumnDef) : ColumnKind → Prop
  /-- The first marker in the name makes a column from the parameters that it needs. -/
  | marked {m : Marker} {kind : ColumnKind} (hleads : m.Leads d.name) (hmarker : kind.marker? = some m)
      (hneeds : kind.parameters.map (·.1) = m.needs) (hvalues : ∀ e ∈ kind.parameters, e.1.HasValue d e.2) : Fits d kind
  /-- The definition does not tell everything that the first marker needs. -/
  | incomplete {m : Marker} {q : Parameter} (hleads : m.Leads d.name) (hneeds : q ∈ m.needs)
      (hmissing : ∀ value, ¬ q.HasValue d value) : Fits d .unknown
  | plain {c : Predefined} (hunmarked : ∀ m : Marker, ¬ m.StandsIn d.name) (hname : d.name = c.field) :
      Fits d (.predefined c)
  | unheard (hunmarked : ∀ m : Marker, ¬ m.StandsIn d.name) (hname : ∀ c : Predefined, d.name ≠ c.field) :
      Fits d .unknown

theorem kindOf_of_leads {d : ColumnDef} {m : Marker} (h : m.Leads d.name) : kindOf d = (m.kind? d).getD .unknown := by
  rw [kindOf, Marker.find?_eq_some_iff.mpr h]

theorem kindOf_of_unmarked {d : ColumnDef} (h : ∀ m : Marker, ¬ m.StandsIn d.name) :
    kindOf d = ((Predefined.ofField? d.name).map .predefined).getD .unknown := by
  rw [kindOf, Marker.find?_eq_none_iff.mpr h]

theorem ofField?_eq_none_iff {name : String} :
    Predefined.ofField? name = none ↔ ∀ c : Predefined, name ≠ c.field := by
  constructor
  · rintro hnone c rfl
    rw [Predefined.ofField?_field] at hnone
    cases hnone
  · intro h
    by_contra hsome
    obtain ⟨c, hc⟩ := Option.ne_none_iff_exists'.mp hsome
    exact h c (Predefined.field_of_ofField? hc).symm

theorem fits_kindOf (d : ColumnDef) : Fits d (kindOf d) := by
  cases hmarker : Marker.find? d.name with
  | some m =>
    have hleads := Marker.find?_eq_some_iff.mp hmarker
    rw [kindOf_of_leads hleads]
    cases hkind : m.kind? d with
    | some kind =>
      obtain ⟨hm, hvalues⟩ := ColumnKind.kind?_eq_some_iff.mp hkind
      exact .marked hleads hm (ColumnKind.parameters_of_marker? hm) hvalues
    | none =>
      obtain ⟨q, hq, hmissing⟩ := ColumnKind.kind?_eq_none_iff.mp hkind
      exact .incomplete hleads hq hmissing
  | none =>
    have hunmarked := Marker.find?_eq_none_iff.mp hmarker
    rw [kindOf_of_unmarked hunmarked]
    cases hplain : Predefined.ofField? d.name with
    | some c => exact .plain hunmarked (Predefined.field_of_ofField? hplain).symm
    | none => exact .unheard hunmarked (ofField?_eq_none_iff.mp hplain)

/-- The kind of a column is the one that fits its definition. -/
theorem kindOf_eq_iff {d : ColumnDef} {kind : ColumnKind} : kindOf d = kind ↔ Fits d kind := by
  constructor
  · rintro rfl
    exact fits_kindOf d
  · intro h
    cases h with
    | marked hleads hmarker _ hvalues =>
      rw [kindOf_of_leads hleads, ColumnKind.kind?_eq_some_iff.mpr ⟨hmarker, hvalues⟩, Option.getD_some]
    | incomplete hleads hneeds hmissing =>
      rw [kindOf_of_leads hleads, ColumnKind.kind?_eq_none_iff.mpr ⟨_, hneeds, hmissing⟩, Option.getD_none]
    | plain hunmarked hname =>
      rw [kindOf_of_unmarked hunmarked, hname, Predefined.ofField?_field, Option.map_some, Option.getD_some]
    | unheard hunmarked hname =>
      rw [kindOf_of_unmarked hunmarked, ofField?_eq_none_iff.mpr hname, Option.map_none, Option.getD_none]

/-! ## Heads -/

/-- The text at the head of a column. Where the author gives none, there is one that fits the kind. -/
structure Headed (d : ColumnDef) (column : Column) : Prop where
  unknown : column.kind = .unknown → column.header = "unknown: " ++ d.name
  predefined : ∀ c, column.kind = .predefined c → column.header = d.header.getD c.label
  marked : ∀ m, column.kind.marker? = some m → column.header = d.header.getD d.name
  /-- No head looks like that of a column without a meaning, unless it was written so on purpose. -/
  distinct : column.header = "unknown: " ++ d.name → column.kind = .unknown ∨ d.header = some ("unknown: " ++ d.name)

theorem headerOf_of_marker? {kind : ColumnKind} {m : Marker} (h : kind.marker? = some m) (d : ColumnDef) :
    headerOf d kind = d.header.getD d.name := by
  cases kind with
  | predefined | unknown => cases h
  | _ => rfl

theorem eq_some_of_getD {given : Option String} {other text : String} (h : given.getD other = text)
    (hother : other ≠ text) : given = some text := by
  cases given with
  | none => exact absurd h hother
  | some head => exact congrArg some h

theorem ne_append_self {before name : String} (h : before ≠ "") : name ≠ before ++ name := by
  intro heq
  have hlength := congrArg String.length heq
  rw [String.length_append] at hlength
  exact h (String.length_eq_zero_iff.mp (by omega))

theorem headed_of (d : ColumnDef) : Headed d (Column.of d) := by
  have hheader : (Column.of d).header = headerOf d (Column.of d).kind := rfl
  refine ⟨fun h => ?_, fun c h => ?_, fun m h => ?_, fun h => ?_⟩
  · rw [hheader, h, headerOf]
  · rw [hheader, h, headerOf]
  · rw [hheader, headerOf_of_marker? h]
  · rw [hheader] at h
    rcases (Column.of d).kind.marker_cases with hkind | ⟨c, hkind⟩ | ⟨m, hmarker⟩
    · exact .inl hkind
    · have hname : d.name = c.field := kindOf_eq_predefined_iff.mp hkind
      have hlabel : c.label ≠ "unknown: " ++ d.name := by
        rw [hname]
        cases c <;> decide
      rw [hkind, headerOf] at h
      exact .inr (eq_some_of_getD h hlabel)
    · rw [headerOf_of_marker? hmarker] at h
      exact .inr (eq_some_of_getD h (ne_append_self (by decide)))

/-! ## Columns and definitions -/

theorem marker?_of_leads {d : ColumnDef} {m : Marker} (h : m.Leads d.name) :
    (kindOf d).marker? = some m ∨ kindOf d = .unknown := by
  rw [kindOf_of_leads h]
  cases hkind : m.kind? d with
  | some kind => exact .inl (ColumnKind.kind?_eq_some_iff.mp hkind).1
  | none => exact .inr rfl

theorem tidy_parameters {d : ColumnDef} {kind : ColumnKind} (h : Fits d kind) :
    ∀ e ∈ kind.parameters, e.2 ≠ "" ∧ Text.Tidy e.2 := by
  cases h with
  | marked _ _ _ hvalues => exact fun e he => Parameter.tidy_of_hasValue (hvalues e he)
  | incomplete | plain | unheard => exact List.forall_mem_nil _

/-- A column is made from its definition by the first marker in the name, from all that the marker needs and in no other
way. Without a marker the plain name decides. Whatever stands in the column as a parameter is tidy, and the head fits. -/
theorem of_fits (d : ColumnDef) :
    (∀ kind, (Column.of d).kind = kind ↔ Fits d kind) ∧
      (∀ m : Marker, m.Leads d.name → (Column.of d).kind.marker? = some m ∨ (Column.of d).kind = .unknown) ∧
      (∀ e ∈ (Column.of d).kind.parameters, e.2 ≠ "" ∧ Text.Tidy e.2) ∧ Headed d (Column.of d) :=
  ⟨fun _ => kindOf_eq_iff, fun _ => marker?_of_leads, tidy_parameters (fits_kindOf d), headed_of d⟩

/-- Two markers, a parameter with blanks around it, and another that is blank where it is looked for first. -/
def crowded : ColumnDef :=
  { name := "offeringCount specifiedAIDString", aid := some " sw2024 ", stringName := some "  ",
    field := some "room\n" }

/-- The more telling marker makes the column, with the parameters tidied. -/
theorem of_fits_crowded :
    Fits crowded (.programText (.event "sw2024") "room") ∧
      (Column.of crowded).kind.marker? = some .specifiedString ∧
      (Column.of crowded).header = "offeringCount specifiedAIDString" ∧ Text.Tidy "room" := by
  obtain ⟨hfits, hmarker, htidy, hheaded⟩ := of_fits crowded
  have hkind : (Column.of crowded).kind = .programText (.event "sw2024") "room" := by decide +kernel
  have hleads : Marker.Leads .specifiedString crowded.name := by
    apply Marker.find?_eq_some_iff.mp
    decide +kernel
  have hspecified : (Column.of crowded).kind.marker? = some .specifiedString :=
    (hmarker _ hleads).resolve_right (by simp [hkind])
  rw [hkind] at htidy
  exact ⟨(hfits _).mp hkind, hspecified, hheaded.marked _ hspecified, (htidy (.stringName, "room") (by simp [ColumnKind.parameters])).2⟩

end Column

end RetreatDesk
