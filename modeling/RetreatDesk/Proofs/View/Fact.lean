import RetreatDesk.View.Output

/-!
# Conditions and the columns beside them

A view asks for facts in its conditions and shows facts in its columns. The two go by rules of their own, each with its
own answer where nothing is on record, and they have to agree.

* `ViewFact.isSo`: whether a fact is so for a person.
* `ViewFilter.passes_expect`: a condition lets a person through exactly when the fact is as expected.
* `ViewFact.column?`: the column that shows a fact.
* `ViewFact.ToldBy`: a cell says that a fact is so, or that it is not so.
* `ViewFact.isSo_eq_iff`: a fact is so exactly when its column says so.
* `ViewFilter.passes_iff_toldBy`: a condition lets a person through exactly when the column beside it says what the
  condition expects.
* `View.rows_toldBy`: no row of a view contradicts a condition of the view.
-/

namespace RetreatDesk

/-- Whether a fact is so. What is not on record is not so. -/
def ViewFact.isSo (s : Scope) (p : Participant) : ViewFact → Bool
  | .currentField name => (s.program? p).any (·.flag name)
  | .currentMap map name => ((s.program? p).bind (·.mapFlag map name)).getD false
  | .baseField name => p.flag name
  | .practice name => p.practises name
  | .poolMember pool => s.isMember p pool
  | .offering subEvent => (s.offeringStatus? p subEvent).any (·.complete)
  | .deposit subEvent => (s.offeringStatus? p subEvent).any (·.depositMade)
  | .spokenLanguage language => p.spokenLanguage == language
  | .writtenLanguage language => p.writtenLanguage == language

/-- A condition lets a person through exactly when the fact is as expected. Without a record nothing is so, which is what
the conditions on offerings and deposits make of it, each in a way of its own. -/
theorem ViewFilter.passes_expect (s : Scope) (p : Participant) (fact : ViewFact) (value : Bool) :
    (expect fact value).passes s p = (fact.isSo s p == value) := by
  cases fact with
  | offering subEvent | deposit subEvent =>
    simp only [passes, ViewFact.isSo]
    cases s.offeringStatus? p subEvent with
    | none => exact (Bool.false_beq value).symm
    | some status => rfl
  | _ => rfl

namespace ViewFact

/-- The column that shows a fact. Offerings and deposits have columns for the sub-event in view alone. -/
def column? : ViewFact → Option ColumnKind
  | currentField name => some (.programFlag .current name)
  | currentMap map name => some (.programMapFlag .current map name)
  | baseField name => some (.baseFlag name)
  | practice name => some (.practiceFlag name)
  | poolMember pool => some (.poolMember pool)
  | offering none => some (.predefined .offering)
  | deposit none => some (.predefined .deposit)
  | offering (some _) | deposit (some _) => none
  | spokenLanguage _ => some (.predefined .spokenLanguage)
  | writtenLanguage _ => some (.predefined .writtenLanguage)

/-- A cell says that a fact is so, or that it is not. A language is told by its name, which may be another one; of any
other fact the cell holds the truth value. -/
def ToldBy (cell : Cell) (b : Bool) : ViewFact → Prop
  | spokenLanguage language => ∃ told, cell = .text told ∧ (told = language ↔ b = true)
  | writtenLanguage language => ∃ told, cell = .text told ∧ (told = language ↔ b = true)
  | _ => cell = .bool b

theorem bool_eq_iff {a b : Bool} : a = b ↔ Cell.bool a = .bool b := by
  rw [Cell.bool.injEq]

theorem beq_eq_iff_told {language told : String} {b : Bool} :
    (told == language) = b ↔ ∃ t, Cell.text told = .text t ∧ (t = language ↔ b = true) := by
  constructor
  · rintro rfl
    exact ⟨told, rfl, beq_iff_eq.symm⟩
  · rintro ⟨t, heq, htold⟩
    cases heq
    rw [Bool.eq_iff_iff, beq_iff_eq, htold]

/-- A fact is so exactly when its column says so. -/
theorem isSo_eq_iff {fact : ViewFact} {kind : ColumnKind} (h : fact.column? = some kind) (s : Scope) (p : Participant)
    (b : Bool) : fact.isSo s p = b ↔ fact.ToldBy (kind.cell s p) b := by
  cases fact with
  | spokenLanguage language | writtenLanguage language =>
    cases h
    exact beq_eq_iff_told
  | offering subEvent | deposit subEvent =>
    cases subEvent with
    | none =>
      cases h
      exact bool_eq_iff
    | some subEvent => cases h
  | _ =>
    cases h
    exact bool_eq_iff

end ViewFact

theorem Plan.getElem?_row {plan : Plan} {i : Nat} {column : Column} (h : plan.columns[i]? = some column) (s : Scope)
    (p : Participant) : (plan.row s p)[i]? = some (column.kind.cell s p) := by
  rw [row, List.getElem?_map, h, Option.map_some]

/-- In a view no row contradicts a condition: wherever a fact that the view asks for has a column, the column says of
everybody shown what is asked. -/
theorem View.rows_toldBy {v : View} {fact : ViewFact} {b : Bool} (hfilter : .expect fact b ∈ v.filters) {i : Nat}
    {column : Column} (hcolumn : (Plan.of v.columns).columns[i]? = some column)
    (hfact : fact.column? = some column.kind) {s : Scope} {search : Option String} {people : List Participant}
    {row : ViewRow} (hrow : row ∈ (v.output s search people).rows) :
    ∃ cell, row.cells[i]? = some cell ∧ fact.ToldBy cell b := by
  obtain ⟨p, hp, rfl⟩ := List.mem_map.mp hrow
  have hshown := (List.mem_filter.mp hp).2
  unfold View.shows at hshown
  rw [Bool.and_eq_true, Bool.and_eq_true] at hshown
  have hpasses : (fact.isSo s p == b) = true :=
    ViewFilter.passes_expect s p fact b ▸ List.all_eq_true.mp hshown.1.2 _ hfilter
  exact ⟨_, Plan.getElem?_row hcolumn s p, (ViewFact.isSo_eq_iff hfact s p b).mp (beq_iff_eq.mp hpasses)⟩

/-- A condition lets a person through exactly when the column beside it says of the person what the condition expects,
whatever pools, event and sub-event a view is shown for. -/
theorem ViewFilter.passes_iff_toldBy {plan : Plan} {i : Nat} {column : Column} (hcolumn : plan.columns[i]? = some column)
    {fact : ViewFact} (hfact : fact.column? = some column.kind) (s : Scope) (p : Participant) (b : Bool) :
    (ViewFilter.expect fact b).passes s p = true ↔
      ∃ cell, (plan.row s p)[i]? = some cell ∧ fact.ToldBy cell b := by
  rw [passes_expect, beq_iff_eq, ViewFact.isSo_eq_iff hfact s p b, Plan.getElem?_row hcolumn]
  constructor
  · exact fun htold => ⟨_, rfl, htold⟩
  · rintro ⟨cell, hcell, htold⟩
    cases hcell
    exact htold

/-- The meals asked for, under a name that the kitchen has chosen. -/
def mealColumn : ColumnDef :=
  { name := "vegan (currentAIDMapBool)", map := some " meals ", boolName := some "vegan" }

def kitchenPlan : Plan := Plan.of [{ name := "name" }, mealColumn, { name := "spokenLanguage" }]

/-- Somebody who wants vegan meals and is spoken to in Tibetan. -/
def guest : Participant where
  id := "p-001"
  programs := .ofList [("sw2025", { extra := .ofList [("meals", .record [("vegan", .text "yes")])] })]
  spokenLangPref := some "Tibetan"

/-- What the cook may ask about the guest stands in the columns of the cook. -/
theorem ViewFilter.passes_iff_toldBy_guest :
    kitchenPlan.columns[1]? = some (Column.of mealColumn) ∧
      (ViewFact.currentMap "meals" "vegan").column? = some (Column.of mealColumn).kind ∧
      (∀ b, (ViewFilter.expect (.currentMap "meals" "vegan") b).passes ⟨.empty, { aid := "sw2025" }, none⟩ guest = true ↔
        ∃ cell, (kitchenPlan.row ⟨.empty, { aid := "sw2025" }, none⟩ guest)[1]? = some cell ∧ cell = .bool b) ∧
      kitchenPlan.columns[2]? = some (Column.of { name := "spokenLanguage" }) ∧
      (ViewFact.spokenLanguage "Dzongkha").column? = some (Column.of { name := "spokenLanguage" }).kind ∧
      ((ViewFilter.expect (.spokenLanguage "Dzongkha") false).passes ⟨.empty, { aid := "sw2025" }, none⟩ guest = true ↔
        ∃ cell, (kitchenPlan.row ⟨.empty, { aid := "sw2025" }, none⟩ guest)[2]? = some cell ∧
          ∃ told, cell = .text told ∧ (told = "Dzongkha" ↔ false = true)) := by
  have hmeals : (ViewFact.currentMap "meals" "vegan").column? = some (Column.of mealColumn).kind := by decide +kernel
  have hlanguage : (ViewFact.spokenLanguage "Dzongkha").column? = some (Column.of { name := "spokenLanguage" }).kind := by
    decide +kernel
  exact ⟨rfl, hmeals, passes_iff_toldBy rfl hmeals _ guest, rfl, hlanguage, passes_iff_toldBy rfl hlanguage _ guest false⟩

end RetreatDesk
