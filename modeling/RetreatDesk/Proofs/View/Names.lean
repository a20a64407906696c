import RetreatDesk.Proofs.Keyed.Entries
import RetreatDesk.Proofs.View.Plan
import Mathlib.Data.List.Induction

/-!
# One column for each name

The columns of a view are told by the names of its definitions alone: each name has one column, which stands where the
name comes up first and is made from the first definition of the name.

* `Plan.firstDefs`: the first definition of each name.
* `Plan.foldl_addDef`: the authored columns are made from the first definitions.
* `Plan.find?_firstDefs`: under a name the first definitions have what all of them have there first.
* `Plan.Arranged`: columns arranged by the first definitions, with the key and the history of a person added out of sight.
* `Plan.of_arranged`: the columns of a view are, and a later definition of a name might as well be missing.
-/

namespace RetreatDesk.Plan

/-- Of the definitions with one name the first, in the order in which the names come up. -/
def firstDefs (defs : List ColumnDef) : List ColumnDef :=
  (defs.map (·.name)).eraseDups.filterMap fun name => defs.find? (·.name = name)

theorem exists_find?_name {defs : List ColumnDef} {name : String} (h : name ∈ defs.map (·.name)) :
    ∃ d, defs.find? (·.name = name) = some d ∧ d.name = name := by
  obtain ⟨d, hd, hname⟩ := List.mem_map.mp h
  have hsome : (defs.find? (·.name = name)).isSome = true :=
    List.find?_isSome.mpr ⟨d, hd, decide_eq_true hname⟩
  obtain ⟨e, he⟩ := Option.isSome_iff_exists.mp hsome
  have hfound := List.find?_some he
  exact ⟨e, he, of_decide_eq_true hfound⟩

theorem find?_name_eq_none {defs : List ColumnDef} {name : String} (h : name ∉ defs.map (·.name)) :
    defs.find? (·.name = name) = none := by
  apply List.find?_eq_none.mpr
  intro d hd hname
  exact h (List.mem_map.mpr ⟨d, hd, of_decide_eq_true hname⟩)

theorem eraseDups_append_singleton (names : List String) (name : String) :
    (names ++ [name]).eraseDups = if name ∈ names then names.eraseDups else names.eraseDups ++ [name] := by
  rw [List.eraseDups_append]
  split
  · next hused => simp [List.removeAll, hused]
  · next hfresh => simp [List.removeAll, hfresh, List.eraseDups_cons]

/-- No name is lost. -/
theorem names_firstDefs (defs : List ColumnDef) : (firstDefs defs).map (·.name) = (defs.map (·.name)).eraseDups := by
  have hself : ∀ name ∈ (defs.map (·.name)).eraseDups,
      (defs.find? (·.name = name)).map (·.name) = some name := by
    intro name hname
    obtain ⟨d, hd, rfl⟩ := exists_find?_name (List.mem_eraseDups.mp hname)
    rw [hd, Option.map_some]
  rw [firstDefs, List.map_filterMap, List.filterMap_congr hself, List.filterMap_some]

theorem mem_names_firstDefs {defs : List ColumnDef} {name : String} :
    name ∈ (firstDefs defs).map (·.name) ↔ name ∈ defs.map (·.name) := by
  rw [names_firstDefs, List.mem_eraseDups]

/-- One more definition counts if its name is new. -/
theorem firstDefs_append_singleton (defs : List ColumnDef) (d : ColumnDef) :
    firstDefs (defs ++ [d]) = if d.name ∈ defs.map (·.name) then firstDefs defs else firstDefs defs ++ [d] := by
  have hold : ((defs.map (·.name)).eraseDups.filterMap fun name => (defs ++ [d]).find? (·.name = name)) =
      firstDefs defs := by
    refine List.filterMap_congr fun name hname => ?_
    obtain ⟨e, he, -⟩ := exists_find?_name (List.mem_eraseDups.mp hname)
    rw [List.find?_append, he, Option.some_or]
  rw [firstDefs, List.map_append, List.map_singleton, eraseDups_append_singleton]
  split
  · exact hold
  · next hfresh =>
    have hnew : (defs ++ [d]).find? (·.name = d.name) = some d := by
      rw [List.find?_append, find?_name_eq_none hfresh, Option.none_or, List.find?_cons_of_pos (by simp)]
    rw [List.filterMap_append, hold]
    simp only [List.filterMap_cons, hnew, List.filterMap_nil]

/-- Under each name the first definitions have what all of them have there first. -/
theorem find?_firstDefs (defs : List ColumnDef) (name : String) :
    (firstDefs defs).find? (·.name = name) = defs.find? (·.name = name) := by
  induction defs using List.reverseRecOn with
  | nil => rfl
  | append_singleton defs d ih =>
    rw [firstDefs_append_singleton, List.find?_append]
    split
    · next hused =>
      rw [ih]
      by_cases hname : d.name = name
      · obtain ⟨e, he, -⟩ := exists_find?_name hused
        rw [← hname, he, Option.some_or]
      · simp [hname]
    · rw [List.find?_append, ih]

/-! ## Columns -/

theorem hasField_map_of {defs : List ColumnDef} {name : String} :
    hasField (defs.map Column.of) name = true ↔ name ∈ defs.map (·.name) := by
  rw [hasField_iff, List.map_map]
  rfl

/-- The authored columns are made from the first definitions. The induction follows the columns as they are added. -/
theorem foldl_addDef (defs : List ColumnDef) : defs.foldl addDef [] = (firstDefs defs).map Column.of := by
  induction defs using List.reverseRecOn with
  | nil => rfl
  | append_singleton defs d ih =>
    rw [List.foldl_append, ih, List.foldl_cons, List.foldl_nil, addDef, firstDefs_append_singleton]
    by_cases hused : d.name ∈ defs.map (·.name)
    · rw [if_pos (hasField_map_of.mpr (mem_names_firstDefs.mpr hused)), if_pos hused]
    · rw [if_neg fun h => hused (mem_names_firstDefs.mp (hasField_map_of.mp h)), if_neg hused, List.map_append,
        List.map_singleton]

/-- A definition of a name that is used already adds nothing. -/
theorem foldl_addDef_later {front back : List ColumnDef} {d : ColumnDef} (h : d.name ∈ front.map (·.name)) :
    (front ++ d :: back).foldl addDef [] = (front ++ back).foldl addDef [] := by
  have hused : hasField (front.foldl addDef []) d.name = true := by
    rw [foldl_addDef, hasField_map_of]
    exact mem_names_firstDefs.mpr h
  rw [List.foldl_append, List.foldl_append, List.foldl_cons, addDef, if_pos hused]

/-- The column added out of sight for a predefined one, unless a definition has its name. -/
def addedFor (defs : List ColumnDef) (c : Predefined) : List Column :=
  if c.field ∈ defs.map (·.name) then [] else [Column.ofPredefined c true]

theorem addHidden_eq {defs : List ColumnDef} {columns : List Column} {c : Predefined}
    (h : c.field ∈ columns.map (·.field) ↔ c.field ∈ defs.map (·.name)) :
    addHidden columns c = columns ++ addedFor defs c := by
  rw [addHidden, addedFor]
  by_cases hused : c.field ∈ defs.map (·.name)
  · rw [if_pos (hasField_iff.mpr (h.mpr hused)), if_pos hused, List.append_nil]
  · rw [if_neg fun hfield => hused (h.mp (hasField_iff.mp hfield)), if_neg hused]

theorem columns_of_firstDefs (defs : List ColumnDef) : (of defs).columns =
    (firstDefs defs).map Column.of ++ addedFor defs .id ++ addedFor defs .history := by
  have hauthored : ∀ name, name ∈ ((firstDefs defs).map Column.of).map (·.field) ↔ name ∈ defs.map (·.name) :=
    fun name => hasField_iff.symm.trans (hasField_map_of.trans mem_names_firstDefs)
  have hhistory : Predefined.history.field ∈ ((firstDefs defs).map Column.of ++ addedFor defs .id).map (·.field) ↔
      Predefined.history.field ∈ defs.map (·.name) := by
    have hother : Predefined.history.field ∉ (addedFor defs .id).map (·.field) := by
      unfold addedFor
      split <;> decide
    rw [List.map_append, List.mem_append, hauthored, or_iff_left hother]
  rw [of, foldl_addDef, addHidden_eq (hauthored _), addHidden_eq hhistory]

/-- The names come in the order in which they come up. -/
theorem fields_of (defs : List ColumnDef) : (of defs).fields =
    (defs.map (·.name)).eraseDups ++ (addedFor defs .id ++ addedFor defs .history).map (·.field) := by
  rw [fields, columns_of_firstDefs, List.append_assoc, List.map_append, List.map_map, ← names_firstDefs]
  rfl

/-! ## Kinds -/

theorem kind?_eq_none_iff {plan : Plan} {name : String} : plan.kind? name = none ↔ name ∉ plan.fields := by
  simp [kind?, fields]

theorem kind?_of_mem {defs : List ColumnDef} {column : Column} (h : column ∈ (of defs).columns) :
    (of defs).kind? column.field = some column.kind := by
  have hfind : (of defs).columns.find? (·.field = column.field) = some column := find?_of_nodup (nodup_fields defs) h
  rw [kind?, hfind, Option.map_some]

theorem kind?_authored {defs : List ColumnDef} {name : String} {d : ColumnDef}
    (h : defs.find? (·.name = name) = some d) : (of defs).kind? name = some (Column.kindOf d) := by
  have hname := List.find?_some h
  have hfirst : d ∈ firstDefs defs := List.mem_of_find?_eq_some ((find?_firstDefs defs name).trans h)
  have hmem : Column.of d ∈ (of defs).columns := by
    rw [columns_of_firstDefs, List.append_assoc]
    exact List.mem_append_left _ (List.mem_map_of_mem hfirst)
  rw [← of_decide_eq_true hname]
  exact kind?_of_mem hmem

theorem kind?_added {defs : List ColumnDef} {c : Predefined} (hc : c ∈ [Predefined.id, .history])
    (h : c.field ∉ defs.map (·.name)) : (of defs).kind? c.field = some (.predefined c) := by
  have hadded : Column.ofPredefined c true ∈ addedFor defs c := by
    rw [addedFor, if_neg h]
    exact List.mem_singleton.mpr rfl
  have hmem : Column.ofPredefined c true ∈ addedFor defs .id ++ addedFor defs .history := by
    simp only [List.mem_cons, List.not_mem_nil, or_false] at hc
    rcases hc with rfl | rfl
    · exact List.mem_append_left _ hadded
    · exact List.mem_append_right _ hadded
  have hcolumn : Column.ofPredefined c true ∈ (of defs).columns := by
    rw [columns_of_firstDefs, List.append_assoc]
    exact List.mem_append_right _ hmem
  exact kind?_of_mem hcolumn

/-! ## The arrangement -/

/-- Columns arranged by the first definitions of their names. -/
structure Arranged (defs : List ColumnDef) (plan : Plan) : Prop where
  /-- The first definition of each name makes a column. After these come the key and the history of the person, out of
  sight, each unless a definition has its name. -/
  columns : plan.columns = (firstDefs defs).map Column.of ++ addedFor defs .id ++ addedFor defs .history
  names : plan.fields =
    (defs.map (·.name)).eraseDups ++ (addedFor defs .id ++ addedFor defs .history).map (·.field)
  distinct : plan.fields.Nodup
  /-- However little can be made of a definition, its name is there. -/
  complete : ∀ d ∈ defs, d.name ∈ plan.fields
  authored : ∀ name d, defs.find? (·.name = name) = some d → plan.kind? name = some (Column.kindOf d)
  added : ∀ c ∈ [Predefined.id, .history], c.field ∉ defs.map (·.name) → plan.kind? c.field = some (.predefined c)
  nothing : ∀ name, plan.kind? name = none ↔ name ∉ plan.fields

/-- The columns of a view are arranged by the first definitions of their names, and a later definition of a name might as
well be missing. -/
theorem of_arranged (defs : List ColumnDef) : Arranged defs (of defs) ∧
    ∀ front d back, defs = front ++ d :: back → d.name ∈ front.map (·.name) → of (front ++ back) = of defs := by
  constructor
  · refine ⟨columns_of_firstDefs defs, fields_of defs, nodup_fields defs, fun d hd => ?_, fun name d => kind?_authored,
      fun c => kind?_added, fun name => kind?_eq_none_iff⟩
    rw [fields_of]
    exact List.mem_append_left _ (List.mem_eraseDups.mpr (List.mem_map_of_mem hd))
  · rintro front d back rfl hlater
    rw [of, of, foldl_addDef_later hlater]

/-- An address given twice, the history in sight, and a pool that is not told. -/
def careless : List ColumnDef :=
  [{ name := "email" }, { name := "history", header := some "Past" }, { name := "helpers poolMember" },
    { name := "email", header := some "Mail", hidden := true }]

/-- The second address goes unnoticed, the history is not added again, and the pool keeps its place. -/
theorem of_arranged_careless :
    (of careless).fields = ["email", "history", "helpers poolMember", "id"] ∧
      (of careless).kind? "helpers poolMember" = some .unknown ∧ (of careless).kind? "id" = some (.predefined .id) ∧
      (of careless).kind? "first" = none ∧ of (careless.take 3) = of careless := by
  obtain ⟨harranged, hlater⟩ := of_arranged careless
  have hnames : (of careless).fields = ["email", "history", "helpers poolMember", "id"] :=
    harranged.names.trans (by decide)
  have hunknown : Column.kindOf { name := "helpers poolMember" } = .unknown := by decide +kernel
  refine ⟨hnames, ?_, harranged.added .id (by decide) (by decide), ?_, ?_⟩
  · rw [harranged.authored "helpers poolMember" _ rfl, hunknown]
  · rw [harranged.nothing, hnames]
    decide
  · exact hlater (careless.take 3) _ [] rfl (by decide)

end RetreatDesk.Plan
