import RetreatDesk.View.Column
import Mathlib.Data.List.Nodup

/-!
# The columns of a view

Every column of a view, authored or added out of sight, goes last unless its name is used already.

* `Plan.columns_of`: the columns of a view, one after another.
* `Plan.nodup_fields`: each name is used once.
* `Plan.kind_eq_predefined_iff`: a column shows what a predefined column shows exactly if it has the plain name.
-/

namespace RetreatDesk

/-! ## Columns one after another -/

namespace Plan

/-- The names of the columns. -/
def fields (p : Plan) : List String := p.columns.map (·.field)

/-- One more column; a name already used is passed over. -/
def addFresh (columns : List Column) (c : Column) : List Column :=
  if hasField columns c.field then columns else columns ++ [c]

/-- The columns added out of sight. -/
def hiddenColumns : List Column := [Column.ofPredefined .id true, Column.ofPredefined .history true]

/-- The authored columns and then the hidden ones are taken in order. -/
theorem columns_of (defs : List ColumnDef) :
    (of defs).columns = (defs.map Column.of ++ hiddenColumns).foldl addFresh [] := by
  rw [List.foldl_append, List.foldl_map]
  rfl

theorem hasField_iff {columns : List Column} {name : String} :
    hasField columns name = true ↔ name ∈ columns.map (·.field) := by
  simp [hasField]

theorem mem_addFresh {columns : List Column} {c c' : Column} (h : c' ∈ addFresh columns c) : c' ∈ columns ∨ c' = c := by
  unfold addFresh at h
  split at h
  · exact .inl h
  · exact (List.mem_append.mp h).imp id List.mem_singleton.mp

theorem nodup_addFresh {columns : List Column} (h : (columns.map (·.field)).Nodup) (c : Column) :
    ((addFresh columns c).map (·.field)).Nodup := by
  unfold addFresh
  split
  · exact h
  · next hfresh =>
    rw [hasField_iff] at hfresh
    rw [List.map_append, List.map_singleton]
    exact List.nodup_append.mpr ⟨h, List.nodup_singleton _, fun a ha b hb hab =>
      hfresh (List.mem_singleton.mp hb ▸ hab ▸ ha)⟩

theorem mem_foldl_addFresh {cs columns : List Column} {c : Column} (h : c ∈ cs.foldl addFresh columns) :
    c ∈ columns ∨ c ∈ cs := by
  induction cs generalizing columns with
  | nil => exact .inl h
  | cons c' rest ih =>
    rcases ih h with hold | hrest
    · rcases mem_addFresh hold with hold | rfl
      · exact .inl hold
      · exact .inr List.mem_cons_self
    · exact .inr (List.mem_cons_of_mem _ hrest)

theorem nodup_foldl_addFresh (cs : List Column) {columns : List Column} (h : (columns.map (·.field)).Nodup) :
    ((cs.foldl addFresh columns).map (·.field)).Nodup := by
  induction cs generalizing columns with
  | nil => exact h
  | cons c rest ih => exact ih (nodup_addFresh h c)

/-- Each name is used once. -/
theorem nodup_fields (defs : List ColumnDef) : (of defs).fields.Nodup := by
  rw [fields, columns_of]
  exact nodup_foldl_addFresh _ List.nodup_nil

theorem mem_columns_of {defs : List ColumnDef} {c : Column} (h : c ∈ (of defs).columns) :
    (∃ d ∈ defs, Column.of d = c) ∨ c ∈ hiddenColumns := by
  rw [columns_of] at h
  rcases mem_foldl_addFresh h with hnone | h
  · cases hnone
  · exact (List.mem_append.mp h).imp List.mem_map.mp id

end Plan

/-! ## Plain names -/

theorem Predefined.mem_all (c : Predefined) : c ∈ all := by
  cases c <;> decide

theorem Predefined.ofField?_field (c : Predefined) : ofField? c.field = some c := by
  cases c <;> decide

theorem Predefined.field_of_ofField? {name : String} {c : Predefined} (h : ofField? name = some c) :
    c.field = name := by
  unfold ofField? at h
  simpa using List.find?_some h

theorem Predefined.field_injective {c c' : Predefined} (h : c.field = c'.field) : c = c' := by
  have hfound := ofField?_field c
  rw [h, ofField?_field] at hfound
  exact (Option.some.inj hfound).symm

/-- No plain name has a marker in it. -/
theorem Marker.find?_field (c : Predefined) : find? c.field = none := by
  have hall : ∀ c ∈ Predefined.all, find? c.field = none := by decide +kernel
  exact hall c c.mem_all

theorem Marker.kind?_ne_predefined (m : Marker) (d : ColumnDef) (c : Predefined) :
    m.kind? d ≠ some (.predefined c) := by
  cases m <;> simp [kind?, Option.bind_eq_some_iff]

theorem Column.kindOf_eq_predefined_iff {d : ColumnDef} {c : Predefined} :
    kindOf d = .predefined c ↔ d.name = c.field := by
  unfold kindOf
  cases hmarker : Marker.find? d.name with
  | some m =>
    constructor
    · intro h
      cases hkind : m.kind? d with
      | none => simp [hkind] at h
      | some kind =>
        simp only [hkind, Option.getD_some] at h
        exact absurd (h ▸ hkind) (m.kind?_ne_predefined d c)
    · intro h
      rw [h, Marker.find?_field] at hmarker
      cases hmarker
  | none =>
    constructor
    · intro h
      cases hplain : Predefined.ofField? d.name with
      | none => simp [hplain] at h
      | some c' =>
        simp only [hplain, Option.map_some, Option.getD_some, ColumnKind.predefined.injEq] at h
        subst h
        exact (Predefined.field_of_ofField? hplain).symm
    · intro h
      simp [h, Predefined.ofField?_field]

/-- A column of a view shows what a predefined column shows exactly if it has the plain name. -/
theorem Plan.kind_eq_predefined_iff {defs : List ColumnDef} {column : Column} (h : column ∈ (of defs).columns)
    {c : Predefined} : column.kind = .predefined c ↔ column.field = c.field := by
  rcases mem_columns_of h with ⟨d, -, rfl⟩ | hhidden
  · exact Column.kindOf_eq_predefined_iff
  · have hplain : ∃ c', column = Column.ofPredefined c' true := by
      simp only [hiddenColumns, List.mem_cons, List.not_mem_nil, or_false] at hhidden
      exact hhidden.elim (fun h => ⟨_, h⟩) fun h => ⟨_, h⟩
    obtain ⟨c', rfl⟩ := hplain
    constructor
    · intro heq
      cases heq
      rfl
    · intro heq
      rw [Predefined.field_injective heq]
      rfl

end RetreatDesk
