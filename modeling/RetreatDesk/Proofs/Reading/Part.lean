import RetreatDesk.Proofs.Json.Document
import RetreatDesk.Proofs.Reading.Layout

/-!
# Parts of a document

A document names its parts, or holds them one after another in the order of the declared fields.

* `Draft.part?`: the part of a document under a name, or in the place of that name.
* `Layout.HasField`: one field of a layout, apart from all the others.
* `Layout.HasField.taken_of_read`: what has been read of that field is what its part of the document holds.
* `Draft.distinct_part?`, `Reader.distinct_values`: parts of a document, and the items of a list in it, give no two
  fields one name if the document does not.
-/

namespace RetreatDesk

/-- The part of a document under a name, or in the place of that name where the parts come in order. -/
def Draft.part? (names : List String) (name : String) (d : Draft) : Option Draft :=
  match d.fields?, d.items? with
  | some fs, _ => fs.parts.lookup (some name)
  | none, some ds => (names.zip ds.parts).lookup name
  | none, none => none

namespace Draft

theorem part?_of_fields {names : List String} {name : String} {d : Draft} {fs : Parts (Option String × Draft)}
    (h : d.fields? = some fs) : d.part? names name = fs.parts.lookup (some name) := by
  simp only [part?, h]

theorem part?_of_items {names : List String} {name : String} {d : Draft} {ds : Parts Draft}
    (hnone : d.fields? = none) (h : d.items? = some ds) : d.part? names name = (names.zip ds.parts).lookup name := by
  simp only [part?, hnone, h]

theorem distinct_part? {doc : Draft} (hdoc : doc.Distinct) {names : List String} {name : String} {d : Draft}
    (h : doc.part? names name = some d) : d.Distinct := by
  unfold part? at h
  split at h
  · next fs hfs =>
    obtain ⟨before, after, hsplit, -⟩ := List.lookup_eq_some_iff.mp h
    exact hdoc.fields? hfs (some name, d) (by simp [hsplit])
  · next ds _ hds => exact hdoc.items? hds d (List.of_mem_zip (mem_of_lookup h)).2
  · cases h

end Draft

/-! ## Lists -/

namespace Reader

theorem mem_eachItem {α : Type} {r : Reader α} {parts : List Draft} {as : List α} (h : eachItem r parts = .ok as)
    {a : α} (ha : a ∈ as) : ∃ d ∈ parts, r d = .ok a := by
  induction parts generalizing as with
  | nil =>
    cases h
    cases ha
  | cons d rest ih =>
    obtain ⟨b, hb, h⟩ := bind_eq_ok.mp h
    obtain ⟨bs, hbs, h⟩ := bind_eq_ok.mp h
    cases h
    rcases List.mem_cons.mp ha with rfl | ha
    · exact ⟨d, List.mem_cons_self, hb⟩
    · obtain ⟨d', hd', hread⟩ := ih hbs ha
      exact ⟨d', List.mem_cons_of_mem _ hd', hread⟩

theorem distinct_values {d : Draft} (hd : d.Distinct) {vs : List Json} (h : values d = .ok vs) :
    ∀ v ∈ vs, v.Distinct := by
  unfold values orBlank at h
  split at h
  · cases h
    simp
  · unfold items at h
    split at h
    · cases h
    · next ds hds =>
      obtain ⟨ws, hws, h⟩ := bind_eq_ok.mp h
      obtain ⟨-, -, h⟩ := bind_eq_ok.mp h
      cases h
      intro v hv
      obtain ⟨d', hd', hread⟩ := mem_eachItem hws hv
      exact (hd.items? hds d' hd').read_json hread

end Reader

/-! ## Fields -/

namespace Layout

variable {α β : Type}

/-- What is held after reading is what a reader takes from a part of the document, or what was held before where there is
no such part. -/
def Taken (r : Reader β) (get : α → β) (part : Option Draft) (before after : α) : Prop :=
  match part with
  | none => get after = get before
  | some d => r d = .ok (get after)

/-- A declared field: its reader, and where the value holds what it has read. All other fields leave that alone. -/
structure HasField (l : Layout α) (name : String) (r : Reader β) (get : α → β) : Prop where
  declared : name ∈ l.fields
  keep_eq : l.keep = none
  of_set : ∀ {d a b}, l.set name d a = .ok b → r d = .ok (get b)
  of_set_ne : ∀ {k d a b}, k ∈ l.fields → k ≠ name → l.set k d a = .ok b → get b = get a

namespace HasField

variable {l : Layout α} {name : String} {r : Reader β} {get : α → β} (f : l.HasField name r get)

theorem taken_of_same {part : Option Draft} {a a' b : α} (hsame : get a' = get a) (h : Taken r get part a' b) :
    Taken r get part a b := by
  cases part with
  | none => exact h.trans hsame
  | some d => exact h

include f

theorem taken_of_set {d : Draft} {a a' b : α} (hset : l.set name d a = .ok a') (h : Taken r get none a' b) :
    Taken r get (some d) a b := by
  have hget : get b = get a' := h
  change r d = .ok (get b)
  rw [hget]
  exact f.of_set hset

theorem get_take_of_ne {k : String} (hk : k ≠ name) {d : Draft} {a b : α} (h : l.take a k d = .ok b) :
    get b = get a := by
  unfold take at h
  split at h
  · next hdeclared => exact f.of_set_ne hdeclared hk h
  · rw [other, f.keep_eq] at h
    obtain ⟨-, -, h⟩ := bind_eq_ok.mp h
    cases h
    rfl

/-- A field that has been met already is not met again, so the first field of its name counts. -/
theorem taken_of_readFields {parts : List (Option String × Draft)} {seen met : List String} {a b : α}
    (h : l.readFields seen a parts = .ok (met, b)) :
    Taken r get (if name ∈ seen then none else parts.lookup (some name)) a b := by
  induction parts generalizing seen a with
  | nil =>
    cases h
    split <;> rfl
  | cons e rest ih =>
    obtain ⟨- | k, d⟩ := e
    · cases h
    by_cases hmet : k ∈ l.fields ∧ k ∈ seen
    · rw [readFields, if_pos hmet.1, if_pos hmet.2] at h
      cases h
    rw [l.readFields_cons fun hdecl hseen => hmet ⟨hdecl, hseen⟩] at h
    obtain ⟨a', htake, h⟩ := bind_eq_ok.mp h
    have hrest := ih h
    by_cases hname : k = name
    · subst hname
      have hfresh : k ∉ seen := fun hseen => hmet ⟨f.declared, hseen⟩
      rw [take, if_pos f.declared] at htake
      rw [if_pos (l.mem_meet.mpr (.inr ⟨f.declared, rfl⟩))] at hrest
      rw [if_neg hfresh, List.lookup_cons_self]
      exact f.taken_of_set htake hrest
    · have hseen : name ∈ l.meet seen k ↔ name ∈ seen := by
        rw [mem_meet]
        exact or_iff_left fun hnew => hname hnew.2.symm
      have hother : (some name == some k) = false :=
        beq_eq_false_iff_ne.mpr fun heq => hname (Option.some.inj heq).symm
      rw [List.lookup_cons, hother]
      refine taken_of_same (f.get_take_of_ne hname htake) ?_
      simpa only [hseen] using hrest

theorem taken_of_readItems {names : List String} (hnames : names.Nodup) (hdeclared : ∀ n ∈ names, n ∈ l.fields)
    {parts : List Draft} {gap : Option Fault} {index left : Nat} {a b : α}
    (h : l.readItems gap index a names parts = .ok (b, left)) : Taken r get ((names.zip parts).lookup name) a b := by
  induction names generalizing parts index a with
  | nil =>
    cases h
    rfl
  | cons k names ih =>
    obtain ⟨hfresh, hnodup⟩ := List.nodup_cons.mp hnames
    obtain ⟨hk, hothers⟩ := List.forall_mem_cons.mp hdeclared
    cases parts with
    | nil =>
      obtain ⟨-, -, h⟩ := bind_eq_ok.mp h
      obtain ⟨-, -, h⟩ := bind_eq_ok.mp h
      cases h
      rfl
    | cons d parts =>
      obtain ⟨a', hset, h⟩ := bind_eq_ok.mp h
      have hrest := ih hnodup hothers h
      rw [List.zip_cons_cons]
      by_cases heq : k = name
      · subst heq
        have hnone : (names.zip parts).lookup k = none :=
          lookup_eq_none_of_not_mem fun hmem => by
            obtain ⟨e, he, hkey⟩ := List.mem_map.mp hmem
            exact hfresh (hkey ▸ (List.of_mem_zip he).1)
        rw [hnone] at hrest
        rw [List.lookup_cons_self]
        exact f.taken_of_set hset hrest
      · have htake : l.take a k d = .ok a' := by rw [take, if_pos hk, hset]
        rw [lookup_cons_of_ne (Ne.symm heq)]
        exact taken_of_same (f.get_take_of_ne heq htake) hrest

/-- What has been read of a field is what its part of the document holds. -/
theorem taken_of_read (hfields : l.fields.Nodup) {doc : Draft} {x : α} (h : l.read doc = .ok x) :
    Taken r get (doc.part? l.fields name) l.blank x := by
  unfold read at h
  split at h
  · next fs hfs =>
    obtain ⟨met, hread⟩ := l.exists_readFields h
    rw [Draft.part?_of_fields hfs]
    exact f.taken_of_readFields hread
  · next ds hfs hds =>
    split at h
    · cases h
    · obtain ⟨left, hread⟩ := l.exists_readItems h
      rw [Draft.part?_of_items hfs hds]
      exact f.taken_of_readItems hfields (fun n hn => hn) hread
  · cases h

end HasField

end Layout

end RetreatDesk
