import RetreatDesk.Proofs.Reading.Facet
import RetreatDesk.Proofs.Reading.Outcome

/-!
# Records of entries that are all read alike

* `eachField_iff`: reading entry by entry gives the value of each entry under its name.
* `sorted_fits_record`, `listed_fits_record`, `labels_fits_record`: what is read off a record, name by name.
* `sortedComposite`, `listedComposite`, `labelsComposite`: collections as composites of their entries.
-/

namespace RetreatDesk

open Json

/-! ## Entry by entry -/

/-- The fields of a record that has been read already. -/
def Draft.ofFields (fs : List (String × Json)) : List (Option String × Draft) :=
  fs.map fun e => (some e.1, .value e.2)

theorem Draft.ofFields_cons (e : String × Json) (fs : List (String × Json)) :
    ofFields (e :: fs) = (some e.1, .value e.2) :: ofFields fs := rfl

namespace Reader

variable {α β : Type} {r : Reader α}

theorem eachField_cons_eq_ok {k : String} {d : Draft} {rest : List (Option String × Draft)}
    {es : List (String × α)} : eachField r ((some k, d) :: rest) = .ok es ↔
      ∃ a as, r d = .ok a ∧ eachField r rest = .ok as ∧ es = (k, a) :: as := by
  rw [eachField]
  simp only [bind_eq_ok, pure, Except.pure, Except.ok.injEq]
  constructor
  · rintro ⟨a, ha, as, has, rfl⟩
    exact ⟨a, as, ha, has, rfl⟩
  · rintro ⟨a, as, ha, has, rfl⟩
    exact ⟨a, ha, as, has, rfl⟩

theorem mem_eachField {parts : List (Option String × Draft)} {es : List (String × α)}
    (h : eachField r parts = .ok es) {e : String × α} (he : e ∈ es) : ∃ p ∈ parts, r p.2 = .ok e.2 := by
  induction parts generalizing es with
  | nil => cases h; cases he
  | cons p rest ih =>
    rcases p with ⟨- | k, d⟩
    · cases h
    obtain ⟨a, as, ha, has, rfl⟩ := eachField_cons_eq_ok.mp h
    rcases List.mem_cons.mp he with rfl | he
    · exact ⟨(some k, d), List.mem_cons_self, ha⟩
    · obtain ⟨p, hp, hread⟩ := ih has he
      exact ⟨p, List.mem_cons_of_mem _ hp, hread⟩

theorem exists_eachField {fs : List (String × Json)} (h : ∀ e ∈ fs, ∃ a, r (.value e.2) = .ok a) :
    ∃ es, eachField r (Draft.ofFields fs) = .ok es := by
  induction fs with
  | nil => exact ⟨[], rfl⟩
  | cons f rest ih =>
    obtain ⟨a, ha⟩ := h f List.mem_cons_self
    obtain ⟨as, has⟩ := ih fun e he => h e (List.mem_cons_of_mem _ he)
    exact ⟨(f.1, a) :: as, eachField_cons_eq_ok.mpr ⟨a, as, ha, has, rfl⟩⟩

/-- Reading entry by entry gives the value of each entry under its name, and keeps the names as they come. -/
theorem eachField_iff (write : α → Json) {fs : List (String × Json)} (hfs : (keysOf fs).Nodup)
    {es : List (String × α)} : eachField r (Draft.ofFields fs) = .ok es ↔
      keysOf es = keysOf fs ∧ ∀ k, (Facet.entry r write).fits (fs.lookup k) (es.lookup k) := by
  induction fs generalizing es with
  | nil =>
    constructor
    · intro h
      cases h
      exact ⟨rfl, fun k => rfl⟩
    · rintro ⟨hkeys, -⟩
      rw [List.map_eq_nil_iff.mp hkeys]
      rfl
  | cons f rest ih =>
    obtain ⟨k, v⟩ := f
    obtain ⟨hfresh, hrest⟩ := List.nodup_cons.mp hfs
    rw [Draft.ofFields_cons, eachField_cons_eq_ok]
    constructor
    · rintro ⟨a, as, ha, has, rfl⟩
      obtain ⟨hkeys, hfits⟩ := (ih hrest).mp has
      refine ⟨congrArg (k :: ·) hkeys, fun j => ?_⟩
      by_cases hj : j = k
      · subst hj
        rw [List.lookup_cons_self, List.lookup_cons_self]
        exact ha
      · rw [lookup_cons_of_ne hj, lookup_cons_of_ne hj]
        exact hfits j
    · rintro ⟨hkeys, hfits⟩
      rcases es with - | ⟨⟨k', a⟩, as⟩
      · cases hkeys
      obtain ⟨hk, htail⟩ := List.cons.inj hkeys
      simp only at hk
      subst hk
      have ha := hfits k'
      rw [List.lookup_cons_self, List.lookup_cons_self] at ha
      refine ⟨a, as, ha, (ih hrest).mpr ⟨htail, fun j => ?_⟩, rfl⟩
      by_cases hj : j = k'
      · have hfresh' : k' ∉ keysOf as := fun hmem => hfresh (htail ▸ hmem)
        rw [hj, lookup_eq_none_of_not_mem hfresh, lookup_eq_none_of_not_mem hfresh']
        rfl
      · have h := hfits j
        rwa [lookup_cons_of_ne hj, lookup_cons_of_ne hj] at h

theorem eachField_json (fs : List (String × Json)) : eachField json (Draft.ofFields fs) = .ok fs := by
  induction fs with
  | nil => rfl
  | cons f rest ih => exact eachField_cons_eq_ok.mpr ⟨f.2, rest, rfl, ih, rfl⟩

theorem eachField_flag (fs : List (String × Json)) :
    eachField flag (Draft.ofFields fs) = .ok (fs.map fun e => (e.1, e.2.isSet)) := by
  induction fs with
  | nil => rfl
  | cons f rest ih => exact eachField_cons_eq_ok.mpr ⟨f.2.isSet, _, rfl, ih, rfl⟩

theorem entries_record (fs : List (String × Json)) :
    entries r (.value (.record fs)) = eachField r (Draft.ofFields fs) := by
  change (eachField r (Draft.ofFields fs) >>= fun es => .ok es) = _
  cases eachField r (Draft.ofFields fs) <;> rfl

/-- Whatever stands in a collection of entries has been read from some value. -/
theorem mem_of_read {γ : Type} {blank : γ} {ofList : List (String × α) → γ} (entriesOf : γ → List (String × α))
    (hblank : entriesOf blank = []) (hofList : ∀ {es e}, e ∈ entriesOf (ofList es) → e ∈ es) {v : Json} {m : γ}
    (h : orBlank blank (fun d => ofList <$> entries r d) (.value v) = .ok m) {e : String × α}
    (he : e ∈ entriesOf m) : ∃ w, r (.value w) = .ok e.2 := by
  cases v with
  | null =>
    cases h
    rw [hblank] at he
    cases he
  | record fs =>
    change ofList <$> entries r (.value (.record fs)) = .ok m at h
    rw [entries_record, map_eq_ok] at h
    obtain ⟨es, hes, rfl⟩ := h
    obtain ⟨p, hp, hread⟩ := mem_eachField hes (hofList he)
    obtain ⟨f, -, rfl⟩ := List.mem_map.mp hp
    exact ⟨f.2, hread⟩
  | _ => cases h

end Reader

namespace Facet

variable {α : Type} {r : Reader α} {write : α → Json}

theorem entry_sound {es : List (String × α)} (h : ∀ e ∈ es, ∃ v, r (.value v) = .ok e.2) (k : String) :
    (entry r write).Sound (es.lookup k) := by
  cases hk : es.lookup k with
  | none => exact ⟨none, rfl⟩
  | some a =>
    obtain ⟨v, hv⟩ := h _ (mem_of_lookup hk)
    exact ⟨some v, hv⟩

theorem readable_of_entry {fs : List (String × Json)} (hfs : (keysOf fs).Nodup) {found : String → Option α}
    (h : ∀ k, (entry r write).fits (fs.lookup k) (found k)) : ∀ e ∈ fs, ∃ a, r (.value e.2) = .ok a := by
  rintro ⟨k, v⟩ he
  have hk := h k
  rw [lookup_of_mem hfs he] at hk
  match found k, hk with
  | some a, hk => exact ⟨a, hk⟩

/-! ## Entries by name -/

/-- Entries by name, none when missing. -/
def sorted (r : Reader α) (write : α → Json) : Facet (Sorted α) :=
  ofReader (Reader.sorted r) (some .empty) fun m => some (.record (m.entries.map fun e => (e.1, write e.2)))

theorem sorted_fits_record {fs : List (String × Json)} (hfs : (keysOf fs).Nodup) {m : Sorted α} :
    (sorted r write).fits (some (.record fs)) m ↔ ∀ k, (entry r write).fits (fs.lookup k) (m.get? k) := by
  change Sorted.ofList <$> Reader.entries r (.value (.record fs)) = .ok m ↔ _
  rw [Reader.entries_record, map_eq_ok]
  constructor
  · rintro ⟨es, hes, rfl⟩ k
    obtain ⟨hkeys, hfits⟩ := (Reader.eachField_iff write hfs).mp hes
    rw [Sorted.get?_ofList (hkeys ▸ hfs)]
    exact hfits k
  · intro h
    obtain ⟨es, hes⟩ := Reader.exists_eachField (readable_of_entry hfs h)
    obtain ⟨hkeys, hfits⟩ := (Reader.eachField_iff write hfs).mp hes
    refine ⟨es, hes, Sorted.ext_get? fun k => ?_⟩
    rw [Sorted.get?_ofList (hkeys ▸ hfs)]
    exact entry_unique (hfits k) (h k)

theorem mem_of_sorted_sound {m : Sorted α} (h : (sorted r write).Sound m) :
    ∀ e ∈ m.entries, ∃ v, r (.value v) = .ok e.2 := by
  rintro e he
  obtain ⟨t, ht⟩ := h
  cases t with
  | none => cases ht; cases he
  | some v => exact Reader.mem_of_read Sorted.entries rfl Sorted.mem_ofList ht he

def sortedComposite (r : Reader α) (write : α → Json) : (sorted r write).Composite where
  part k := (entry r write).along (·.get? k)
  fields m := m.entries.map fun e => (e.1, write e.2)
  shape _ _ := True
  write_eq _ := rfl
  fits_record hfs := (sorted_fits_record hfs).trans (iff_of_eq (and_true _).symm)
  missing h := by cases h; rfl
  sound h k := entry_sound (mem_of_sorted_sound h) k
  nodup {m} _ := by rw [keysOf_map]; exact m.nodup_keys
  lookup _ k := lookup_map write k _
  shape_again _ _ _ _ := trivial

theorem sorted_steady (h : (whole r write).Steady) : (sorted r write).Steady :=
  (sortedComposite r write).steady fun _ => (entry_steady h).along _

/-! ## Entries in order -/

/-- Entries in the order of the document, none when missing. -/
def listed (r : Reader α) (write : α → Json) : Facet (Listed α) :=
  ofReader (Reader.listed r) (some .empty) fun m => some (.record (m.entries.map fun e => (e.1, write e.2)))

theorem listed_fits_record {fs : List (String × Json)} (hfs : (keysOf fs).Nodup) {m : Listed α} :
    (listed r write).fits (some (.record fs)) m ↔
      (∀ k, (entry r write).fits (fs.lookup k) (m.get? k)) ∧ keysOf m.entries = keysOf fs := by
  change Listed.ofList <$> Reader.entries r (.value (.record fs)) = .ok m ↔ _
  rw [Reader.entries_record, map_eq_ok]
  constructor
  · rintro ⟨es, hes, rfl⟩
    obtain ⟨hkeys, hfits⟩ := (Reader.eachField_iff write hfs).mp hes
    have hes' := Listed.entries_ofList (hkeys ▸ hfs)
    exact ⟨fun k => by rw [Listed.get?, hes']; exact hfits k, by rw [hes']; exact hkeys⟩
  · rintro ⟨hfits, hkeys⟩
    refine ⟨m.entries, (Reader.eachField_iff write hfs).mpr ⟨hkeys, hfits⟩, ?_⟩
    exact Listed.ext (Listed.entries_ofList m.distinct)

/-- Flags are read entry by entry. -/
theorem entries_of_flags {fs : List (String × Json)} (hfs : (keysOf fs).Nodup) {m : Listed Bool}
    (h : (listed Reader.flag .bool).fits (some (.record fs)) m) : m.entries = fs.map fun e => (e.1, e.2.isSet) := by
  change Listed.ofList <$> Reader.entries Reader.flag (.value (.record fs)) = .ok m at h
  rw [Reader.entries_record, Reader.eachField_flag] at h
  have hm : Listed.ofList (fs.map fun e => (e.1, e.2.isSet)) = m := Except.ok.inj h
  rw [← hm]
  exact Listed.entries_ofList (by rwa [keysOf_map])

theorem mem_of_listed_sound {m : Listed α} (h : (listed r write).Sound m) :
    ∀ e ∈ m.entries, ∃ v, r (.value v) = .ok e.2 := by
  rintro e he
  obtain ⟨t, ht⟩ := h
  cases t with
  | none => cases ht; cases he
  | some v => exact Reader.mem_of_read Listed.entries rfl Listed.mem_ofList ht he

def listedComposite (r : Reader α) (write : α → Json) : (listed r write).Composite where
  part k := (entry r write).along (·.get? k)
  fields m := m.entries.map fun e => (e.1, write e.2)
  shape fs m := keysOf m.entries = keysOf fs
  write_eq _ := rfl
  fits_record hfs := listed_fits_record hfs
  missing h := by cases h; rfl
  sound h k := entry_sound (mem_of_listed_sound h) k
  nodup {m} _ := by rw [keysOf_map]; exact m.distinct
  lookup _ k := lookup_map write k _
  shape_again {base changes m} _ _ _ hkeys := by
    rw [← keysOf_map write m.entries] at hkeys ⊢
    exact (keysOf_overlayFields_again hkeys).symm

theorem listed_steady (h : (whole r write).Steady) : (listed r write).Steady :=
  (listedComposite r write).steady fun _ => (entry_steady h).along _

/-! ## Texts by name -/

/-- A text under a name; what cannot be taken for one counts as missing. -/
def textEntry : Facet (Option String) where
  fits t x := t.bind Json.text? = x
  write := Option.map .text

theorem textEntry_steady : textEntry.Steady := by
  refine steady_of_scalar (fun x w h => ?_) fun t x _ _ => ?_
  · obtain ⟨s, -, rfl⟩ := Option.map_eq_some_iff.mp h
    rfl
  · cases x <;> rfl

/-- Texts by name, none when missing. -/
def labels : Facet (Sorted String) :=
  ofReader Reader.labels (some .empty) fun m => some (.record (m.entries.map fun e => (e.1, .text e.2)))

theorem labels_fits_record {fs : List (String × Json)} (hfs : (keysOf fs).Nodup) {m : Sorted String} :
    labels.fits (some (.record fs)) m ↔ ∀ k, textEntry.fits (fs.lookup k) (m.get? k) := by
  let texts := (Sorted.ofList fs).entries.filterMap fun e => e.2.text?.map (e.1, ·)
  have hread : labels.fits (some (.record fs)) m ↔ Sorted.ofList texts = m := by
    change (Reader.entries Reader.json (.value (.record fs)) >>= _) = .ok m ↔ _
    rw [Reader.entries_record, Reader.eachField_json]
    exact ⟨Except.ok.inj, congrArg _⟩
  have htexts : (keysOf texts).Nodup := (keysOf_filterMap _ _).nodup (Sorted.nodup_keys _)
  have hget : ∀ k, (Sorted.ofList texts).get? k = (fs.lookup k).bind Json.text? := by
    intro k
    rw [Sorted.get?_ofList htexts, lookup_filterMap _ (Sorted.nodup_keys _), ← Sorted.get?_ofList hfs]
    rfl
  rw [hread]
  constructor
  · rintro rfl k
    exact (hget k).symm
  · intro h
    exact Sorted.ext_get? fun k => (hget k).trans (h k)

theorem textEntry_sound (x : Option String) : textEntry.Sound x := ⟨x.map .text, by cases x <;> rfl⟩

def labelsComposite : labels.Composite where
  part k := textEntry.along (·.get? k)
  fields m := m.entries.map fun e => (e.1, .text e.2)
  shape _ _ := True
  write_eq _ := rfl
  fits_record hfs := (labels_fits_record hfs).trans (iff_of_eq (and_true _).symm)
  missing h := by cases h; rfl
  sound {m} _ k := textEntry_sound (m.get? k)
  nodup {m} _ := by rw [keysOf_map]; exact m.nodup_keys
  lookup _ k := lookup_map Json.text k _
  shape_again _ _ _ _ := trivial

theorem labels_steady : labels.Steady := labelsComposite.steady fun _ => textEntry_steady.along _

end Facet

end RetreatDesk
