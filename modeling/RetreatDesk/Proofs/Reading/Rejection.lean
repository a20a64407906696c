import RetreatDesk.Proofs.Reading.Arising

/-!
# What cannot be read

Scalars are read loosely, so whether a record can be read is a matter of the containers in it: whether they are
containers, and whether their entries can be read.

* `Json.BrokenContainer`, `Json.BrokenRecord`: containers and records that are none, or hold something broken.
* `Facet.Refuses`: of the values that changes can leave, those that cannot be read are the broken ones, and what a
  change leaves is broken exactly if the change is.
* `sorted_refuses`, `listed_refuses`, `labels_refuses`, `Described.refuses`: collections and records refuse what they
  cannot hold and what their parts refuse.
-/

namespace RetreatDesk

open Json

namespace Json

/-- Neither `null` nor a record, or a record in which an entry is broken. -/
def BrokenContainer (broken : Json → Prop) (v : Json) : Prop :=
  v ≠ .null ∧ (v.isRecord = false ∨ ∃ k w, v.get? k = some w ∧ broken w)

/-- No record, or a record in which a field is broken. -/
def BrokenRecord (broken : String → Json → Prop) (v : Json) : Prop :=
  v.isRecord = false ∨ ∃ k w, v.get? k = some w ∧ broken k w

theorem brokenContainer_iff {broken : Json → Prop} {v : Json} : BrokenContainer broken v ↔
    (v ≠ .null ∧ v.isRecord = false) ∨ ∃ k w, v.get? k = some w ∧ broken w := by
  rw [BrokenContainer, and_or_left]
  refine or_congr_right (and_iff_right_of_imp ?_)
  rintro ⟨k, w, hw, -⟩ rfl
  cases hw

theorem brokenContainer_record {broken : Json → Prop} {fs : List (String × Json)} :
    BrokenContainer broken (.record fs) ↔ ∃ k w, fs.lookup k = some w ∧ broken w := by
  simp [BrokenContainer, isRecord, get?, fields]

theorem brokenRecord_record {broken : String → Json → Prop} {fs : List (String × Json)} :
    BrokenRecord broken (.record fs) ↔ ∃ k w, fs.lookup k = some w ∧ broken k w := by
  simp [BrokenRecord, isRecord, get?, fields]

end Json

/-- Entries that are all read alike can be read exactly if each of them can. -/
theorem Reader.exists_eachField_iff {α : Type} {r : Reader α} {fs : List (String × Json)} (hfs : (keysOf fs).Nodup) :
    (∃ es, eachField r (Draft.ofFields fs) = .ok es) ↔ ∀ k v, fs.lookup k = some v → ∃ a, r (.value v) = .ok a := by
  constructor
  · rintro ⟨es, hes⟩ k v hv
    have hread := ((eachField_iff (fun _ => .null) hfs).mp hes).2 k
    rw [hv] at hread
    cases ha : es.lookup k with
    | none => rw [ha] at hread; cases hread
    | some a => rw [ha] at hread; exact ⟨a, hread⟩
  · exact fun h => exists_eachField fun e he => h e.1 e.2 (lookup_of_mem hfs he)

namespace Facet

variable {α β : Type}

/-- Broken is what cannot be read. -/
structure Refuses (f : Facet α) (broken : Json → Prop) : Prop where
  /-- Of the values that changes can leave, the broken ones cannot be read and all others can. -/
  fits_iff : ∀ u, f.Arises u → ((∃ x, f.fits (some u) x) ↔ ¬ broken u)
  /-- What a change leaves is broken exactly if the change is, whatever stood there. -/
  settle_iff : ∀ t w, f.Stands t → w.Distinct → (broken (settle t w) ↔ broken w)

theorem Refuses.congr {f : Facet α} {broken broken' : Json → Prop} (h : f.Refuses broken)
    (heq : ∀ v, broken v ↔ broken' v) : f.Refuses broken' where
  fits_iff u hu := by rw [h.fits_iff u hu, heq u]
  settle_iff t w ht hw := by rw [← heq, ← heq, h.settle_iff t w ht hw]

/-- Where everything can be read nothing is broken. -/
theorem refuses_nothing {f : Facet α} (hread : ∀ v, ∃ x, f.fits (some v) x) {broken : Json → Prop}
    (hnone : ∀ v, ¬ broken v) : f.Refuses broken where
  fits_iff u _ := iff_of_true (hread u) (hnone u)
  settle_iff _ _ _ _ := iff_of_false (hnone _) (hnone _)

/-! ## Values written as records -/

namespace Composite

variable {f : Facet α} (c : f.Composite)

/-- What a record of changes leaves holds something broken exactly if the changes do, as what was written does not. -/
theorem broken_settle_iff {broken : String → Json → Prop}
    (hsound : ∀ y, f.Sound y → ∀ k v, (c.fields y).lookup k = some v → ¬ broken k v)
    (hparts : ∀ k t w, (c.part k).Stands t → w.Distinct → (broken k (settle t w) ↔ broken k w)) {t : Option Json}
    (ht : f.Stands t) {changes : List (String × Json)} (hchanges : (Json.record changes).Distinct) :
    (∃ k v, (settle t (.record changes)).get? k = some v ∧ broken k v) ↔
      ∃ k v, changes.lookup k = some v ∧ broken k v := by
  rcases ht with rfl | ⟨y, hy, rfl⟩
  · rfl
  have hget : ∀ k, (settle (f.write y) (.record changes)).get? k = settled ((c.fields y).lookup k) (changes.lookup k) := by
    intro k
    rw [c.write_eq, settle_record]
    exact lookup_overlayFields hchanges.names k _
  refine exists_congr fun k => ?_
  rw [hget]
  cases hw : changes.lookup k with
  | none =>
    refine iff_of_false ?_ (by simp)
    rintro ⟨v, hv, hbroken⟩
    exact hsound y hy k v hv hbroken
  | some w =>
    have hk := hparts k _ w (c.stands_lookup hy k) (hchanges.values hw)
    simp only [settled_some, Option.some.injEq, exists_eq_left']
    exact hk

/-- A value written as a record refuses what it cannot be read off, if a record is broken by what is broken in it. What
was written can be read back, so whatever a change leaves broken it has brought. -/
theorem refuses {broken : Json → Prop} (inner : String → Json → Prop)
    (hrecord : ∀ fs, broken (.record fs) ↔ ∃ k v, fs.lookup k = some v ∧ inner k v)
    (hread : ∀ u, f.Arises u → ((∃ x, f.fits (some u) x) ↔ ¬ broken u)) {g : α → α} (hback : f.ReadsBack g)
    (hparts : ∀ k t w, (c.part k).Stands t → w.Distinct → (inner k (settle t w) ↔ inner k w)) : f.Refuses broken := by
  have hsound : ∀ y, f.Sound y → ∀ k v, (c.fields y).lookup k = some v → ¬ inner k v := by
    intro y hy k v hv hbroken
    have hfits := hback y hy
    rw [c.write_eq] at hfits
    exact (hread _ (arises_of_stands (.inr ⟨y, hy, (c.write_eq y).symm⟩))).mp ⟨g y, hfits⟩
      ((hrecord _).mpr ⟨k, v, hv, hbroken⟩)
  refine ⟨hread, fun t w ht hw => ?_⟩
  cases w with
  | record changes =>
    have hiff := c.broken_settle_iff hsound hparts ht hw
    obtain ⟨fs, hfs⟩ := exists_settle_record t changes
    rw [hfs] at hiff ⊢
    rw [hrecord, hrecord]
    exact hiff
  | _ => rw [settle_of_not_record rfl]

end Composite

/-! ## Containers -/

section
variable {r : Reader α} {write : α → Json} {broken : Json → Prop}

/-- A container can be read exactly if it is `null` or a record of entries that can be read. -/
theorem container_fits_iff {f : Facet β} (c : f.Composite) {get : β → String → Option α}
    (hpart : ∀ k, c.part k = (entry r write).along (get · k)) {blank : β} {build : List (String × α) → β}
    (hfits : ∀ u x, f.fits (some u) x ↔ Reader.orBlank blank (fun d => build <$> Reader.entries r d) (.value u) = .ok x)
    (h : (whole r write).Refuses broken) {u : Json} (hu : f.Arises u) :
    (∃ x, f.fits (some u) x) ↔ ¬ BrokenContainer broken u := by
  simp only [hfits]
  cases u with
  | null => exact iff_of_true ⟨blank, rfl⟩ fun hbroken => hbroken.1 rfl
  | record fs =>
    obtain ⟨hfs, harises⟩ := c.arises_record hu
    have hread : (∃ x, build <$> Reader.entries r (.value (.record fs)) = .ok x) ↔
        ∀ k v, fs.lookup k = some v → ∃ a, r (.value v) = .ok a := by
      simp only [map_eq_ok, Reader.entries_record, ← Reader.exists_eachField_iff hfs]
      exact ⟨fun ⟨_, es, hes, _⟩ => ⟨es, hes⟩, fun ⟨es, hes⟩ => ⟨_, es, hes, rfl⟩⟩
    refine hread.trans ?_
    simp only [brokenContainer_record, not_exists, not_and]
    refine forall₃_congr fun k v hv => ?_
    have hentry := harises k v hv
    rw [hpart] at hentry
    exact h.fits_iff v (arises_of_entry (arises_of_along hentry))
  | _ => exact iff_of_false (fun ⟨_, hx⟩ => by cases hx) (not_not_intro ⟨by simp, .inl rfl⟩)

/-- A container refuses what is none, and entries that are refused. -/
theorem container_refuses {f : Facet β} (c : f.Composite) {get : β → String → Option α}
    (hpart : ∀ k, c.part k = (entry r write).along (get · k)) {blank : β} {build : List (String × α) → β}
    (hfits : ∀ u x, f.fits (some u) x ↔ Reader.orBlank blank (fun d => build <$> Reader.entries r d) (.value u) = .ok x)
    {g : β → β} (hback : f.ReadsBack g) (h : (whole r write).Refuses broken) : f.Refuses (BrokenContainer broken) := by
  refine c.refuses (fun _ => broken) (fun _ => brokenContainer_record)
    (fun u hu => container_fits_iff c hpart hfits h hu) hback fun k t w ht hw => ?_
  rw [hpart] at ht
  exact h.settle_iff t w (whole_stands_of_entry (stands_of_along ht)) hw

theorem sorted_refuses {g : α → α} (hback : (whole r write).ReadsBack g) (h : (whole r write).Refuses broken) :
    (sorted r write).Refuses (BrokenContainer broken) :=
  container_refuses (sortedComposite r write) (fun _ => rfl) (fun _ _ => Iff.rfl) (sorted_readsBack hback) h

theorem listed_refuses {g : α → α} (hback : (whole r write).ReadsBack g) (h : (whole r write).Refuses broken) :
    (listed r write).Refuses (BrokenContainer broken) :=
  container_refuses (listedComposite r write) (fun _ => rfl) (fun _ _ => Iff.rfl) (listed_readsBack hback) h

end

/-- Texts by name can be read off any record; what cannot be taken for a text is left out. -/
theorem labels_refuses : labels.Refuses (BrokenContainer fun _ => False) := by
  refine labelsComposite.refuses (fun _ _ => False) (fun _ => brokenContainer_record) (fun u _ => ?_)
    labels_readsBack fun _ _ _ _ _ => Iff.rfl
  cases u with
  | null => exact iff_of_true ⟨_, rfl⟩ fun hbroken => hbroken.1 rfl
  | record fs =>
    have hread : ∃ x, Reader.labels (.value (.record fs)) = .ok x := by
      change ∃ x, (Reader.entries Reader.json (.value (.record fs)) >>= _) = .ok x
      rw [Reader.entries_record, Reader.eachField_json]
      exact ⟨_, rfl⟩
    exact iff_of_true hread (by simp [brokenContainer_record])
  | _ => exact iff_of_false (fun ⟨_, hx⟩ => by cases hx) (not_not_intro ⟨by simp, .inl rfl⟩)

end Facet

/-! ## Records -/

namespace Layout.Described

variable {α : Type} {l : Layout α} {slots : List (Slot α)} {rest : α → List (String × Json)} (d : l.Described slots rest)
  {toJson : α → Json} (hwrite : ∀ x, toJson x = .record (Slot.written slots x ++ rest x))

include d

/-- A record can be read exactly if no required field is missing and every slot can be read. -/
theorem exists_read_record_iff {fs : List (String × Json)} (hfs : (keysOf fs).Nodup) :
    (∃ x, l.read (.value (.record fs)) = .ok x) ↔
      (∀ n ∈ l.required, n ∈ keysOf fs) ∧
        ∀ s ∈ slots, ∀ v, fs.lookup s.name = some v → ∃ p, s.reader (.value v) = .ok p := by
  have hrequired : ∀ n ∈ l.required, n ∈ l.fields := by
    intro n hn
    obtain ⟨s, hs, hname, -⟩ := d.blank_of_required n hn
    exact d.declared.mpr ⟨s, hs, hname⟩
  constructor
  · rintro ⟨x, hx⟩
    refine ⟨((l.read_record_eq_ok hrequired hfs).mp hx).2, fun s hs v hv => ⟨s.get x, ?_⟩⟩
    have hfits := ((d.read_record_iff hfs).mp hx).1 s hs
    rw [hv] at hfits
    exact hfits
  · rintro ⟨hall, hslots⟩
    obtain ⟨x, hx⟩ := d.exists_takeAll (fun s hs v hv => hslots s hs v (lookup_of_mem hfs hv)) l.blank
    exact ⟨x, (l.read_record_eq_ok hrequired hfs).mpr ⟨hx, hall⟩⟩

section
variable {broken : String → Json → Prop} (hslots : ∀ s ∈ slots, s.part.Refuses (broken s.name))
  (hdeclared : ∀ k v, broken k v → k ∈ l.fields)

include hslots hdeclared

/-- What a change leaves under a name is broken exactly if the change is. -/
theorem broken_part_iff (k : String) (t : Option Json) (w : Json) (ht : (partAt slots rest k).Stands t)
    (hw : w.Distinct) : broken k (settle t w) ↔ broken k w := by
  rcases partAt_cases slots rest k with ⟨s, hs, rfl, hpart⟩ | ⟨hnone, hpart⟩
  · rw [hpart] at ht
    exact (hslots s hs).settle_iff t w (Facet.stands_of_along ht) hw
  · have hsound : ∀ v, ¬ broken k v := by
      intro v hbroken
      obtain ⟨s, hs, hname⟩ := d.declared.mp (hdeclared k v hbroken)
      exact hnone s hs hname
    exact iff_of_false (hsound _) (hsound _)

include hwrite

/-- A record that changes leave can be read exactly if no required field is missing and no field is broken. -/
theorem exists_read_iff {fs : List (String × Json)} (h : (Facet.whole l.read toJson).Arises (.record fs)) :
    (∃ x, l.read (.value (.record fs)) = .ok x) ↔
      (∀ n ∈ l.required, n ∈ keysOf fs) ∧ ¬ ∃ k v, fs.lookup k = some v ∧ broken k v := by
  obtain ⟨hfs, harises⟩ := (d.composite hwrite).arises_record h
  rw [d.exists_read_record_iff hfs]
  refine and_congr_right fun _ => ?_
  have hslot : ∀ s ∈ slots, ∀ v, fs.lookup s.name = some v →
      ((∃ p, s.reader (.value v) = .ok p) ↔ ¬ broken s.name v) := by
    intro s hs v hv
    have hpart := harises s.name v hv
    change (partAt slots rest s.name).Arises v at hpart
    rw [d.partAt_slot hs] at hpart
    exact (hslots s hs).fits_iff v (Facet.arises_of_along hpart)
  constructor
  · rintro hall ⟨k, v, hv, hbroken⟩
    obtain ⟨s, hs, rfl⟩ := d.declared.mp (hdeclared k v hbroken)
    exact (hslot s hs v hv).mp (hall s hs v hv) hbroken
  · intro hnone s hs v hv
    exact (hslot s hs v hv).mpr fun hbroken => hnone ⟨s.name, v, hv, hbroken⟩

/-- A record of which all fields may be missing and the others are kept refuses what is no record and what has a field
that is refused. -/
theorem refuses (hrequired : l.required = []) (hkeep : l.keep.isSome = true) {g : α → α}
    (hback : (Facet.whole l.read toJson).ReadsBack g) :
    (Facet.whole l.read toJson).Refuses (BrokenRecord broken) := by
  refine (d.composite hwrite).refuses broken (fun _ => brokenRecord_record) (fun u hu => ?_) hback
    (d.broken_part_iff hslots hdeclared)
  change (∃ x, l.read (.value u) = .ok x) ↔ _
  cases u with
  | record fs =>
    rw [d.exists_read_iff hwrite hslots hdeclared hu, hrequired, brokenRecord_record]
    simp
  | list items =>
    have hread : l.read (.value (.list items)) = .error ((Draft.value (.list items)).unlike (.named l.title)) :=
      if_pos hkeep
    rw [hread]
    exact iff_of_false (fun ⟨_, hx⟩ => by cases hx) (not_not_intro (.inl rfl))
  | _ => exact iff_of_false (fun ⟨_, hx⟩ => by cases hx) (not_not_intro (.inl rfl))

/-- What a change leaves of a record that can be read has a broken field exactly if the change has. -/
theorem broken_settle_iff {g : α → α} (hback : (Facet.whole l.read toJson).ReadsBack g) {t : Option Json}
    (ht : (Facet.whole l.read toJson).Stands t) {changes : List (String × Json)}
    (hchanges : (Json.record changes).Distinct) :
    (∃ k v, (settle t (.record changes)).get? k = some v ∧ broken k v) ↔
      ∃ k v, changes.lookup k = some v ∧ broken k v := by
  refine (d.composite hwrite).broken_settle_iff (fun y hy k v hv hbroken => ?_) (d.broken_part_iff hslots hdeclared) ht
    hchanges
  have hfits := hback y hy
  change l.read (.value (toJson y)) = .ok (g y) at hfits
  rw [hwrite] at hfits
  have harises : (Facet.whole l.read toJson).Arises (.record (Slot.written slots y ++ rest y)) :=
    Facet.arises_of_stands (.inr ⟨y, hy, congrArg some (hwrite y).symm⟩)
  exact ((d.exists_read_iff hwrite hslots hdeclared harises).mp ⟨_, hfits⟩).2 ⟨k, v, hv, hbroken⟩

end

end Layout.Described

end RetreatDesk
