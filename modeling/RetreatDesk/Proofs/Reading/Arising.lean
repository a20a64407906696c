import RetreatDesk.Proofs.Reading.Written

/-!
# Values that changes leave

Wherever a facet reads, there stands a value that was written, changed or brought by a change. Names in it are distinct
and so it goes on, down to the last record that is read.

* `Facet.Arises`: the values that changes can leave where a facet reads.
* `Facet.ReadAs`: a value that changes can leave, and what is read off it.
* `Composite.readAs_get?`, `Described.readAs_slots`: what stands under a name in it, and the part read off that.
* `sorted_readAs`, `listed_readAs`: the entries of collections.
-/

namespace RetreatDesk

open Json

namespace Facet

variable {α β : Type}

/-- A value that a change, or none, can leave where the facet reads. -/
def Arises (f : Facet α) (u : Json) : Prop :=
  ∃ t v, f.Stands t ∧ (∀ w ∈ v, w.Distinct) ∧ settled t v = some u

theorem arises_of_stands {f : Facet α} {u : Json} (h : f.Stands (some u)) : f.Arises u :=
  ⟨some u, none, h, by simp, rfl⟩

theorem arises_of_along {f : Facet β} {get : α → β} {u : Json} (h : (f.along get).Arises u) : f.Arises u := by
  obtain ⟨t, v, ht, hv, hsettled⟩ := h
  exact ⟨t, v, stands_of_along ht, hv, hsettled⟩

theorem arises_of_entry {r : Reader α} {write : α → Json} {u : Json} (h : (entry r write).Arises u) :
    (whole r write).Arises u := by
  obtain ⟨t, v, ht, hv, hsettled⟩ := h
  exact ⟨t, v, whole_stands_of_entry ht, hv, hsettled⟩

/-- What is read off a value that changes can leave. -/
structure ReadAs (f : Facet α) (u : Json) (x : α) : Prop where
  arises : f.Arises u
  fits : f.fits (some u) x

theorem ReadAs.of_along {f : Facet β} {get : α → β} {u : Json} {x : α} (h : (f.along get).ReadAs u x) :
    f.ReadAs u (get x) :=
  ⟨arises_of_along h.arises, h.fits⟩

theorem ReadAs.of_entry {r : Reader α} {write : α → Json} {u : Json} {x : Option α} (h : (entry r write).ReadAs u x) :
    ∃ a, x = some a ∧ (whole r write).ReadAs u a := by
  obtain ⟨harises, hfits⟩ := h
  cases x with
  | none => cases hfits
  | some a => exact ⟨a, rfl, arises_of_entry harises, hfits⟩

/-! ## Values written as records -/

namespace Composite

variable {f : Facet α} (c : f.Composite)

/-- A record that changes leave has distinct names, and under each name stands what changes can leave there. -/
theorem arises_record {fs : List (String × Json)} (h : f.Arises (.record fs)) :
    (keysOf fs).Nodup ∧ ∀ k v, fs.lookup k = some v → (c.part k).Arises v := by
  obtain ⟨t, v, ht, hv, hsettled⟩ := h
  -- The record is one of changes laid over entries that can stand there.
  obtain ⟨base, changes, hbase, hstands, hchanges, rfl⟩ : ∃ base changes, (keysOf base).Nodup ∧
      (∀ k, (c.part k).Stands (base.lookup k)) ∧ (Json.record changes).Distinct ∧ fs = overlayFields base changes := by
    have hnothing : (Json.record []).Distinct := .record List.nodup_nil (by simp)
    rcases v with - | w
    · rcases ht with rfl | ⟨y, hy, rfl⟩
      · cases hsettled
      · rw [settled_none, c.write_eq] at hsettled
        cases hsettled
        exact ⟨c.fields y, [], c.nodup hy, c.stands_lookup hy, hnothing, (overlayFields_nil _).symm⟩
    have hw := hv w rfl
    cases w with
    | record changes =>
      rcases ht with rfl | ⟨y, hy, rfl⟩
      · cases hsettled
        exact ⟨[], fs, List.nodup_nil, fun k => .inl rfl, hw, (nil_overlayFields hw.names).symm⟩
      · rw [settled_some, c.write_eq, settle_record] at hsettled
        cases hsettled
        exact ⟨c.fields y, changes, c.nodup hy, c.stands_lookup hy, hw, rfl⟩
    | _ => cases hsettled
  refine ⟨nodup_overlayFields hbase changes, fun k v hv => ?_⟩
  rw [lookup_overlayFields hchanges.names] at hv
  exact ⟨base.lookup k, changes.lookup k, hstands k, fun w hw => hchanges.values hw, hv⟩

theorem readAs_get? {u : Json} {x : α} (h : f.ReadAs u x) {k : String} {v : Json} (hv : u.get? k = some v) :
    (c.part k).ReadAs v x := by
  obtain ⟨harises, hfits⟩ := h
  cases u with
  | record fs =>
    obtain ⟨hfs, hparts⟩ := c.arises_record harises
    have hk := ((c.fits_record hfs).mp hfits).1 k
    change fs.lookup k = some v at hv
    rw [hv] at hk
    exact ⟨hparts k v hv, hk⟩
  | _ => cases hv

end Composite

/-! ## Collections -/

section
variable {r : Reader α} {write : α → Json} {u : Json} {k : String} {v : Json}

theorem sorted_readAs {m : Sorted α} (h : (sorted r write).ReadAs u m) (hv : u.get? k = some v) :
    ∃ a, m.get? k = some a ∧ (whole r write).ReadAs v a :=
  ((sortedComposite r write).readAs_get? h hv).of_along.of_entry

/-- Entries in order have the names of the record that they are read off, in its order. -/
theorem keysOf_of_listed {fs : List (String × Json)} {m : Listed α} (h : (listed r write).ReadAs (.record fs) m) :
    keysOf m.entries = keysOf fs := by
  have hfs := ((listedComposite r write).arises_record h.arises).1
  exact ((listed_fits_record hfs).mp h.fits).2

end

/-- Picks are read entry by entry. -/
theorem entries_of_picks {fs : List (String × Json)} {m : Listed Bool}
    (h : (listed Reader.flag .bool).ReadAs (.record fs) m) : m.entries = fs.map fun e => (e.1, e.2.isSet) :=
  entries_of_flags ((listedComposite Reader.flag .bool).arises_record h.arises).1 h.fits

end Facet

/-! ## Records -/

/-- Every slot is read off what stands under its name. -/
theorem Layout.Described.readAs_slots {α : Type} {l : Layout α} {slots : List (Slot α)}
    {rest : α → List (String × Json)} (d : l.Described slots rest) {toJson : α → Json}
    (hwrite : ∀ x, toJson x = .record (Slot.written slots x ++ rest x)) {u : Json} {x : α}
    (h : (Facet.whole l.read toJson).ReadAs u x) :
    ∀ s ∈ slots, ∀ v, u.get? s.name = some v → s.part.ReadAs v (s.get x) := by
  intro s hs v hv
  have hpart := (d.composite hwrite).readAs_get? h hv
  change (partAt slots rest s.name).ReadAs v x at hpart
  rw [d.partAt_slot hs] at hpart
  exact hpart.of_along

end RetreatDesk
