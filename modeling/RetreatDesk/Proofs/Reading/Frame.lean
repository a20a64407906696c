import RetreatDesk.Proofs.Json.Path
import RetreatDesk.Proofs.Reading.Written

/-!
# What a change leaves of what is read

A change is laid over the record that was written for a value, and the result is read. Whatever the change does not
name was written and is read back, so it is what comes back of the value: all but the numbers without a numeral.

* `KeptBeside`, `Kept`: entries that a change does not name stay; those it holds a record for change within it.
* `Facet.Spares`: what a record of changes leaves of what comes back of a value when nothing is changed.
* `Composite.keptBeside`, `Composite.kept`: collections of entries.
* `Described.spared`, `Described.within`: records. A slot that is not named stays, and so do the fields kept besides.
-/

namespace RetreatDesk

open Json

/-! ## Entries -/

/-- Under a name that is not among the changes stands what stood there. -/
def KeptBeside {β : Type} (changes : List (String × Json)) (before after : String → Option β) : Prop :=
  ∀ k, k ∉ keysOf changes → after k = before k

/-- Beside the changes all stays, and where they hold a record for an entry, `inside` tells what that leaves of it. -/
structure Kept {β : Type} (inside : List (String × Json) → β → β → Prop) (changes : List (String × Json))
    (before after : String → Option β) : Prop where
  beside : KeptBeside changes before after
  within : ∀ k inner, changes.lookup k = some (.record inner) →
    ∀ x, before k = some x → ∃ y, after k = some y ∧ inside inner x y

theorem not_mem_keysOf_iff {β : Type} {k : String} {l : List (String × β)} : k ∉ keysOf l ↔ l.lookup k = none := by
  refine ⟨lookup_eq_none_of_not_mem, fun hnone hmem => ?_⟩
  obtain ⟨v, hv⟩ := exists_lookup_of_mem hmem
  rw [hnone] at hv
  cases hv

namespace Facet

variable {α β : Type}

/-! ## Values that come back -/

/-- No entry can be read in two ways. -/
def Unique (f : Facet α) : Prop := ∀ t x y, f.fits t x → f.fits t y → x = y

theorem ofReader_isUnique (r : Reader α) (blank : Option α) (write : α → Option Json) :
    (ofReader r blank write).Unique := fun _ _ _ => ofReader_unique

theorem entry_isUnique (r : Reader α) (write : α → Json) : (entry r write).Unique := fun _ _ _ => entry_unique

theorem textEntry_isUnique : textEntry.Unique := fun _ _ _ hx hy => hx.symm.trans hy

/-- What is read off the entry written for a value is what comes back of it. -/
theorem Unique.eq_of_readsBack {f : Facet α} (hunique : f.Unique) {g : α → α} (hback : f.ReadsBack g) {x y : α}
    (hx : f.Sound x) (hy : f.fits (f.write x) y) : y = g x :=
  hunique _ _ _ hy (hback x hx)

/-- What a record of changes, laid over the entry written for a value, leaves of `g` of the value, which is what comes
back when nothing is changed. -/
def Spares (f : Facet α) (g : α → α) (left : List (String × Json) → α → α → Prop) : Prop :=
  ∀ x changes y, f.Sound x → (Json.record changes).Distinct →
    f.fits (settled (f.write x) (some (.record changes))) y → left changes (g x) y

theorem Spares.along {f : Facet β} {g : β → β} {left : List (String × Json) → β → β → Prop} (h : f.Spares g left)
    {get : α → β} {norm : α → α} (hget : ∀ x, get (norm x) = g (get x)) :
    (f.along get).Spares norm fun changes x y => left changes (get x) (get y) := by
  intro x changes y hx hchanges hfits
  rw [hget]
  exact h (get x) changes (get y) hx hchanges hfits

theorem whole_json_spares : (whole Reader.json fun v => v).Spares id Json.Spared := by
  intro v changes w _ hchanges hfits
  obtain rfl : settle (some v) (.record changes) = w := Except.ok.inj hfits
  exact spared_settle hchanges v

theorem entry_spares {r : Reader α} {write : α → Json} {g : α → α} {inside : List (String × Json) → α → α → Prop}
    (h : (whole r write).Spares g inside) : (entry r write).Spares (Option.map g)
      fun changes o o' => ∀ x, o = some x → ∃ y, o' = some y ∧ inside changes x y := by
  intro o changes o' ho hchanges hfits x hx
  obtain ⟨a, rfl, rfl⟩ := Option.map_eq_some_iff.mp hx
  obtain ⟨t, ht⟩ := ho
  match o' with
  | none => cases hfits
  | some y => exact ⟨y, rfl, h a changes y ⟨t, ht⟩ hchanges hfits⟩

/-! ## Collections -/

namespace Composite

variable {f : Facet α} (c : f.Composite)

/-- A record of changes laid over a record works under each name by itself. -/
theorem fits_under {x y : α} (hx : f.Sound x) {changes : List (String × Json)} (hchanges : (keysOf changes).Nodup)
    (hfits : f.fits (settled (f.write x) (some (.record changes))) y) (k : String) :
    (c.part k).fits (settled ((c.part k).write x) (changes.lookup k)) y := by
  rw [c.write_eq, settled_some, settle_record, c.fits_record (nodup_overlayFields (c.nodup hx) changes)] at hfits
  have hk := hfits.1 k
  rwa [lookup_overlayFields hchanges, c.lookup hx] at hk

section
variable {e : Facet (Option β)} {g : Option β → Option β} {get : α → String → Option β} {norm : α → α}
  (hpart : ∀ k, c.part k = e.along (get · k)) (hget : ∀ x k, get (norm x) k = g (get x k))

include hpart hget

/-- What a collection holds under a name that is not among the changes stays. -/
theorem keptBeside (hback : e.ReadsBack g) (hunique : e.Unique) :
    f.Spares norm fun changes x y => KeptBeside changes (get x) (get y) := by
  intro x changes y hx hchanges hfits k hk
  have hunder := c.fits_under hx hchanges.names hfits k
  have hsound := c.sound hx k
  rw [not_mem_keysOf_iff.mp hk, hpart k] at hunder
  rw [hpart k] at hsound
  rw [hget]
  exact hunique.eq_of_readsBack hback hsound hunder

end

/-- What stands in a collection under a name for which the changes hold a record changes within it. -/
theorem kept {r : Reader β} {write : β → Json} {g : β → β} {inside : List (String × Json) → β → β → Prop}
    {get : α → String → Option β} {norm : α → α} (hpart : ∀ k, c.part k = (entry r write).along (get · k))
    (hget : ∀ x k, get (norm x) k = (get x k).map g) (hback : (whole r write).ReadsBack g)
    (hinside : (whole r write).Spares g inside) :
    f.Spares norm fun changes x y => Kept inside changes (get x) (get y) := by
  intro x changes y hx hchanges hfits
  refine ⟨c.keptBeside hpart hget (entry_readsBack hback) (entry_isUnique r write) x changes y hx hchanges hfits,
    fun k inner hinner => ?_⟩
  have hunder := c.fits_under hx hchanges.names hfits k
  have hsound := c.sound hx k
  rw [hinner, hpart k] at hunder
  rw [hpart k] at hsound
  rw [hget]
  exact entry_spares hinside (get x k) inner (get y k) hsound (hchanges.values hinner) hunder

end Composite

section
variable {r : Reader α} {write : α → Json} {g : α → α} {inside : List (String × Json) → α → α → Prop}
  (hback : (whole r write).ReadsBack g) (hinside : (whole r write).Spares g inside)

include hback hinside

theorem sorted_spares : (sorted r write).Spares (Sorted.map g)
    fun changes m m' => Kept inside changes m.get? m'.get? :=
  (sortedComposite r write).kept (fun _ => rfl) (fun m k => m.get?_map g k) hback hinside

theorem listed_spares : (listed r write).Spares (Listed.map g)
    fun changes m m' => Kept inside changes m.get? m'.get? :=
  (listedComposite r write).kept (fun _ => rfl) (fun m k => m.get?_map g k) hback hinside

end

theorem picks_spare : (listed Reader.flag .bool).Spares id fun changes m m' => KeptBeside changes m.get? m'.get? :=
  (listedComposite Reader.flag .bool).keptBeside (fun _ => rfl) (fun _ _ => (congrFun Option.map_id _).symm)
    (entry_readsBack whole_flag_readsBack) (entry_isUnique _ _)

theorem labels_spare : labels.Spares id fun changes m m' => KeptBeside changes m.get? m'.get? :=
  labelsComposite.keptBeside (fun _ => rfl) (fun _ _ => rfl) textEntry_readsBack textEntry_isUnique

end Facet

/-! ## Records -/

namespace Layout

variable {α : Type}

/-- What a record of changes leaves of a record: the slots it does not name, and the fields kept besides. -/
structure Spared (slots : List (Slot α)) (rest : α → List (String × Json)) (changes : List (String × Json))
    (x y : α) : Prop where
  unnamed : ∀ s ∈ slots, s.name ∉ keysOf changes → s.get y = s.get x
  besides : Kept Json.Spared changes (fun k => (rest x).lookup k) fun k => (rest y).lookup k

namespace Described

variable {l : Layout α} {slots : List (Slot α)} {rest : α → List (String × Json)} (d : l.Described slots rest)
  {toJson : α → Json} (hwrite : ∀ x, toJson x = .record (Slot.written slots x ++ rest x))
  {changes : List (String × Json)} {x y : α} (hx : (Facet.whole l.read toJson).Sound x)
  (hchanges : (Json.record changes).Distinct)
  (hfits : (Facet.whole l.read toJson).fits (settled (some (toJson x)) (some (.record changes))) y)

include d hwrite hx hchanges hfits

/-- A record of changes laid over what was written works on each slot by itself. -/
theorem fits_slot {s : Slot α} (hs : s ∈ slots) :
    s.facet.fits (settled (s.facet.write x) (changes.lookup s.name)) y := by
  have hunder := (d.composite hwrite).fits_under hx hchanges.names hfits s.name
  change (partAt slots rest s.name).fits (settled ((partAt slots rest s.name).write x) (changes.lookup s.name)) y
    at hunder
  rwa [d.partAt_slot hs] at hunder

omit hchanges in
/-- A record of changes laid over what was written works on the fields kept besides. -/
theorem rest_eq : rest y = overlayFields (rest x) (l.kept changes) := by
  have hrecord : (keysOf (Slot.written slots x ++ rest x)).Nodup := (d.composite hwrite).nodup hx
  change l.read (.value (settle (some (toJson x)) (.record changes))) = .ok y at hfits
  rw [hwrite, settle_record, d.read_record_iff (nodup_overlayFields hrecord changes)] at hfits
  rw [hfits.2]
  change (overlayFields _ changes).filter (fun e => l.keeps e.1) = _
  rw [filter_overlayFields]
  change overlayFields (l.kept _) (l.kept changes) = _
  rw [d.kept_fields (d.sound_of_whole hx).2]

theorem kept_besides : Kept Json.Spared changes (fun k => (rest x).lookup k) fun k => (rest y).lookup k := by
  have hunder : ∀ k, (rest y).lookup k = settled ((rest x).lookup k) ((l.kept changes).lookup k) := by
    intro k
    have hkept : (keysOf (l.kept changes)).Nodup := (hchanges.filter _).names
    rw [d.rest_eq hwrite hx hfits, lookup_overlayFields hkept]
  constructor
  · intro k hk
    have hfiltered : k ∉ keysOf (l.kept changes) := fun hmem => hk ((List.filter_sublist.map _).subset hmem)
    change (rest y).lookup k = (rest x).lookup k
    rw [hunder, lookup_eq_none_of_not_mem hfiltered, settled_none]
  · intro k inner hinner v hv
    have hkeeps : l.keeps k = true := (d.sound_of_whole hx).2 k (mem_keysOf_of_lookup hv)
    refine ⟨settle (some v) (.record inner), ?_, spared_settle (hchanges.values hinner) v⟩
    rw [hunder, hv, kept, lookup_filter hkeeps, hinner, settled_some]

theorem spared {g : α → α} (hslots : ∀ s ∈ slots, s.facet.ReadsBack g) (hrest : ∀ x, rest (g x) = rest x) :
    Spared slots rest changes (g x) y := by
  have hbesides := d.kept_besides hwrite hx hchanges hfits
  rw [← hrest] at hbesides
  refine ⟨fun s hs hname => ?_, hbesides⟩
  have hback := hslots s hs x ((d.sound_of_whole hx).1 s hs)
  have hslot := d.fits_slot hwrite hx hchanges hfits hs
  rw [not_mem_keysOf_iff.mp hname, settled_none] at hslot
  exact Facet.ofReader_isUnique s.reader s.blank s.write _ _ _ hslot hback

/-- A record of changes under the name of a slot leaves of the slot what its facet tells. -/
theorem within (g : α → α) : ∀ s ∈ slots, ∀ left, s.facet.Spares g left →
    ∀ inner, changes.lookup s.name = some (.record inner) → left inner (g x) y := by
  intro s hs left hleft inner hinner
  have hslot := d.fits_slot hwrite hx hchanges hfits hs
  rw [hinner] at hslot
  exact hleft x inner y ((d.sound_of_whole hx).1 s hs) (hchanges.values hinner) hslot

end Described

end Layout

end RetreatDesk
