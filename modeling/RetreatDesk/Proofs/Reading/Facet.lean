import RetreatDesk.Reading.Reader
import RetreatDesk.Proofs.Json.Overlay

/-!
# Facets of a value

A record is read name by name and written name by name. A `Facet` is what one name contributes: which entries fit
the value, and what is written there for it.

* `Facet.Steady`: what was read off a changed entry is read again when the same change is laid over what was written.
* `steady_of_scalar`: facets that never write a record are steady once they read what they have written.
* `Composite.steady`: a value written as a record is steady when the facet under each name is.
-/

namespace RetreatDesk

open Json

/-- What one name contributes to a value: the entries that fit the value, and the entry written for it. -/
structure Facet (α : Type) where
  fits : Option Json → α → Prop
  write : α → Option Json

namespace Facet

variable {α β : Type}

/-- The value can be read off some entry. -/
def Sound (f : Facet α) (x : α) : Prop := ∃ t, f.fits t x

/-- The entries that can stand before a change: none, or one written for a value that was read. -/
def Stands (f : Facet α) (t : Option Json) : Prop := t = none ∨ ∃ y, f.Sound y ∧ t = f.write y

/-- What was read off a changed entry is read again when the same change is laid over what was written. -/
def Steady (f : Facet α) : Prop :=
  ∀ t v x, f.Stands t → (∀ w ∈ v, w.Distinct) → f.fits (settled t v) x → f.fits (settled (f.write x) v) x

/-! ## Facets of a part -/

/-- The facet of a part as one of the whole. -/
def along (f : Facet β) (get : α → β) : Facet α where
  fits t x := f.fits t (get x)
  write x := f.write (get x)

theorem stands_of_along {f : Facet β} {get : α → β} {t : Option Json} (h : (f.along get).Stands t) : f.Stands t := by
  rcases h with hnone | ⟨y, ⟨t', hfits⟩, hwrite⟩
  · exact .inl hnone
  · exact .inr ⟨get y, ⟨t', hfits⟩, hwrite⟩

theorem Steady.along {f : Facet β} (h : f.Steady) (get : α → β) : (f.along get).Steady := by
  intro t v x ht hv hfits
  exact h t v (get x) (stands_of_along ht) hv hfits

/-! ## Values that are no records -/

/-- Where no record is ever written, a change either replaces what was written or is not there. -/
theorem steady_of_scalar {f : Facet α} (hscalar : ∀ x w, f.write x = some w → w.isRecord = false)
    (hself : ∀ t x, f.Stands t → f.fits t x → f.fits (f.write x) x) : f.Steady := by
  intro t v x ht _ hfits
  rcases v with - | w
  · exact hself t x ht hfits
  have hreplaced : ∀ before, (∀ w, before = some w → w.isRecord = false) → settled before (some w) = some w := by
    intro before hbefore
    rw [settled_some, settle_on_scalar hbefore]
  have ht' : ∀ u, t = some u → u.isRecord = false := by
    rintro u rfl
    rcases ht with hnone | ⟨y, -, hwrite⟩
    · cases hnone
    · exact hscalar y u hwrite.symm
  rw [hreplaced t ht'] at hfits
  rwa [hreplaced (f.write x) (hscalar x)]

/-! ## Readers -/

/-- What a reader takes from the entry under a name, or the blank where there is none. -/
def ofReader (r : Reader α) (blank : Option α) (write : α → Option Json) : Facet α where
  fits t x :=
    match t with
    | none => blank = some x
    | some v => r (.value v) = .ok x
  write := write

theorem ofReader_unique {r : Reader α} {blank : Option α} {write : α → Option Json} {t : Option Json} {x y : α}
    (hx : (ofReader r blank write).fits t x) (hy : (ofReader r blank write).fits t y) : x = y := by
  cases t with
  | none => exact Option.some.inj (hx.symm.trans hy)
  | some v => exact Except.ok.inj (hx.symm.trans hy)

/-- A truth value, `false` when missing. -/
def flag : Facet Bool := ofReader Reader.flag (some false) fun b => some (.bool b)

/-- A text, with the blank when missing. -/
def label (blank : Option String) : Facet String := ofReader Reader.label blank fun s => some (.text s)

/-- A text that is written only if there is one. -/
def note : Facet (Option String) := ofReader Reader.note (some none) (Option.map .text)

/-- A number, nought when missing. -/
def amount : Facet Float := ofReader Reader.amount (some 0.0) fun x => some (.ofFloat x)

theorem flag_steady : flag.Steady :=
  steady_of_scalar (fun _ _ h => by cases h; rfl) fun _ _ _ _ => rfl

theorem label_steady (blank : Option String) : (label blank).Steady :=
  steady_of_scalar (fun _ _ h => by cases h; rfl) fun _ _ _ _ => rfl

theorem solid_of_note {v : Json} {s : String} (h : Reader.note (.value v) = .ok (some s)) :
    Text.allBlank s = false := by
  have hkept : (v.text?).filter (fun s => !Text.allBlank s) = some s := Except.ok.inj h
  simpa using (Option.filter_eq_some_iff.mp hkept).2

theorem note_of_solid {s : String} (h : Text.allBlank s = false) : Reader.note (.value (.text s)) = .ok (some s) := by
  change Except.ok ((some s).filter fun s => !Text.allBlank s) = Except.ok (some s)
  rw [Option.filter_some, h]
  rfl

/-- A note that was read is not blank, so it is read again as it is. -/
theorem note_fits_self {t : Option Json} {x : Option String} (hfits : note.fits t x) : note.fits (note.write x) x := by
  cases x with
  | none => rfl
  | some s =>
    cases t with
    | none => cases hfits
    | some v => exact note_of_solid (solid_of_note hfits)

theorem note_steady : note.Steady := by
  refine steady_of_scalar (fun x w h => ?_) fun _ _ _ => note_fits_self
  obtain ⟨s, -, rfl⟩ := Option.map_eq_some_iff.mp h
  rfl

/-- Only what has a numeral is written as a number; the rest is `null`, which is read as nought. -/
theorem amount_steady : amount.Steady := by
  refine steady_of_scalar (fun x w h => ?_) fun t x ht hfits => ?_
  · cases h
    unfold Json.ofFloat
    split <;> rfl
  have hself : ∀ x, Decimal.isFinite x = true → amount.fits (amount.write x) x := by
    intro x hx
    change Reader.amount (.value (.ofFloat x)) = .ok x
    rw [Json.ofFloat, if_pos hx]
    rfl
  rcases ht with rfl | ⟨y, -, rfl⟩
  · cases hfits
    exact hself 0.0 (by decide +kernel)
  · change Reader.amount (.value (.ofFloat y)) = .ok x at hfits
    by_cases hy : Decimal.isFinite y = true
    · rw [Json.ofFloat, if_pos hy] at hfits
      cases hfits
      exact hself y hy
    · rw [Json.ofFloat, if_neg hy] at hfits
      cases hfits
      exact hself 0.0 (by decide +kernel)

/-! ## Entries that may be missing -/

/-- A value that has to be there. -/
def whole (r : Reader α) (write : α → Json) : Facet α := ofReader r none fun x => some (write x)

/-- A value that is there or not. -/
def entry (r : Reader α) (write : α → Json) : Facet (Option α) where
  fits t x :=
    match x with
    | none => t = none
    | some a => (whole r write).fits t a
  write := Option.map write

section
variable {r : Reader α} {write : α → Json}

theorem entry_unique {t : Option Json} {x y : Option α} (hx : (entry r write).fits t x)
    (hy : (entry r write).fits t y) : x = y := by
  match x, y with
  | none, none => rfl
  | none, some b => cases hx; cases hy
  | some a, none => cases hy; cases hx
  | some a, some b =>
    have ha : (whole r write).fits t a := hx
    have hb : (whole r write).fits t b := hy
    rw [ofReader_unique ha hb]

theorem whole_stands_of_entry {t : Option Json} (h : (entry r write).Stands t) : (whole r write).Stands t := by
  rcases h with hnone | ⟨y, hy, hwrite⟩
  · exact .inl hnone
  cases y with
  | none => exact .inl hwrite
  | some a => exact .inr ⟨a, hy, hwrite⟩

/-- An entry that is missing after a change was missing before, and the change does not name it. -/
theorem entry_steady (h : (whole r write).Steady) : (entry r write).Steady := by
  intro t v x ht hv hfits
  cases x with
  | none =>
    cases v with
    | none => rfl
    | some w => cases hfits
  | some a => exact h t v a (whole_stands_of_entry ht) hv hfits

end

theorem whole_flag_steady : (whole Reader.flag .bool).Steady :=
  steady_of_scalar (fun _ _ h => by cases h; rfl) fun _ _ _ _ => rfl

/-- A value of any kind is kept as it is, so a change settled once more has nothing left to change. -/
theorem whole_json_steady : (whole Reader.json fun v => v).Steady := by
  intro t v x _ hv hfits
  have hread : ∀ {t x}, (whole Reader.json fun v => v).fits t x ↔ t = some x := by
    intro t x
    cases t with
    | none => exact ⟨fun h => (by cases h), fun h => (by cases h)⟩
    | some w => exact ⟨fun h => congrArg some (Except.ok.inj h), fun h => congrArg Except.ok (Option.some.inj h)⟩
  rw [hread] at hfits ⊢
  change settled (some x) v = some x
  rw [← hfits]
  exact settled_settled hv t

/-! ## Values written as records -/

/-- A value written as a record, with a facet under each name. `shape` is what the entries do not tell one by one,
such as their order. -/
structure Composite (f : Facet α) where
  part : String → Facet α
  fields : α → List (String × Json)
  shape : List (String × Json) → α → Prop
  write_eq : ∀ x, f.write x = some (.record (fields x))
  fits_record : ∀ {fs x}, (keysOf fs).Nodup →
    (f.fits (some (.record fs)) x ↔ (∀ k, (part k).fits (fs.lookup k) x) ∧ shape fs x)
  missing : ∀ {x}, f.fits none x → f.fits (f.write x) x
  sound : ∀ {x}, f.Sound x → ∀ k, (part k).Sound x
  nodup : ∀ {x}, f.Sound x → (keysOf (fields x)).Nodup
  lookup : ∀ {x}, f.Sound x → ∀ k, (fields x).lookup k = (part k).write x
  shape_again : ∀ {base changes x}, f.Sound x → (keysOf base).Nodup → (Json.record changes).Distinct →
    shape (overlayFields base changes) x → shape (overlayFields (fields x) changes) x

namespace Composite

variable {f : Facet α} (c : f.Composite)

/-- A change laid over entries that can stand there, and again over what was written for the value then read. -/
theorem fits_again (hparts : ∀ k, (c.part k).Steady) {base changes : List (String × Json)} {x : α}
    (hbase : (keysOf base).Nodup) (hstands : ∀ k, (c.part k).Stands (base.lookup k))
    (hchanges : (Json.record changes).Distinct) (hfits : f.fits (some (.record (overlayFields base changes))) x) :
    f.fits (some (.record (overlayFields (c.fields x) changes))) x := by
  have hx : f.Sound x := ⟨_, hfits⟩
  rw [c.fits_record (nodup_overlayFields hbase changes)] at hfits
  rw [c.fits_record (nodup_overlayFields (c.nodup hx) changes)]
  refine ⟨fun k => ?_, c.shape_again hx hbase hchanges hfits.2⟩
  have hk := hfits.1 k
  rw [lookup_overlayFields hchanges.names] at hk ⊢
  rw [c.lookup hx k]
  exact hparts k _ _ _ (hstands k) (fun w hw => hchanges.values hw) hk

theorem stands_lookup {x : α} (hx : f.Sound x) (k : String) : (c.part k).Stands ((c.fields x).lookup k) :=
  .inr ⟨x, c.sound hx k, c.lookup hx k⟩

/-- A value written as a record is steady when the facet under each name is. Only a record is merged; it meets the
record written before, or no record. -/
theorem steady (hparts : ∀ k, (c.part k).Steady) : f.Steady := by
  intro t v x ht hv hfits
  rw [c.write_eq]
  have hempty : (keysOf ([] : List (String × Json))).Nodup := List.nodup_nil
  have hnothing : (Json.record []).Distinct := .record List.nodup_nil (by simp)
  -- A missing change is an empty one, except where nothing stands to lay it over.
  rcases v with - | w
  · rcases ht with rfl | ⟨y, hy, rfl⟩
    · have h := c.missing hfits
      rwa [c.write_eq] at h
    · rw [settled_none, c.write_eq] at hfits
      exact c.fits_again hparts (c.nodup hy) (c.stands_lookup hy) hnothing hfits
  have hw := hv w rfl
  cases w with
  | record changes =>
    rw [settled_some, settle_record]
    rcases ht with rfl | ⟨y, hy, rfl⟩
    · have hover : settle none (.record changes) = .record (overlayFields [] changes) := by
        rw [settle_on_scalar (fun w hw => by cases hw), nil_overlayFields hw.names]
      rw [settled_some, hover] at hfits
      exact c.fits_again hparts hempty (fun k => .inl rfl) hw hfits
    · rw [settled_some, c.write_eq, settle_record] at hfits
      exact c.fits_again hparts (c.nodup hy) (c.stands_lookup hy) hw hfits
  | _ => exact hfits

end Composite

end Facet

end RetreatDesk
