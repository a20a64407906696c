import RetreatDesk.Proofs.Reading.Outcome
import RetreatDesk.Proofs.Reading.Written

/-!
# Lists of items and records that may be `null`

* `Reader.readable_of_mem_sound`, `Reader.readable_of_mem_each`: whatever stands in a list has been read from some
  value.
* `soundItems_readsBack`, `allItems_readsBack`: a list of items is read back item by item.
* `nullable_readsBack`: a record that may be `null` is read back like one that may not.
-/

namespace RetreatDesk

open Json

namespace Reader

variable {α : Type} {r : Reader α}

/-! ## Item by item -/

theorem eachItem_json (vs : List Json) : eachItem json (vs.map .value) = .ok vs := by
  induction vs with
  | nil => rfl
  | cons v rest ih =>
    change (eachItem json (rest.map .value) >>= fun vs => .ok (v :: vs)) = _
    rw [ih]
    rfl

theorem values_list (vs : List Json) : values (.value (.list vs)) = .ok vs := by
  change (eachItem json (vs.map .value) >>= fun vs => .ok vs) = _
  rw [eachItem_json]
  rfl

theorem ofJson?_eq_some {v : Json} {x : α} : ofJson? r v = some x ↔ r (.value v) = .ok x := by
  unfold ofJson?
  cases r (.value v) with
  | ok y => exact ⟨fun h => congrArg Except.ok (Option.some.inj h), fun h => congrArg some (Except.ok.inj h)⟩
  | error problem => exact ⟨fun h => (by cases h), fun h => (by cases h)⟩

/-- The items of a list are read after the whole list, one by one, and those that do not fit are left out. -/
theorem readable_of_mem_sound {d : Draft} {xs : List α} (h : sound r d = .ok xs) {x : α} (hx : x ∈ xs) :
    ∃ v, r (.value v) = .ok x := by
  obtain ⟨vs, -, hxs⟩ := bind_eq_ok.mp h
  cases hxs
  obtain ⟨v, -, hv⟩ := List.mem_filterMap.mp hx
  exact ⟨v, ofJson?_eq_some.mp hv⟩

theorem readable_of_mem_each {standIn : α} (hstandIn : ∃ v, r (.value v) = .ok standIn) {d : Draft} {xs : List α}
    (h : each standIn r d = .ok xs) {x : α} (hx : x ∈ xs) : ∃ v, r (.value v) = .ok x := by
  obtain ⟨vs, -, hxs⟩ := bind_eq_ok.mp h
  cases hxs
  obtain ⟨v, -, rfl⟩ := List.mem_map.mp hx
  cases hv : ofJson? r v with
  | none => exact hstandIn
  | some y => exact ⟨v, ofJson?_eq_some.mp hv⟩

section
variable {write : α → Json} {g : α → α} {xs : List α} (h : ∀ x ∈ xs, r (.value (write x)) = .ok (g x))

include h

theorem sound_written : sound r (.value (.list (xs.map write))) = .ok (xs.map g) := by
  have hitems : (xs.map write).filterMap (ofJson? r) = xs.map g := by
    rw [List.filterMap_map, ← List.filterMap_eq_map]
    exact List.filterMap_congr fun x hx => ofJson?_eq_some.mpr (h x hx)
  unfold sound
  rw [values_list]
  exact congrArg Except.ok hitems

theorem each_written (standIn : α) : each standIn r (.value (.list (xs.map write))) = .ok (xs.map g) := by
  have hitems : (xs.map write).map (fun v => (ofJson? r v).getD standIn) = xs.map g := by
    rw [List.map_map]
    refine List.map_congr_left fun x hx => ?_
    exact congrArg (·.getD standIn) (ofJson?_eq_some.mpr (h x hx))
  unfold each
  rw [values_list]
  exact congrArg Except.ok hitems

end

end Reader

namespace Facet

variable {α : Type} {r : Reader α} {write : α → Json} {g : α → α}

/-! ## Lists -/

/-- The items of a list that fit, none when missing. -/
def soundItems (r : Reader α) (write : α → Json) : Facet (List α) :=
  ofReader (Reader.sound r) (some []) fun xs => some (.list (xs.map write))

/-- All items of a list, with a stand-in for those that do not fit. -/
def allItems (standIn : α) (r : Reader α) (write : α → Json) : Facet (List α) :=
  ofReader (Reader.each standIn r) (some []) fun xs => some (.list (xs.map write))

theorem soundItems_readsBack (h : (whole r write).ReadsBack g) : (soundItems r write).ReadsBack (List.map g) := by
  rintro xs ⟨t, ht⟩
  refine Reader.sound_written fun x hx => ?_
  cases t with
  | none => cases ht; cases hx
  | some v => exact h.of_readable (Reader.readable_of_mem_sound ht hx)

theorem allItems_readsBack {standIn : α} (hstandIn : ∃ v, r (.value v) = .ok standIn)
    (h : (whole r write).ReadsBack g) : (allItems standIn r write).ReadsBack (List.map g) := by
  rintro xs ⟨t, ht⟩
  refine Reader.each_written (fun x hx => ?_) standIn
  cases t with
  | none => cases ht; cases hx
  | some v => exact h.of_readable (Reader.readable_of_mem_each hstandIn ht hx)

/-! ## Records that may be `null` -/

/-- A value with a blank for `null`, and when missing. -/
def nullable (blank : α) (r : Reader α) (write : α → Json) : Facet α :=
  ofReader (Reader.orBlank blank r) (some blank) fun x => some (write x)

theorem nullable_readsBack {blank : α} (hblank : ∃ v, r (.value v) = .ok blank) (hwrite : ∀ x, write x ≠ .null)
    (h : (whole r write).ReadsBack g) : (nullable blank r write).ReadsBack g := by
  have hvalue : ∀ {v}, v ≠ Json.null → Reader.orBlank blank r (.value v) = r (.value v) := by
    intro v hv
    cases v with
    | null => exact absurd rfl hv
    | _ => rfl
  rintro x ⟨t, ht⟩
  -- The blank could have been read from a value too, so it is no exception.
  have hsound : (whole r write).Sound x := by
    cases t with
    | none => cases ht; exact hblank.imp' some fun _ => id
    | some v =>
      by_cases hv : v = .null
      · subst hv
        cases ht
        exact hblank.imp' some fun _ => id
      · exact ⟨some v, (hvalue hv).symm.trans ht⟩
  exact (hvalue (hwrite x)).trans (h x hsound)

end Facet

/-! ## Slots -/

namespace Slot

variable {α β : Type}

@[simp] def soundItems (name : String) (r : Reader β) (write : β → Json) (get : α → List β)
    (put : List β → α → α) : Slot α :=
  ⟨name, List β, get, put, Reader.sound r, some [], (Facet.soundItems r write).write⟩

@[simp] def allItems (name : String) (standIn : β) (r : Reader β) (write : β → Json) (get : α → List β)
    (put : List β → α → α) : Slot α :=
  ⟨name, List β, get, put, Reader.each standIn r, some [], (Facet.allItems standIn r write).write⟩

@[simp] def nullable (name : String) (blank : β) (r : Reader β) (write : β → Json) (get : α → β)
    (put : β → α → α) : Slot α :=
  ⟨name, β, get, put, Reader.orBlank blank r, some blank, (Facet.nullable blank r write).write⟩

end Slot

end RetreatDesk
