import RetreatDesk.Proofs.Reading.Record

/-!
# Reading back what was written

A value that was read can be written and read back. Numbers without a numeral are written as `null` and come back as
nought; everything else comes back as it was.

* `Decimal.asWritten`: what is left of a number once it has been written.
* `Facet.ReadsBack`: what is read off the entry written for a value.
* `Composite.readsBack`: a value written as a record is read back name by name.
* `sorted_readsBack`, `listed_readsBack`, `labels_readsBack`, `Described.readsBack`: collections and records.
-/

namespace RetreatDesk

open Json

/-! ## Numbers -/

namespace Decimal

/-- What is left of a number once it has been written. -/
def asWritten (x : Float) : Float := if isFinite x then x else 0.0

theorem isFinite_zero : isFinite 0.0 = true := by decide +kernel

theorem asWritten_eq_self {x : Float} : asWritten x = x ↔ isFinite x = true := by
  unfold asWritten
  split
  · next hx => exact ⟨fun _ => hx, fun _ => rfl⟩
  · next hx =>
    constructor
    · intro hzero
      rw [← hzero]
      exact isFinite_zero
    · intro hfinite
      exact absurd hfinite hx

end Decimal

namespace Facet

variable {α β : Type}

/-- What is read off the entry written for a value is `g` of the value. -/
def ReadsBack (f : Facet α) (g : α → α) : Prop := ∀ x, f.Sound x → f.fits (f.write x) (g x)

theorem ReadsBack.along {f : Facet β} {g : β → β} (h : f.ReadsBack g) {get : α → β} {norm : α → α}
    (hget : ∀ x, get (norm x) = g (get x)) : (f.along get).ReadsBack norm := by
  intro x hx
  change f.fits (f.write (get x)) (get (norm x))
  rw [hget x]
  exact h (get x) hx

theorem ReadsBack.of_readable {r : Reader α} {write : α → Json} {g : α → α} (h : (whole r write).ReadsBack g) {x : α}
    (hx : ∃ v, r (.value v) = .ok x) : r (.value (write x)) = .ok (g x) := by
  obtain ⟨v, hv⟩ := hx
  exact h x ⟨some v, hv⟩

/-! ## Values that are no records -/

theorem flag_readsBack : flag.ReadsBack id := fun _ _ => rfl

theorem label_readsBack (blank : Option String) : (label blank).ReadsBack id := fun _ _ => rfl

theorem note_readsBack : note.ReadsBack id := fun _ ⟨_, ht⟩ => note_fits_self ht

theorem amount_readsBack : amount.ReadsBack Decimal.asWritten := by
  intro x _
  change Reader.amount (.value (.ofFloat x)) = .ok (Decimal.asWritten x)
  unfold Json.ofFloat Decimal.asWritten
  split <;> rfl

theorem whole_flag_readsBack : (whole Reader.flag .bool).ReadsBack id := fun _ _ => rfl

theorem whole_json_readsBack : (whole Reader.json fun v => v).ReadsBack id := fun _ _ => rfl

theorem textEntry_readsBack : textEntry.ReadsBack id := by
  rintro (- | s) _ <;> rfl

theorem entry_readsBack {r : Reader α} {write : α → Json} {g : α → α} (h : (whole r write).ReadsBack g) :
    (entry r write).ReadsBack (Option.map g) := by
  rintro (- | a) ⟨t, ht⟩
  · rfl
  · exact h a ⟨t, ht⟩

/-! ## Values written as records -/

/-- A value written as a record is read back name by name, if what the names do not tell comes back too. -/
theorem Composite.readsBack {f : Facet α} (c : f.Composite) {g : α → α} (hparts : ∀ k, (c.part k).ReadsBack g)
    (hshape : ∀ x, f.Sound x → c.shape (c.fields x) (g x)) : f.ReadsBack g := by
  intro x hx
  rw [c.write_eq, c.fits_record (c.nodup hx)]
  refine ⟨fun k => ?_, hshape x hx⟩
  rw [c.lookup hx k]
  exact hparts k x (c.sound hx k)

section
variable {r : Reader α} {write : α → Json} {g : α → α} (h : (whole r write).ReadsBack g)

include h

theorem sorted_readsBack : (sorted r write).ReadsBack (Sorted.map g) := by
  refine (sortedComposite r write).readsBack (fun k => ?_) fun _ _ => trivial
  exact (entry_readsBack h).along fun m => m.get?_map g k

theorem listed_readsBack : (listed r write).ReadsBack (Listed.map g) := by
  refine (listedComposite r write).readsBack (fun k => ?_) fun m _ => ?_
  · exact (entry_readsBack h).along fun m => m.get?_map g k
  · exact (keysOf_map g m.entries).trans (keysOf_map write m.entries).symm

end

theorem labels_readsBack : labels.ReadsBack id :=
  labelsComposite.readsBack (fun _ => textEntry_readsBack.along fun _ => rfl) fun _ _ => trivial

end Facet

namespace Layout.Described

variable {α : Type} {l : Layout α} {slots : List (Slot α)} {rest : α → List (String × Json)}

/-- A described record is read back slot by slot, and what is kept besides comes back with it. -/
theorem readsBack (d : l.Described slots rest) {toJson : α → Json}
    (hwrite : ∀ x, toJson x = .record (Slot.written slots x ++ rest x)) {g : α → α}
    (hslots : ∀ s ∈ slots, s.facet.ReadsBack g) (hrest : ∀ x, rest (g x) = rest x) :
    (Facet.whole l.read toJson).ReadsBack g := by
  refine (d.composite hwrite).readsBack (fun k => ?_) fun x hx => ?_
  · change (partAt slots rest k).ReadsBack g
    rcases partAt_cases slots rest k with ⟨s, hs, -, hpart⟩ | ⟨-, hpart⟩
    · rw [hpart]
      exact hslots s hs
    · rw [hpart]
      exact fun _ _ => trivial
  · change rest (g x) = l.kept (Slot.written slots x ++ rest x)
    rw [hrest, d.kept_fields (d.sound_of_whole hx).2]

end Layout.Described

end RetreatDesk
