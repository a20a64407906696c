import RetreatDesk.Proofs.Reading.Rejection
import RetreatDesk.Proofs.Registry.Slots

/-!
# Records that have a key

A layout whose first field is a key that has to be there. The key is read loosely, so only its absence is a reason to
refuse a record.

* `Json.key?`, `Json.withKey`: what a value says for its key, and the value with another key.
* `key_of_read`: the key of what is read is the text that stands for the key, and empty when none stands there.
* `exists_read_iff_key`: a value can be read exactly if something stands for its key and it can be read with a text there.
-/

namespace RetreatDesk

open Json

namespace Json

/-- What a value says for its key: what a record holds under its name or, where fields may come in order, the first
item of a list. -/
def key? (name : String) (inOrder : Bool) : Json → Option Json
  | .record fs => fs.lookup name
  | .list items => if inOrder then items.head? else none
  | _ => none

/-- The value with a text for its key. -/
def withKey (name s : String) : Json → Json
  | .record fs => .record (put name (.text s) fs)
  | .list items => .list (.text s :: items.tail)
  | v => v

end Json

namespace Layout.Described

variable {α : Type} {l : Layout α} {name : String} {keyOf : α → String} {putKey : String → α → α}
  {slots : List (Slot α)} {rest : α → List (String × Json)}
  (d : l.Described (.label name none keyOf putKey :: slots) rest)

include d

theorem name_ne_key {s : Slot α} (hs : s ∈ slots) : s.name ≠ name := by
  have hnodup := d.fields_eq ▸ d.nodup
  intro heq
  exact (List.nodup_cons.mp hnodup).1 (List.mem_map.mpr ⟨s, hs, heq⟩)

/-! ## Records -/

theorem key_of_read_record {fs : List (String × Json)} (hfs : (keysOf fs).Nodup) {x : α}
    (h : l.read (.value (.record fs)) = .ok x) : ∃ w, fs.lookup name = some w ∧ keyOf x = w.text?.getD "" := by
  have hfits := ((d.read_record_iff hfs).mp h).1 _ List.mem_cons_self
  change (Facet.label none).fits (fs.lookup name) (keyOf x) at hfits
  cases hlookup : fs.lookup name with
  | none =>
    rw [hlookup] at hfits
    cases hfits
  | some w =>
    rw [hlookup] at hfits
    exact ⟨w, rfl, (Except.ok.inj hfits).symm⟩

theorem exists_read_record_iff_key (hrequired : l.required = [name]) {fs : List (String × Json)}
    (hfs : (keysOf fs).Nodup) (s : String) : (∃ x, l.read (.value (.record fs)) = .ok x) ↔
      (fs.lookup name).isSome ∧ ∃ x, l.read (.value (.record (put name (.text s) fs))) = .ok x := by
  have hkey : name ∈ keysOf fs ↔ (fs.lookup name).isSome := by
    rw [Option.isSome_iff_exists]
    exact ⟨exists_lookup_of_mem, fun ⟨_, hv⟩ => mem_keysOf_of_lookup hv⟩
  have hput : name ∈ keysOf (put name (.text s) fs) := mem_keysOf_of_lookup (lookup_put_self _ _ _)
  rw [d.exists_read_record_iff hfs, d.exists_read_record_iff (nodup_keys_put _ _ hfs), hrequired]
  simp only [List.forall_mem_singleton, List.forall_mem_cons, hkey, hput, true_and]
  refine and_congr_right fun _ => and_congr ?_ ?_
  · exact iff_of_true (fun _ _ => ⟨_, rfl⟩) fun _ _ => ⟨_, rfl⟩
  · refine forall₂_congr fun s' hs' => ?_
    rw [lookup_put_of_ne (d.name_ne_key hs')]

/-! ## Lists of fields -/

/-- Reading the other fields leaves the key alone, and whether they can be read does not depend on what came before. -/
theorem readItems_beside {names : List String} (hnames : ∀ n ∈ names, ∃ s ∈ slots, s.name = n) {items : List Json}
    {index left : Nat} {a b : α} (h : l.readItems none index a names (items.map .value) = .ok (b, left)) :
    keyOf b = keyOf a ∧ ∀ a', ∃ b', l.readItems none index a' names (items.map .value) = .ok (b', left) := by
  induction names generalizing items index a with
  | nil =>
    cases h
    exact ⟨rfl, fun a' => ⟨a', rfl⟩⟩
  | cons n names ih =>
    obtain ⟨⟨s, hs, rfl⟩, hothers⟩ := List.forall_mem_cons.mp hnames
    cases items with
    | nil =>
      obtain ⟨-, -, h⟩ := bind_eq_ok.mp h
      obtain ⟨u, hshort, h⟩ := bind_eq_ok.mp h
      cases h
      refine ⟨rfl, fun a' => ⟨a', ?_⟩⟩
      change (l.shortList index (s.name :: names) >>= fun _ => .ok (a', 0)) = _
      rw [hshort]
      rfl
    | cons v items =>
      have hset : ∀ a, l.set s.name (.value v) a = (s.put · a) <$> s.reader (.value v) :=
        d.set_eq s (List.mem_cons_of_mem _ hs) v
      obtain ⟨a₁, ha₁, h⟩ := bind_eq_ok.mp h
      rw [hset] at ha₁
      obtain ⟨p, hp, rfl⟩ := map_eq_ok.mp ha₁
      obtain ⟨hkey, hanywhere⟩ := ih hothers h
      refine ⟨hkey.trans ?_, fun a' => ?_⟩
      · exact d.get_put_of_ne _ List.mem_cons_self s (List.mem_cons_of_mem _ hs) (d.name_ne_key hs).symm p a
      · obtain ⟨b', hb'⟩ := hanywhere (s.put p a')
        refine ⟨b', ?_⟩
        change (l.set s.name (.value v) a' >>= _) = _
        rw [hset, hp]
        exact hb'

omit d in
theorem read_list_eq_error (hkeep : l.keep.isSome = true) (items : List Json) :
    l.read (.value (.list items)) = .error ((Draft.value (.list items)).unlike (.named l.title)) :=
  if_pos hkeep

/-- A list of fields is read from its first item, the key, onwards. -/
theorem read_list_eq_ok (hkeep : l.keep = none) (hrequired : l.required = [name]) {items : List Json} {x : α} :
    l.read (.value (.list items)) = .ok x ↔ ∃ v vs, items = v :: vs ∧
      l.readItems none 1 (putKey (v.text?.getD "") l.blank) (slots.map Slot.name) (vs.map .value) = .ok (x, 0) := by
  have hwhole : l.read (.value (.list items)) = .ok x ↔
      l.readItems none 0 l.blank (name :: slots.map Slot.name) (items.map .value) = .ok (x, 0) := by
    have hfields : l.fields = name :: slots.map Slot.name := d.fields_eq
    rw [← hfields]
    change (if l.keep.isSome then _ else (l.readItems none 0 l.blank l.fields (items.map .value) >>= _)) = .ok x ↔ _
    rw [hkeep, if_neg (by simp), bind_eq_ok]
    constructor
    · rintro ⟨⟨a, left⟩, hread, h⟩
      dsimp only at h
      split at h
      · next hleft =>
        cases h
        rw [hread, hleft]
      · cases h
    · intro hread
      exact ⟨(x, 0), hread, rfl⟩
  rw [hwhole]
  cases items with
  | nil =>
    refine iff_of_false (fun h => ?_) (by simp)
    have hshort : l.shortList 0 (name :: slots.map Slot.name) = .error (.wrongLength 0 (.fields l.title l.fields.length)) := by
      rw [shortList, if_pos (by simp [hrequired])]
    change (l.shortList 0 (name :: slots.map Slot.name) >>= _) = _ at h
    rw [hshort] at h
    cases h
  | cons v vs =>
    have hset : l.set name (.value v) l.blank = .ok (putKey (v.text?.getD "") l.blank) :=
      d.set_eq _ List.mem_cons_self v l.blank
    have hfirst : l.readItems none 0 l.blank (name :: slots.map Slot.name) ((v :: vs).map .value) =
        l.readItems none 1 (putKey (v.text?.getD "") l.blank) (slots.map Slot.name) (vs.map .value) := by
      change (l.set name (.value v) l.blank >>= _) = _
      rw [hset]
      rfl
    rw [hfirst]
    constructor
    · intro h
      exact ⟨v, vs, rfl, h⟩
    · rintro ⟨v', vs', hitems, h⟩
      cases hitems
      exact h

/-! ## Either -/

section
variable (hrequired : l.required = [name]) {v : Json} (hv : v.Distinct)

include hrequired hv

/-- The key of what is read is the text that stands for the key, and empty when what stands there has none. -/
theorem key_of_read {x : α} (h : l.read (.value v) = .ok x) :
    ∃ w, v.key? name l.keep.isNone = some w ∧ keyOf x = w.text?.getD "" := by
  cases v with
  | record fs => exact d.key_of_read_record hv.names h
  | list items =>
    cases hkeep : l.keep with
    | some keep =>
      rw [read_list_eq_error (by rw [hkeep]; rfl)] at h
      cases h
    | none =>
      obtain ⟨w, vs, rfl, hread⟩ := (d.read_list_eq_ok hkeep hrequired).mp h
      have hslots : ∀ n ∈ slots.map Slot.name, ∃ s ∈ slots, s.name = n := fun n => List.mem_map.mp
      refine ⟨w, rfl, (d.readItems_beside hslots hread).1.trans ?_⟩
      exact d.get_put _ List.mem_cons_self _ _
  | _ => cases h

/-- A value can be read exactly if something stands for its key and it can be read with a text there. -/
theorem exists_read_iff_key (s : String) : (∃ x, l.read (.value v) = .ok x) ↔
    (v.key? name l.keep.isNone).isSome ∧ ∃ x, l.read (.value (v.withKey name s)) = .ok x := by
  cases v with
  | record fs => exact d.exists_read_record_iff_key hrequired hv.names s
  | list items =>
    cases hkeep : l.keep with
    | some keep =>
      refine iff_of_false ?_ (by simp [key?])
      rintro ⟨x, hx⟩
      rw [read_list_eq_error (by rw [hkeep]; rfl)] at hx
      cases hx
    | none =>
      have hslots : ∀ n ∈ slots.map Slot.name, ∃ s ∈ slots, s.name = n := fun n => List.mem_map.mp
      change _ ↔ items.head?.isSome ∧ ∃ x, l.read (.value (.list (.text s :: items.tail))) = .ok x
      simp only [d.read_list_eq_ok hkeep hrequired]
      constructor
      · rintro ⟨x, w, vs, rfl, hread⟩
        obtain ⟨x', hx'⟩ := (d.readItems_beside hslots hread).2 (putKey s l.blank)
        exact ⟨rfl, x', .text s, vs, rfl, hx'⟩
      · rintro ⟨hfirst, x, w, vs, hitems, hread⟩
        obtain ⟨w', hw'⟩ := Option.isSome_iff_exists.mp hfirst
        obtain ⟨vs', rfl⟩ := List.head?_eq_some_iff.mp hw'
        obtain ⟨rfl, rfl⟩ := List.cons.inj hitems
        obtain ⟨x', hx'⟩ := (d.readItems_beside hslots hread).2 (putKey (w'.text?.getD "") l.blank)
        exact ⟨x', w', vs', rfl, hx'⟩
  | _ =>
    refine iff_of_false ?_ (by simp [key?])
    rintro ⟨x, hx⟩
    cases hx

end

end Layout.Described

end RetreatDesk
