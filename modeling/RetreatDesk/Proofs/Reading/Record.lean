import RetreatDesk.Proofs.Reading.Layout

/-!
# Records made of slots

A `Slot` is a declared field together with its place in the value. `Layout.Described` says that a layout is nothing but
its slots and the fields it keeps besides.

* `Described.take_spec`, `Described.takeAll_spec`: what one field does to the slots, and what a whole record does.
* `Described.read_record_iff`: what is read off a record, slot by slot.
* `Described.sound_of_read`: what has been read can be read again, slot by slot.
* `Described.composite`, `Described.steady`: a described record as a composite of its slots.
-/

namespace RetreatDesk

open Json

/-- A declared field: its place in the value, and how it is read and written. Without a `blank` it has to be there. -/
structure Slot (α : Type) where
  name : String
  Part : Type
  get : α → Part
  put : Part → α → α
  reader : Reader Part
  blank : Option Part
  write : Part → Option Json

namespace Slot

variable {α : Type}

def part (s : Slot α) : Facet s.Part := .ofReader s.reader s.blank s.write

def facet (s : Slot α) : Facet α := s.part.along s.get

/-- The fields written for the slots, in order. -/
def written (slots : List (Slot α)) (x : α) : List (String × Json) :=
  (slots.map fun s => (s.name, s.write (s.get x))).filterMap fun e => e.2.map (e.1, ·)

end Slot

namespace Layout

variable {α : Type} (l : Layout α)

/-! ## Layouts made of slots -/

/-- Whether a field without a declaration is kept under a name. -/
def keeps (k : String) : Bool := l.keep.isSome && !decide (k ∈ l.fields)

def kept (fs : List (String × Json)) : List (String × Json) := fs.filter fun e => l.keeps e.1

/-- A layout that is nothing but its slots and, in `rest`, the fields it keeps besides. -/
structure Described (slots : List (Slot α)) (rest : α → List (String × Json)) : Prop where
  fields_eq : l.fields = slots.map Slot.name
  nodup : l.fields.Nodup
  blank_of_required : ∀ n ∈ l.required, ∃ s ∈ slots, s.name = n ∧ s.blank = none
  required_of_blank : ∀ s ∈ slots, s.blank = none → s.name ∈ l.required
  blank_eq : ∀ s ∈ slots, ∀ b, s.blank = some b → s.get l.blank = b
  sound_of_blank : ∀ s ∈ slots, s.blank = none → s.facet.Sound l.blank
  set_eq : ∀ s ∈ slots, ∀ v a, l.set s.name (.value v) a = (s.put · a) <$> s.reader (.value v)
  get_put : ∀ s ∈ slots, ∀ b a, s.get (s.put b a) = b
  get_put_of_ne : ∀ s ∈ slots, ∀ s' ∈ slots, s.name ≠ s'.name → ∀ b a, s.get (s'.put b a) = s.get a
  rest_put : ∀ s ∈ slots, ∀ b a, rest (s.put b a) = rest a
  get_keep : ∀ keep, l.keep = some keep → ∀ s ∈ slots, ∀ k v a, s.get (keep k v a) = s.get a
  rest_keep : ∀ keep, l.keep = some keep → ∀ k v a, rest (keep k v a) = put k v (rest a)
  rest_blank : rest l.blank = []
  rest_nodup : ∀ a, (keysOf (rest a)).Nodup
  ext : ∀ x y, (∀ s ∈ slots, s.get x = s.get y) → rest x = rest y → x = y

namespace Described

variable {l} {slots : List (Slot α)} {rest : α → List (String × Json)} (d : l.Described slots rest)

include d

theorem declared {k : String} : k ∈ l.fields ↔ ∃ s ∈ slots, s.name = k := by
  rw [d.fields_eq, List.mem_map]

theorem take_slot {s : Slot α} (hs : s ∈ slots) (v : Json) (a : α) :
    l.take a s.name (.value v) = (s.put · a) <$> s.reader (.value v) := by
  have hdeclared : s.name ∈ l.fields := d.declared.mpr ⟨s, hs, rfl⟩
  rw [take, if_pos hdeclared, d.set_eq s hs]

/-- What one field does: it sets the slot of its name, or is kept or passed over. -/
theorem take_spec {a b : α} {k : String} {v : Json} (h : l.take a k (.value v) = .ok b) :
    (∀ s ∈ slots, if s.name = k then s.reader (.value v) = .ok (s.get b) else s.get b = s.get a) ∧
      rest b = if l.keeps k then put k v (rest a) else rest a := by
  by_cases hk : k ∈ l.fields
  · obtain ⟨s, hs, rfl⟩ := d.declared.mp hk
    have hset : ∀ s' ∈ slots, s'.name = s.name → ∃ p, s'.reader (.value v) = .ok p ∧ s'.put p a = b := by
      intro s' hs' hname
      rw [← hname, d.take_slot hs'] at h
      exact map_eq_ok.mp h
    have hkeeps : l.keeps s.name = false := by simp [keeps, hk]
    obtain ⟨p, -, hput⟩ := hset s hs rfl
    refine ⟨fun s' hs' => ?_, ?_⟩
    · split
      · next hname =>
        obtain ⟨p', hp', rfl⟩ := hset s' hs' hname
        rw [d.get_put s' hs']
        exact hp'
      · next hname => rw [← hput, d.get_put_of_ne s' hs' s hs hname]
    · rw [hkeeps, ← hput, d.rest_put s hs]
      rfl
  · have hname : ∀ s ∈ slots, s.name ≠ k := fun s hs heq => hk (d.declared.mpr ⟨s, hs, heq⟩)
    rw [take, if_neg hk, other_value] at h
    cases hkeep : l.keep with
    | none =>
      rw [hkeep] at h
      cases h
      refine ⟨fun s hs => ?_, ?_⟩
      · rw [if_neg (hname s hs)]
      · simp [keeps, hkeep]
    | some keep =>
      rw [hkeep] at h
      cases h
      refine ⟨fun s hs => ?_, ?_⟩
      · rw [if_neg (hname s hs), d.get_keep keep hkeep s hs]
      · simp [keeps, hkeep, hk, d.rest_keep keep hkeep]

theorem exists_take {k : String} {v : Json} (h : ∀ s ∈ slots, s.name = k → ∃ p, s.reader (.value v) = .ok p)
    (a : α) : ∃ b, l.take a k (.value v) = .ok b := by
  by_cases hk : k ∈ l.fields
  · obtain ⟨s, hs, rfl⟩ := d.declared.mp hk
    obtain ⟨p, hp⟩ := h s hs rfl
    exact ⟨s.put p a, by rw [d.take_slot hs, hp]; rfl⟩
  · exact ⟨_, by rw [take, if_neg hk, other_value]⟩

/-- What the fields of a record do, one after another: a slot without a field stays as it was. -/
theorem takeAll_spec {fs : List (String × Json)} (hfs : (keysOf fs).Nodup) {a b : α}
    (hfresh : (keysOf (rest a ++ l.kept fs)).Nodup) (h : l.takeAll a fs = .ok b) :
    (∀ s ∈ slots, (Facet.ofReader s.reader (some (s.get a)) s.write).fits (fs.lookup s.name) (s.get b)) ∧
      rest b = rest a ++ l.kept fs := by
  induction fs generalizing a with
  | nil =>
    cases h
    exact ⟨fun s hs => rfl, (List.append_nil _).symm⟩
  | cons e rest' ih =>
    obtain ⟨k, v⟩ := e
    obtain ⟨hnew, hrest'⟩ := List.nodup_cons.mp hfs
    obtain ⟨a', ha', h⟩ := bind_eq_ok.mp h
    obtain ⟨hslots, hrest⟩ := d.take_spec ha'
    have hstep : rest a ++ l.kept ((k, v) :: rest') = rest a' ++ l.kept rest' := by
      rw [hrest, kept, List.filter_cons]
      split
      · next hk =>
        have hk' : k ∉ keysOf (rest a) := by
          intro hmem
          rw [kept, List.filter_cons, if_pos hk, keysOf_append] at hfresh
          exact (List.nodup_append.mp hfresh).2.2 _ hmem _ List.mem_cons_self rfl
        rw [put_of_not_mem hk', List.append_assoc]
        rfl
      · rfl
    rw [hstep] at hfresh ⊢
    obtain ⟨hlater, hkept⟩ := ih hrest' hfresh h
    refine ⟨fun s hs => ?_, hkept⟩
    have hs' := hslots s hs
    have hlast := hlater s hs
    by_cases hname : s.name = k
    · -- No later field has this name, so the slot keeps what this one has set.
      rw [if_pos hname] at hs'
      rw [hname, lookup_eq_none_of_not_mem hnew] at hlast
      have hstays : s.get a' = s.get b := Option.some.inj hlast
      rw [hname, List.lookup_cons_self]
      rwa [hstays] at hs'
    · rw [if_neg hname] at hs'
      rw [lookup_cons_of_ne hname]
      rwa [hs'] at hlast

theorem exists_takeAll {fs : List (String × Json)}
    (h : ∀ s ∈ slots, ∀ v, (s.name, v) ∈ fs → ∃ p, s.reader (.value v) = .ok p) (a : α) :
    ∃ b, l.takeAll a fs = .ok b := by
  induction fs generalizing a with
  | nil => exact ⟨a, rfl⟩
  | cons e rest ih =>
    obtain ⟨k, v⟩ := e
    obtain ⟨a', ha'⟩ := d.exists_take (fun s hs hname => h s hs v (hname ▸ List.mem_cons_self)) a
    obtain ⟨b, hb⟩ := ih (fun s hs w hw => h s hs w (List.mem_cons_of_mem _ hw)) a'
    exact ⟨b, by rw [takeAll_cons, ha']; exact hb⟩

theorem blank_sound {s : Slot α} (hs : s ∈ slots) : s.facet.Sound l.blank := by
  cases hblank : s.blank with
  | none => exact d.sound_of_blank s hs hblank
  | some p =>
    have hget := d.blank_eq s hs p hblank
    exact ⟨none, show s.blank = some (s.get l.blank) from hget ▸ hblank⟩

/-- A slot that need not be there starts with its blank. -/
theorem fits_iff_from_blank {s : Slot α} (hs : s ∈ slots) {t : Option Json} {x : α} :
    s.facet.fits t x ↔
      (Facet.ofReader s.reader (some (s.get l.blank)) s.write).fits t (s.get x) ∧ (s.blank = none → t ≠ none) := by
  cases t with
  | some v => exact ⟨fun h => ⟨h, fun _ h => by cases h⟩, And.left⟩
  | none =>
    change s.blank = some (s.get x) ↔ some (s.get l.blank) = some (s.get x) ∧ (s.blank = none → none ≠ none)
    cases hblank : s.blank with
    | none => simp
    | some p => simp [d.blank_eq s hs p hblank]

/-- What is read off a record: each slot from the field of its name, and all fields that are kept. -/
theorem read_record_iff {fs : List (String × Json)} (hfs : (keysOf fs).Nodup) {x : α} :
    l.read (.value (.record fs)) = .ok x ↔
      (∀ s ∈ slots, s.facet.fits (fs.lookup s.name) x) ∧ rest x = l.kept fs := by
  have hrequired : ∀ n ∈ l.required, n ∈ l.fields := by
    intro n hn
    obtain ⟨s, hs, hname, -⟩ := d.blank_of_required n hn
    exact d.declared.mpr ⟨s, hs, hname⟩
  have hkept : (keysOf (rest l.blank ++ l.kept fs)).Nodup := by
    rw [d.rest_blank, List.nil_append]
    exact hfs.sublist (List.filter_sublist.map _)
  rw [l.read_record_eq_ok hrequired hfs]
  constructor
  · rintro ⟨hfold, hall⟩
    obtain ⟨hslots, hrest⟩ := d.takeAll_spec hfs hkept hfold
    rw [d.rest_blank, List.nil_append] at hrest
    refine ⟨fun s hs => (d.fits_iff_from_blank hs).mpr ⟨hslots s hs, fun hblank hnone => ?_⟩, hrest⟩
    obtain ⟨v, hv⟩ := exists_lookup_of_mem (hall _ (d.required_of_blank s hs hblank))
    rw [hnone] at hv
    cases hv
  · rintro ⟨hslots, hrest⟩
    have hfrom := fun s hs => (d.fits_iff_from_blank hs).mp (hslots s hs)
    have hreadable : ∀ s ∈ slots, ∀ v, (s.name, v) ∈ fs → ∃ p, s.reader (.value v) = .ok p := by
      intro s hs v hv
      have hfits := hslots s hs
      rw [lookup_of_mem hfs hv] at hfits
      exact ⟨s.get x, hfits⟩
    -- All fields can be read, so something is read; it agrees with `x` slot by slot.
    obtain ⟨y, hy⟩ := d.exists_takeAll hreadable l.blank
    obtain ⟨hslots', hrest'⟩ := d.takeAll_spec hfs hkept hy
    rw [d.rest_blank, List.nil_append] at hrest'
    have hyx : y = x :=
      d.ext y x (fun s hs => Facet.ofReader_unique (hslots' s hs) (hfrom s hs).1) (hrest'.trans hrest.symm)
    refine ⟨hyx ▸ hy, fun n hn => ?_⟩
    obtain ⟨s, hs, rfl, hblank⟩ := d.blank_of_required n hn
    obtain ⟨v, hv⟩ := Option.ne_none_iff_exists'.mp ((hfrom s hs).2 hblank)
    exact mem_keysOf_of_lookup hv

/-! ## What has been read -/

/-- Each slot of a value that was read can be read again, and only what is kept has been kept. -/
theorem sound_of_read {v : Json} {x : α} (h : l.read (.value v) = .ok x) :
    (∀ s ∈ slots, s.facet.Sound x) ∧ ∀ n ∈ keysOf (rest x), l.keeps n = true := by
  let P : α → Prop := fun a => (∀ s ∈ slots, s.facet.Sound a) ∧ ∀ n ∈ keysOf (rest a), l.keeps n = true
  have hblank : P l.blank := ⟨fun s hs => d.blank_sound hs, by simp [d.rest_blank]⟩
  refine l.read_invariant (P := P) (Q := fun d => ∃ w, d = .value w) (fun {a b k d'} hd ha hb => ?_)
    (fun _ => Draft.value_of_mem_fields) (fun _ => Draft.value_of_mem_items) hblank h
  obtain ⟨w, rfl⟩ := hd
  obtain ⟨hslots, hrest⟩ := d.take_spec hb
  refine ⟨fun s hs => ?_, fun n hn => ?_⟩
  · have hs' := hslots s hs
    split at hs'
    · exact ⟨some w, hs'⟩
    · obtain ⟨t, ht⟩ := ha.1 s hs
      exact ⟨t, show s.part.fits t (s.get b) from hs' ▸ ht⟩
  · rw [hrest] at hn
    split at hn
    · next hkeeps =>
      rw [keys_put] at hn
      split at hn
      · exact ha.2 n hn
      · rcases List.mem_append.mp hn with hn | hn
        · exact ha.2 n hn
        · exact List.mem_singleton.mp hn ▸ hkeeps
    · exact ha.2 n hn

/-! ## Described records as composites -/

omit d in
theorem keysOf_entries (x : α) :
    keysOf (slots.map fun s => (s.name, s.write (s.get x))) = slots.map Slot.name := by
  rw [keysOf, List.map_map]
  rfl

omit d in
theorem keysOf_written (x : α) : (keysOf (Slot.written slots x)).Sublist (slots.map Slot.name) := by
  rw [← keysOf_entries x]
  exact keysOf_filterMap id _

theorem lookup_written {s : Slot α} (hs : s ∈ slots) (x : α) :
    (Slot.written slots x).lookup s.name = s.write (s.get x) := by
  have hnames : (keysOf (slots.map fun s => (s.name, s.write (s.get x)))).Nodup := by
    rw [keysOf_entries, ← d.fields_eq]
    exact d.nodup
  have h := lookup_filterMap id hnames s.name
  rw [lookup_of_mem hnames (List.mem_map.mpr ⟨s, hs, rfl⟩)] at h
  exact h

theorem find?_slot {s : Slot α} (hs : s ∈ slots) : slots.find? (·.name = s.name) = some s := by
  cases hfound : slots.find? (·.name = s.name) with
  | none => simpa using List.find?_eq_none.mp hfound s hs
  | some s' =>
    have hname : s'.name = s.name := by simpa using List.find?_some hfound
    have hinj := List.inj_on_of_nodup_map (d.fields_eq ▸ d.nodup)
    rw [hinj (List.mem_of_find?_eq_some hfound) hs hname]

end Described

/-- What a record contributes under a name: the slot of that name, or nothing of its own. -/
def partAt (slots : List (Slot α)) (rest : α → List (String × Json)) (k : String) : Facet α :=
  match slots.find? (·.name = k) with
  | some s => s.facet
  | none => ⟨fun _ _ => True, fun x => (rest x).lookup k⟩

theorem partAt_cases (slots : List (Slot α)) (rest : α → List (String × Json)) (k : String) :
    (∃ s ∈ slots, s.name = k ∧ partAt slots rest k = s.facet) ∨
      (∀ s ∈ slots, s.name ≠ k) ∧ partAt slots rest k = ⟨fun _ _ => True, fun x => (rest x).lookup k⟩ := by
  unfold partAt
  cases hfound : slots.find? (·.name = k) with
  | some s =>
    have hname : s.name = k := by simpa using List.find?_some hfound
    exact .inl ⟨s, List.mem_of_find?_eq_some hfound, hname, rfl⟩
  | none => exact .inr ⟨fun s hs hname => List.find?_eq_none.mp hfound s hs (decide_eq_true hname), rfl⟩

namespace Described

variable {l} {slots : List (Slot α)} {rest : α → List (String × Json)} (d : l.Described slots rest)

include d

theorem partAt_slot {s : Slot α} (hs : s ∈ slots) : partAt slots rest s.name = s.facet := by
  unfold partAt
  rw [d.find?_slot hs]

theorem forall_partAt_iff {fs : List (String × Json)} {x : α} :
    (∀ k, (partAt slots rest k).fits (fs.lookup k) x) ↔ ∀ s ∈ slots, s.facet.fits (fs.lookup s.name) x := by
  constructor
  · intro h s hs
    rw [← d.partAt_slot hs]
    exact h s.name
  · intro h k
    rcases partAt_cases slots rest k with ⟨s, hs, rfl, hpart⟩ | ⟨-, hpart⟩
    · rw [hpart]
      exact h s hs
    · rw [hpart]
      trivial

theorem kept_written (x : α) : l.kept (Slot.written slots x) = [] := by
  rw [kept, List.filter_eq_nil_iff]
  intro e he
  have hname : e.1 ∈ l.fields := d.fields_eq ▸ (keysOf_written x).subset (List.mem_map_of_mem he)
  simp [keeps, hname]

theorem kept_fields {x : α} (hx : ∀ n ∈ keysOf (rest x), l.keeps n = true) :
    l.kept (Slot.written slots x ++ rest x) = rest x := by
  rw [kept, List.filter_append]
  change l.kept _ ++ _ = _
  rw [d.kept_written, List.nil_append, List.filter_eq_self]
  exact fun e he => hx e.1 (List.mem_map_of_mem he)

theorem disjoint_written {x : α} (hx : ∀ n ∈ keysOf (rest x), l.keeps n = true) {n : String}
    (hn : n ∈ keysOf (rest x)) : n ∉ slots.map Slot.name := by
  rw [← d.fields_eq]
  intro hmem
  have hkeeps := hx n hn
  simp [keeps, hmem] at hkeeps

theorem nodup_fields {x : α} (hx : ∀ n ∈ keysOf (rest x), l.keeps n = true) :
    (keysOf (Slot.written slots x ++ rest x)).Nodup := by
  rw [keysOf_append]
  refine List.nodup_append.mpr ⟨?_, d.rest_nodup x, ?_⟩
  · exact (d.fields_eq ▸ d.nodup).sublist (keysOf_written x)
  · rintro n hn m hm rfl
    exact d.disjoint_written hx hm ((keysOf_written x).subset hn)

theorem lookup_fields {x : α} (hx : ∀ n ∈ keysOf (rest x), l.keeps n = true) (k : String) :
    (Slot.written slots x ++ rest x).lookup k = (partAt slots rest k).write x := by
  rw [List.lookup_append]
  rcases partAt_cases slots rest k with ⟨s, hs, rfl, hpart⟩ | ⟨hnone, hpart⟩
  · have hrest : (rest x).lookup s.name = none :=
      lookup_eq_none_of_not_mem fun hmem => d.disjoint_written hx hmem (List.mem_map_of_mem hs)
    rw [hpart, d.lookup_written hs, hrest, Option.or_none]
    rfl
  · have hwritten : (Slot.written slots x).lookup k = none := by
      refine lookup_eq_none_of_not_mem fun hmem => ?_
      obtain ⟨s, hs, hname⟩ := List.mem_map.mp ((keysOf_written x).subset hmem)
      exact hnone s hs hname
    rw [hpart, hwritten, Option.none_or]

theorem sound_of_whole {toJson : α → Json} {x : α} (h : (Facet.whole l.read toJson).Sound x) :
    (∀ s ∈ slots, s.facet.Sound x) ∧ ∀ n ∈ keysOf (rest x), l.keeps n = true := by
  obtain ⟨t, ht⟩ := h
  cases t with
  | none => cases ht
  | some v => exact d.sound_of_read ht

/-- A described record is written slot by slot, with the fields it keeps after them. -/
def composite {toJson : α → Json} (hwrite : ∀ x, toJson x = .record (Slot.written slots x ++ rest x)) :
    (Facet.whole l.read toJson).Composite where
  part := partAt slots rest
  fields x := Slot.written slots x ++ rest x
  shape fs x := rest x = l.kept fs
  write_eq x := congrArg some (hwrite x)
  fits_record hfs := (d.read_record_iff hfs).trans (and_congr_left' d.forall_partAt_iff.symm)
  missing h := by cases h
  sound {x} h k := by
    rcases partAt_cases slots rest k with ⟨s, hs, -, hpart⟩ | ⟨-, hpart⟩
    · rw [hpart]
      exact (d.sound_of_whole h).1 s hs
    · rw [hpart]
      exact ⟨none, trivial⟩
  nodup h := d.nodup_fields (d.sound_of_whole h).2
  lookup h k := d.lookup_fields (d.sound_of_whole h).2 k
  shape_again {base changes x} h _ hchanges hshape := by
    have hover : ∀ fs, l.kept (overlayFields fs changes) = overlayFields (l.kept fs) (l.kept changes) :=
      fun fs => filter_overlayFields l.keeps fs changes
    rw [hover, d.kept_fields (d.sound_of_whole h).2, hshape, hover]
    exact ((hchanges.filter _).overlayFields_again _).symm

/-- A described record is steady when its slots are. -/
theorem steady {toJson : α → Json} (hwrite : ∀ x, toJson x = .record (Slot.written slots x ++ rest x))
    (hslots : ∀ s ∈ slots, s.part.Steady) : (Facet.whole l.read toJson).Steady := by
  refine (d.composite hwrite).steady fun k => ?_
  change (partAt slots rest k).Steady
  rcases partAt_cases slots rest k with ⟨s, hs, -, hpart⟩ | ⟨-, hpart⟩
  · rw [hpart]
    exact (hslots s hs).along s.get
  · rw [hpart]
    exact fun _ _ _ _ _ _ => trivial

end Described

end Layout

end RetreatDesk
