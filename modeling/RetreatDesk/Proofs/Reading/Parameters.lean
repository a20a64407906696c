import RetreatDesk.Proofs.Reading.Tagged

/-!
# Values told by their parameters

What a layout with a choice of kinds reads is of one kind and told apart from others of that kind by what it holds under
the names of the fields.

* `Layout.Tabular`: a layout whose values are so.
* `Tabular.read_record_iff`: what is read off a record, name by name.
* `Tabular.exists_read_iff`: a record is read if all it has to have is there and every parameter is one that is taken.
* `Tagged.read_tabular_iff`, `Tagged.exists_read_tabular`: the same where a tag chooses the layout.
* `OfKind`: a record that names one of some kinds and has all that the kind needs.
-/

namespace RetreatDesk

open Json

variable {α : Type}

namespace Layout

/-- A layout whose values are of one kind and told apart by what they hold under the names of the fields. `taken` is what
becomes of a value under a name, if it is taken at all. -/
structure Tabular (l : Layout α) (kind : α → Prop) (held : α → String → Option Json)
    (taken : String → Json → Option (Option Json)) : Prop where
  keep_eq : l.keep = none
  required_subset : ∀ n ∈ l.required, n ∈ l.fields
  kind_blank : kind l.blank
  of_set : ∀ {n v a b}, n ∈ l.fields → kind a → l.set n (.value v) a = .ok b →
    kind b ∧ taken n v = some (held b n) ∧ ∀ m ∈ l.fields, m ≠ n → held b m = held a m
  exists_set : ∀ {n v a}, n ∈ l.fields → kind a → taken n v ≠ none → ∃ b, l.set n (.value v) a = .ok b
  ext : ∀ {a b}, kind a → kind b → (∀ n ∈ l.fields, held a n = held b n) → a = b

/-- What is held under a name after something may have stood under it, if that was taken. -/
def heldAfter (taken : String → Json → Option (Option Json)) (n : String) (before : Option Json) :
    Option Json → Option (Option Json)
  | none => some before
  | some v => taken n v

namespace Tabular

variable {l : Layout α} {kind : α → Prop} {held : α → String → Option Json}
  {taken : String → Json → Option (Option Json)} (d : l.Tabular kind held taken)

include d

theorem take_spec {a b : α} {k : String} {v : Json} (ha : kind a) (h : l.take a k (.value v) = .ok b) :
    kind b ∧ ∀ n ∈ l.fields, if n = k then taken n v = some (held b n) else held b n = held a n := by
  unfold take at h
  split at h
  · next hk =>
    obtain ⟨hb, hself, hothers⟩ := d.of_set hk ha h
    refine ⟨hb, fun n hn => ?_⟩
    split
    · next heq => exact heq ▸ hself
    · next hne => exact hothers n hn hne
  · next hk =>
    rw [other_value, d.keep_eq] at h
    cases h
    refine ⟨ha, fun n hn => ?_⟩
    rw [if_neg fun heq : n = k => hk (heq ▸ hn)]

theorem exists_take {a : α} {k : String} {v : Json} (ha : kind a) (hv : k ∈ l.fields → taken k v ≠ none) :
    ∃ b, l.take a k (.value v) = .ok b := by
  by_cases hk : k ∈ l.fields
  · rw [take, if_pos hk]
    exact d.exists_set hk ha (hv hk)
  · exact ⟨_, by rw [take, if_neg hk, other_value]⟩

theorem takeAll_spec {fs : List (String × Json)} (hfs : (keysOf fs).Nodup) {a b : α} (ha : kind a)
    (h : l.takeAll a fs = .ok b) :
    kind b ∧ ∀ n ∈ l.fields, heldAfter taken n (held a n) (fs.lookup n) = some (held b n) := by
  induction fs generalizing a with
  | nil =>
    cases h
    exact ⟨ha, fun n _ => rfl⟩
  | cons e rest ih =>
    obtain ⟨k, v⟩ := e
    obtain ⟨hfresh, hrest⟩ := List.nodup_cons.mp hfs
    rw [takeAll_cons] at h
    obtain ⟨a', htake, h⟩ := bind_eq_ok.mp h
    obtain ⟨ha', hone⟩ := d.take_spec ha htake
    obtain ⟨hb, hlater⟩ := ih hrest ha' h
    refine ⟨hb, fun n hn => ?_⟩
    have hfirst := hone n hn
    have hlast := hlater n hn
    by_cases hname : n = k
    · -- No later field has this name.
      rw [if_pos hname] at hfirst
      rw [hname, lookup_eq_none_of_not_mem hfresh] at hlast
      rw [hname, List.lookup_cons_self, heldAfter, ← Option.some.inj hlast, ← hname]
      exact hfirst
    · rw [if_neg hname] at hfirst
      rwa [lookup_cons_of_ne hname, ← hfirst]

theorem exists_takeAll {fs : List (String × Json)} (hfs : ∀ e ∈ fs, e.1 ∈ l.fields → taken e.1 e.2 ≠ none) {a : α}
    (ha : kind a) : ∃ b, l.takeAll a fs = .ok b := by
  induction fs generalizing a with
  | nil => exact ⟨a, rfl⟩
  | cons e rest ih =>
    obtain ⟨hfirst, hrest⟩ := List.forall_mem_cons.mp hfs
    obtain ⟨a', htake⟩ := d.exists_take ha hfirst
    obtain ⟨b, hb⟩ := ih hrest (d.take_spec ha htake).1
    exact ⟨b, by rw [takeAll_cons, htake]; exact hb⟩

section
variable {fs : List (String × Json)} (hfs : (keysOf fs).Nodup)

include hfs

/-- A record is read if all it has to have is there and every parameter is one that is taken. -/
theorem exists_read_iff : (∃ x, l.read (.value (.record fs)) = .ok x) ↔
    (∀ n ∈ l.required, n ∈ keysOf fs) ∧ ∀ n ∈ l.fields, ∀ v, fs.lookup n = some v → taken n v ≠ none := by
  constructor
  · rintro ⟨x, hx⟩
    obtain ⟨hall, hrequired⟩ := (l.read_record_eq_ok d.required_subset hfs).mp hx
    obtain ⟨-, hheld⟩ := d.takeAll_spec hfs d.kind_blank hall
    refine ⟨hrequired, fun n hn v hv hnone => ?_⟩
    have hn' := hheld n hn
    rw [hv, heldAfter, hnone] at hn'
    cases hn'
  · rintro ⟨hrequired, htaken⟩
    obtain ⟨x, hx⟩ := d.exists_takeAll (fun e he hdecl => htaken e.1 hdecl e.2 (lookup_of_mem hfs he)) d.kind_blank
    exact ⟨x, (l.read_record_eq_ok d.required_subset hfs).mpr ⟨hx, hrequired⟩⟩

/-- What is read off a record, name by name. -/
theorem read_record_iff {x : α} : l.read (.value (.record fs)) = .ok x ↔
    kind x ∧ (∀ n ∈ l.required, n ∈ keysOf fs) ∧
      ∀ n ∈ l.fields, heldAfter taken n (held l.blank n) (fs.lookup n) = some (held x n) := by
  constructor
  · intro hx
    obtain ⟨hall, hrequired⟩ := (l.read_record_eq_ok d.required_subset hfs).mp hx
    obtain ⟨hkind, hheld⟩ := d.takeAll_spec hfs d.kind_blank hall
    exact ⟨hkind, hrequired, hheld⟩
  · rintro ⟨hkind, hrequired, hheld⟩
    have htaken : ∀ n ∈ l.fields, ∀ v, fs.lookup n = some v → taken n v ≠ none := by
      intro n hn v hv hnone
      have hn' := hheld n hn
      rw [hv, heldAfter, hnone] at hn'
      cases hn'
    -- Something is read; it holds what `x` holds under every name.
    obtain ⟨y, hy⟩ := (d.exists_read_iff hfs).mpr ⟨hrequired, htaken⟩
    obtain ⟨hall, -⟩ := (l.read_record_eq_ok d.required_subset hfs).mp hy
    obtain ⟨hkind', hheld'⟩ := d.takeAll_spec hfs d.kind_blank hall
    have hsame : y = x := d.ext hkind' hkind fun n hn => Option.some.inj ((hheld' n hn).symm.trans (hheld n hn))
    rw [← hsame]
    exact hy

end

end Tabular

end Layout

/-! ## Layouts chosen by a tag -/

namespace Tagged

variable {t : Tagged α} {kind : String → α → Prop} {held : α → String → Option Json}
  {taken : String → Json → Option (Option Json)} (d : ∀ s, (t.layout s).Tabular (kind s) held taken)
  (htag : ∀ s, t.tag ∉ (t.layout s).fields) {fs : List (String × Json)} (hfs : (keysOf fs).Nodup)

omit d in
theorem mem_keysOf_untagged {n : String} (hn : n ≠ t.tag) : n ∈ keysOf (t.untagged fs) ↔ n ∈ keysOf fs := by
  refine ⟨fun h => (t.keysOf_untagged fs).subset h, fun h => ?_⟩
  obtain ⟨v, hv⟩ := exists_lookup_of_mem h
  exact mem_keysOf_of_lookup ((t.lookup_untagged hn fs).trans hv)

include d htag hfs

theorem read_tabular_iff {x : α} : t.read (.value (.record fs)) = .ok x ↔
    ∃ s, fs.lookup t.tag = some (.text s) ∧ kind s x ∧ (∀ n ∈ (t.layout s).required, n ∈ keysOf fs) ∧
      ∀ n ∈ (t.layout s).fields,
        Layout.heldAfter taken n (held (t.layout s).blank n) (fs.lookup n) = some (held x n) := by
  rw [t.read_record_iff hfs]
  refine exists_congr fun s => and_congr_right fun _ => ?_
  have hne : ∀ n ∈ (t.layout s).fields, n ≠ t.tag := fun n hn heq => htag s (heq ▸ hn)
  rw [(d s).read_record_iff (hfs.sublist (t.keysOf_untagged fs))]
  refine and_congr_right fun _ => and_congr (forall₂_congr fun n hn => ?_) (forall₂_congr fun n hn => ?_)
  · exact mem_keysOf_untagged (hne n ((d s).required_subset n hn))
  · rw [t.lookup_untagged (hne n hn)]

theorem exists_read_tabular {s : String} (hs : fs.lookup t.tag = some (.text s))
    (hrequired : ∀ n ∈ (t.layout s).required, n ∈ keysOf fs)
    (htaken : ∀ n ∈ (t.layout s).fields, ∀ v, fs.lookup n = some v → taken n v ≠ none) :
    ∃ x, t.read (.value (.record fs)) = .ok x ∧ kind s x := by
  have hne : ∀ n ∈ (t.layout s).fields, n ≠ t.tag := fun n hn heq => htag s (heq ▸ hn)
  have hcut : (keysOf (t.untagged fs)).Nodup := hfs.sublist (t.keysOf_untagged fs)
  obtain ⟨x, hx⟩ := ((d s).exists_read_iff hcut).mpr
    ⟨fun n hn => (mem_keysOf_untagged (hne n ((d s).required_subset n hn))).mpr (hrequired n hn),
      fun n hn v hv => htaken n hn v (by rwa [t.lookup_untagged (hne n hn)] at hv)⟩
  exact ⟨x, (t.read_record_iff hfs).mpr ⟨s, hs, hx⟩, (((d s).read_record_iff hcut).mp hx).1⟩

end Tagged

/-! ## Kinds -/

theorem Reader.text_eq_ok {wanted : Wanted} {v : Json} {s : String} : text wanted (.value v) = .ok s ↔ v = .text s := by
  constructor
  · intro h
    cases v with
    | text s' =>
      cases h
      rfl
    | _ => cases h
  · rintro rfl
    rfl

/-- The fields of a record name one of some kinds, and hold as texts all the parameters that have to be there. A kind is
its name and those parameters. -/
def OfKind (kinds : List (String × List String)) (naming : String) (fs : List (String × Json)) (kind : String) : Prop :=
  ∃ needed, (kind, needed) ∈ kinds ∧ fs.lookup naming = some (.text kind) ∧
    ∀ n ∈ needed, ∃ s, fs.lookup n = some (.text s)

end RetreatDesk
