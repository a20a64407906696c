import RetreatDesk.Demo.Registry
import RetreatDesk.Proofs.Registry.Slots

/-!
# Fields by their stored names

A field is addressed by the name under which it is stored, whether it has a place of its own or is kept as it came. So
three lists of names have to agree: the fields that are declared, those that are looked up and those that are written.

* `Layout.Described.keeps_of_read`: what is kept besides never has the name of a declared field.
* `looked_up_as_written`: a field that is looked up by name is what is written under that name.
* `Program.flag_eq`, `Program.mapFlag_eq`, `Program.mapKeys_eq`: the fields of a program, looked up in the document that it
  was read from.
* `Program.addressed_as_stored`: where a field ends up makes no difference to whoever looks it up.
-/

namespace RetreatDesk

open Json

/-! ## What is kept -/

namespace Layout.Described

variable {α : Type} {l : Layout α} {slots : List (Slot α)} {rest : α → List (String × Json)} (d : l.Described slots rest)

include d

/-- What is kept besides never has the name of a declared field, as long as declared fields leave it alone. -/
theorem keeps_of_read
    (hset : ∀ {k : String} {doc : Draft} {a b : α}, l.set k doc a = .ok b → rest b = rest a) {doc : Draft} {x : α}
    (h : l.read doc = .ok x) : ∀ n ∈ keysOf (rest x), l.keeps n = true := by
  refine l.read_invariant (P := fun a => ∀ n ∈ keysOf (rest a), l.keeps n = true) (Q := fun _ => True)
    (fun {a b k d'} _ ha hb => ?_) (fun _ _ _ _ => trivial) (fun _ _ _ _ => trivial) (by simp [d.rest_blank]) h
  unfold take at hb
  split at hb
  · rw [hset hb]
    exact ha
  · next hk =>
    unfold other at hb
    split at hb
    · next keep hkeep =>
      obtain ⟨v, -, hb⟩ := bind_eq_ok.mp hb
      cases hb
      rw [d.rest_keep keep hkeep]
      intro n hn
      rw [keys_put] at hn
      split at hn
      · exact ha n hn
      · rcases List.mem_append.mp hn with hn | hn
        · exact ha n hn
        · rw [List.mem_singleton.mp hn, keeps, hkeep]
          simp [hk]
    · obtain ⟨-, -, hb⟩ := bind_eq_ok.mp hb
      cases hb
      exact ha

end Layout.Described

theorem Participant.extra_of_set {name : String} {doc : Draft} {p q : Participant} (h : layout.set name doc p = .ok q) :
    q.extra = p.extra := by
  simp only [layout] at h
  split at h
  case h_12 =>
    cases h
    rfl
  all_goals
    obtain ⟨_, -, h⟩ := bind_eq_ok.mp h
    cases h
    rfl

theorem Program.extra_of_set {name : String} {doc : Draft} {r r' : Program} (h : layout.set name doc r = .ok r') :
    r'.extra = r.extra := by
  simp only [layout] at h
  split at h
  case h_14 =>
    cases h
    rfl
  all_goals
    obtain ⟨_, -, h⟩ := bind_eq_ok.mp h
    cases h
    rfl

/-! ## Written fields -/

namespace Layout.Described

variable {α : Type} {l : Layout α} {slots : List (Slot α)} {rest : α → List (String × Json)} (d : l.Described slots rest)

include d

/-- What is written under the name of a slot is what the slot writes. -/
theorem lookup_slot {x : α} (hx : ∀ n ∈ keysOf (rest x), l.keeps n = true) {s : Slot α} (hs : s ∈ slots) :
    (Slot.written slots x ++ rest x).lookup s.name = s.write (s.get x) := by
  rw [d.lookup_fields hx, d.partAt_slot hs]
  rfl

/-- What is written under any other name is what has been kept under it. -/
theorem lookup_undeclared {k : String} (hk : k ∉ l.fields) (x : α) :
    (Slot.written slots x ++ rest x).lookup k = (rest x).lookup k := by
  have hwritten : k ∉ keysOf (Slot.written slots x) := fun hmem =>
    hk (d.fields_eq ▸ (keysOf_written x).subset hmem)
  rw [List.lookup_append, lookup_eq_none_of_not_mem hwritten, Option.none_or]

theorem rest_lookup_of_declared {x : α} (hx : ∀ n ∈ keysOf (rest x), l.keeps n = true) {k : String}
    (hk : k ∈ l.fields) : (rest x).lookup k = none :=
  lookup_eq_none_of_not_mem fun hmem => d.disjoint_written hx hmem (d.fields_eq ▸ hk)

/-- If a look-up finds what each slot writes, save in some slots where it finds nothing, and what has been kept under any
other name, then it finds what is written, save under the names of those slots. -/
theorem looked_up {x : α} (hx : ∀ n ∈ keysOf (rest x), l.keeps n = true) {find : String → Option Json}
    {hidden : List String} (hslots : ∀ s ∈ slots, find s.name = if s.name ∈ hidden then none else s.write (s.get x))
    (hrest : ∀ k, k ∉ l.fields → k ∉ hidden ∧ find k = (rest x).lookup k) (k : String) :
    find k = if k ∈ hidden then none else (Slot.written slots x ++ rest x).lookup k := by
  by_cases hk : k ∈ l.fields
  · obtain ⟨s, hs, rfl⟩ := d.declared.mp hk
    rw [d.lookup_slot hx hs]
    exact hslots s hs
  · obtain ⟨hshown, hfind⟩ := hrest k hk
    rw [if_neg hshown, d.lookup_undeclared hk, hfind]

end Layout.Described

namespace Participant

/-- The fields that hold entries and are not looked up as one value. -/
def collections : List String := ["programs", "practice", "emails"]

theorem value?_of_undeclared {name : String} (hname : name ∉ layout.fields) (p : Participant) :
    p.value? name = p.extra.get? name := by
  unfold value?
  split
  case h_9 => rfl
  all_goals exact absurd (by decide) hname

theorem kept_of_read {doc : Draft} {p : Participant} (h : layout.read doc = .ok p) :
    ∀ n ∈ keysOf p.extra.entries, layout.keeps n = true :=
  described.keeps_of_read (fun hset => congrArg Listed.entries (extra_of_set hset)) h

theorem value?_eq {doc : Draft} {p : Participant} (h : layout.read doc = .ok p) (name : String) :
    p.value? name = if name ∈ collections then none else p.toJson.get? name := by
  have hkept := kept_of_read h
  have hnone : ∀ k ∈ layout.fields, p.extra.get? k = none := fun k => described.rest_lookup_of_declared hkept
  rw [toJson_eq]
  refine described.looked_up hkept ?_ (fun k hk => ⟨fun hmem => ?_, value?_of_undeclared hk p⟩) name
  · simp only [slots, List.forall_mem_cons]
    exact ⟨rfl, rfl, rfl, rfl, hnone "programs" (by decide), hnone "practice" (by decide), hnone "emails" (by decide),
      rfl, rfl, rfl, rfl, by simp⟩
  · have hdeclared : ∀ k ∈ collections, k ∈ layout.fields := by decide
    exact hk (hdeclared k hmem)

end Participant

namespace Program

/-- The fields that hold entries and are not looked up as one value. -/
def collections : List String := ["whichRetreats", "offeringHistory"]

theorem value?_of_undeclared {name : String} (hname : name ∉ layout.fields) (r : Program) :
    r.value? name = r.extra.get? name := by
  unfold value?
  split
  case h_12 => rfl
  all_goals exact absurd (by decide) hname

theorem kept_of_read {doc : Draft} {r : Program} (h : layout.read doc = .ok r) :
    ∀ n ∈ keysOf r.extra.entries, layout.keeps n = true :=
  described.keeps_of_read (fun hset => congrArg Listed.entries (extra_of_set hset)) h

theorem value?_eq {doc : Draft} {r : Program} (h : layout.read doc = .ok r) (name : String) :
    r.value? name = if name ∈ collections then none else r.toJson.get? name := by
  have hkept := kept_of_read h
  have hnone : ∀ k ∈ layout.fields, r.extra.get? k = none := fun k => described.rest_lookup_of_declared hkept
  rw [toJson_eq]
  refine described.looked_up hkept ?_ (fun k hk => ⟨fun hmem => ?_, value?_of_undeclared hk r⟩) name
  · simp only [slots, List.forall_mem_cons]
    exact ⟨rfl, rfl, rfl, rfl, rfl, rfl, rfl, rfl, rfl, rfl, rfl, hnone "whichRetreats" (by decide),
      hnone "offeringHistory" (by decide), by simp⟩
  · have hdeclared : ∀ k ∈ collections, k ∈ layout.fields := by decide
    exact hk (hdeclared k hmem)

end Program

/-- Whatever is looked up by name, of a person or of a program that has been read from any document, is what is written
under that name, and nothing where nothing is written. No name is written twice. The fields that hold entries are the
only ones that are written and not looked up. -/
theorem looked_up_as_written :
    (∀ {doc : Draft} {p : Participant}, Participant.layout.read doc = .ok p →
      (keysOf p.toJson.fields).Nodup ∧
        ∀ name, p.value? name = if name ∈ Participant.collections then none else p.toJson.get? name) ∧
    ∀ {doc : Draft} {r : Program}, Program.layout.read doc = .ok r →
      (keysOf r.toJson.fields).Nodup ∧
        ∀ name, r.value? name = if name ∈ Program.collections then none else r.toJson.get? name := by
  constructor
  · intro doc p h
    refine ⟨?_, p.value?_eq h⟩
    rw [Participant.toJson_eq]
    exact Participant.described.nodup_fields (Participant.kept_of_read h)
  · intro doc r h
    refine ⟨?_, r.value?_eq h⟩
    rw [Program.toJson_eq]
    exact Program.described.nodup_fields (Program.kept_of_read h)

/-- A newcomer with a number for an id, a language left blank and a field without a meaning, whose registration has a mark
of the organisers and a map besides the retreats. -/
theorem looked_up_as_written_newcomer : ∃ p r,
    Participant.layout.read (.value (.record [("diet", .text "vegan"), ("id", .number (.whole 7)),
      ("spokenLangPref", .text " "), ("programs", .null)])) = .ok p ∧
    Program.layout.read (.value (.record [("meals", .record [("lunch", .bool true)]), ("join", .text "yes"),
      ("whichRetreats", .record [("icw1", .bool true)])])) = .ok r ∧
    ((keysOf p.toJson.fields).Nodup ∧
      ∀ name, p.value? name = if name ∈ Participant.collections then none else p.toJson.get? name) ∧
    (keysOf r.toJson.fields).Nodup ∧
      ∀ name, r.value? name = if name ∈ Program.collections then none else r.toJson.get? name :=
  have hp := rfl
  have hr := rfl
  ⟨_, _, hp, hr, looked_up_as_written.1 hp, looked_up_as_written.2 hr⟩

/-! ## Fields in the document -/

theorem Json.Distinct.of_get? {v w : Json} (h : v.Distinct) {k : String} (hw : v.get? k = some w) : w.Distinct := by
  cases v with
  | record fs => exact h.values hw
  | _ => cases hw

/-- A flag is the truth of what stands under its name. -/
theorem Facet.flag_eq_any {t : Option Json} {b : Bool} (h : flag.fits t b) : b = t.any isSet := by
  cases t with
  | none => exact (Option.some.inj h).symm
  | some v => exact (Except.ok.inj h).symm

/-- Listed flags are the truths of the entries that stand under their name. -/
theorem Facet.listed_flags_eq {t : Option Json} (ht : ∀ v ∈ t, v.Distinct) {m : Listed Bool}
    (h : (listed Reader.flag .bool).fits t m) :
    m.entries = (t.elim [] fields).map fun e => (e.1, e.2.isSet) := by
  cases t with
  | none =>
    cases h
    rfl
  | some v =>
    cases v with
    | record fs => exact entries_of_flags (ht _ rfl).names h
    | _ =>
      cases h
      try rfl

namespace Program

section
variable {v : Json} (hv : v.Distinct) {r : Program} (h : layout.read (.value v) = .ok r)

include hv h

/-- Every declared field is read off what stands under its name, and the other fields are kept as they stand. -/
theorem fits_of_read : (∀ s ∈ slots, s.facet.fits (v.get? s.name) r) ∧
    ∀ k, k ∉ layout.fields → r.extra.get? k = v.get? k := by
  cases v with
  | record fs =>
    obtain ⟨hslots, hextra⟩ := (described.read_record_iff hv.names).mp h
    refine ⟨hslots, fun k hk => ?_⟩
    have hkeeps : layout.keeps k = true := by simpa [Layout.keeps, layout] using hk
    rw [Listed.get?, hextra, Layout.kept, lookup_filter hkeeps]
    rfl
  | _ => cases h

theorem flag_eq {name : String} (hname : name ∉ collections) : r.flag name = (v.get? name).any isSet := by
  obtain ⟨hslots, hextra⟩ := fits_of_read hv h
  by_cases hdeclared : name ∈ layout.fields
  · obtain ⟨s, hs, rfl⟩ := described.declared.mp hdeclared
    have hflags : ∀ s ∈ slots, s.name ∈ collections ∨
        (s.facet.fits (v.get? s.name) r → r.flag s.name = (v.get? s.name).any isSet) := by
      simp only [slots, List.forall_mem_cons]
      exact ⟨.inr Facet.flag_eq_any, .inr Facet.flag_eq_any, .inr Facet.flag_eq_any, .inr Facet.flag_eq_any,
        .inr Facet.flag_eq_any, .inr Facet.flag_eq_any, .inr Facet.flag_eq_any, .inr Facet.flag_eq_any,
        .inr Facet.flag_eq_any, .inr Facet.flag_eq_any, .inr Facet.flag_eq_any, .inl (by decide), .inl (by decide),
        by simp⟩
    exact (hflags s hs).resolve_left hname (hslots s hs)
  · rw [flag, value?_of_undeclared hdeclared, hextra name hdeclared]

theorem picks_eq : r.whichRetreats.entries = ((v.get? retreatsMap).elim [] fields).map fun e => (e.1, e.2.isSet) := by
  have hslot : (Facet.listed Reader.flag .bool).fits (v.get? retreatsMap) r.whichRetreats :=
    (fits_of_read hv h).1 _ (@List.getElem_mem _ slots 11 (by decide))
  exact Facet.listed_flags_eq (fun w hw => hv.of_get? hw) hslot

theorem mapFlag_eq {map : String} (hmap : map = retreatsMap ∨ map ∉ layout.fields) (key : String) :
    r.mapFlag map key = ((v.get? map).bind (·.get? key)).map isSet := by
  have hlookup : ∀ t : Option Json, (t.elim [] fields).lookup key = t.bind (·.get? key) := fun t => by
    cases t <;> rfl
  unfold mapFlag
  split
  · next hretreats =>
    rw [Listed.get?, picks_eq hv h, lookup_map, hlookup, hretreats]
  · next hother =>
    rw [(fits_of_read hv h).2 map (hmap.resolve_left hother)]

theorem mapKeys_eq {map : String} (hmap : map = retreatsMap ∨ map ∉ layout.fields) :
    r.mapKeys map = (((v.get? map).elim [] fields).filter fun e => e.2.isSet).map (·.1) := by
  unfold mapKeys
  split
  · next hretreats =>
    rw [picks_eq hv h, hretreats, List.filter_map, List.map_map]
    rfl
  · next hother =>
    have hkeys : ∀ fs : List (String × Json), (fs.filterMap fun e => if e.2.isSet then some e.1 else none) =
        (fs.filter fun e => e.2.isSet).map (·.1) := fun fs => by
      rw [← List.filterMap_eq_filter, List.map_filterMap]
      refine List.filterMap_congr fun e _ => ?_
      by_cases hset : e.2.isSet = true <;> simp [Option.guard, hset]
    rw [(fits_of_read hv h).2 map (hmap.resolve_left hother)]
    cases v.get? map with
    | none => rfl
    | some w => exact hkeys w.fields

end

theorem get?_eq_some_iff {u w : Json} {key : String} :
    u.get? key = some w ↔ ∃ entries, u = .record entries ∧ entries.lookup key = some w := by
  constructor
  · intro h
    cases u with
    | record entries => exact ⟨entries, rfl, h⟩
    | _ => cases h
  · rintro ⟨entries, rfl, h⟩
    exact h

/-- Where a field of a program ends up makes no difference to whoever looks it up: flags, declared or not, are the truths
of what stands under their names, and so are the entries of a map; the keys of a map are those of its entries that say
yes, in the order of the document. -/
theorem addressed_as_stored {v : Json} (hv : v.Distinct) {r : Program} (h : layout.read (.value v) = .ok r) :
    (∀ name, name ∉ collections → r.flag name = (v.get? name).any isSet) ∧
    ∀ map, map = retreatsMap ∨ map ∉ layout.fields →
      (∀ key b, r.mapFlag map key = some b ↔ ∃ entries w,
        v.get? map = some (.record entries) ∧ entries.lookup key = some w ∧ w.isSet = b) ∧
      r.mapKeys map = (((v.get? map).elim [] fields).filter fun e => e.2.isSet).map (·.1) := by
  refine ⟨fun name => flag_eq hv h, fun map hmap => ⟨fun key b => ?_, mapKeys_eq hv h hmap⟩⟩
  rw [mapFlag_eq hv h hmap, Option.map_eq_some_iff]
  constructor
  · rintro ⟨w, hw, hset⟩
    obtain ⟨u, hu, hentry⟩ := Option.bind_eq_some_iff.mp hw
    obtain ⟨entries, rfl, hlookup⟩ := get?_eq_some_iff.mp hentry
    exact ⟨entries, w, hu, hlookup, hset⟩
  · rintro ⟨entries, w, hu, hlookup, hset⟩
    exact ⟨w, Option.bind_eq_some_iff.mpr ⟨_, hu, hlookup⟩, hset⟩

/-- A registration with flags of several kinds, retreats and a map besides. -/
def feast : Json :=
  .record [("meals", .record [("lunch", .bool true), ("dinner", .number (.whole 0))]), ("join", .text "yes"),
    ("whichRetreats", .record [("icw2", .bool true), ("icw1", .null), ("icw3", .text "x")]), ("vegan", .list []),
    ("attended", .null)]

theorem distinct_feast : feast.Distinct := by
  refine .record (by decide) ?_
  simp only [List.forall_mem_cons]
  refine ⟨.record (by decide) ?_, .text _, .record (by decide) ?_, .list (by simp), .null, by simp⟩
  · simp [Distinct.bool, Distinct.number]
  · simp [Distinct.bool, Distinct.null, Distinct.text]

theorem addressed_as_stored_feast : feast.Distinct ∧ ∃ r, layout.read (.value feast) = .ok r ∧
    r.flag "join" = true ∧ r.flag "vegan" = false ∧ r.mapFlag "meals" "lunch" = some true ∧
    r.mapKeys "meals" = ["lunch"] ∧ r.mapKeys retreatsMap = ["icw2", "icw3"] := by
  have hread : layout.read (.value feast) = .ok _ := rfl
  obtain ⟨hflag, hmap⟩ := addressed_as_stored distinct_feast hread
  obtain ⟨hmeal, hmeals⟩ := hmap "meals" (.inr (by decide))
  refine ⟨distinct_feast, _, hread, hflag "join" (by decide), hflag "vegan" (by decide), ?_, hmeals,
    (hmap retreatsMap (.inl rfl)).2⟩
  exact (hmeal "lunch" true).mpr ⟨_, _, rfl, rfl, rfl⟩

end Program

end RetreatDesk
