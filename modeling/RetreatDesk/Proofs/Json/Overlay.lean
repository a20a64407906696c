import RetreatDesk.Json.Overlay
import RetreatDesk.Proofs.Keyed.Entries

/-!
# What an overlay leaves behind

* `Json.Distinct`: no record inside a value gives two fields one name.
* `lookup_overlayFields`: what stands under a name after an overlay depends only on what stood there and on what the
  change says under that name.
* `keysOf_overlayFields`, `keysOf_settle`: the old names stay in front, in their order.
* `settle_settle`: a change settled once more changes nothing.
* `put_overlayFields`: a field set after an overlay might as well have been part of the change.
* `filter_overlayFields`: an overlay works on any choice of names by itself.
-/

namespace RetreatDesk.Json

/-- No record inside a value gives two fields one name. -/
inductive Distinct : Json → Prop
  | null : Distinct .null
  | bool (b : Bool) : Distinct (.bool b)
  | number (n : Number) : Distinct (.number n)
  | text (s : String) : Distinct (.text s)
  | list {items : List Json} (hitems : ∀ v ∈ items, Distinct v) : Distinct (.list items)
  | record {fields : List (String × Json)} (hnames : (keysOf fields).Nodup) (hvalues : ∀ e ∈ fields, Distinct e.2) :
      Distinct (.record fields)

theorem Distinct.names {fields : List (String × Json)} (h : Distinct (.record fields)) : (keysOf fields).Nodup := by
  cases h with
  | record hnames _ => exact hnames

theorem Distinct.values {fields : List (String × Json)} (h : Distinct (.record fields)) {k : String} {v : Json}
    (hv : fields.lookup k = some v) : v.Distinct := by
  cases h with
  | record _ hvalues => exact hvalues _ (mem_of_lookup hv)

theorem Distinct.filter {fields : List (String × Json)} (h : Distinct (.record fields)) (p : String × Json → Bool) :
    Distinct (.record (fields.filter p)) := by
  cases h with
  | record hnames hvalues =>
    exact .record (hnames.sublist (List.filter_sublist.map _)) fun e he => hvalues e (List.mem_of_mem_filter he)

theorem Distinct.singleton {k : String} {v : Json} (hv : v.Distinct) : Distinct (.record [(k, v)]) :=
  .record (List.nodup_singleton k) (by simpa using hv)

theorem Distinct.put {fields : List (String × Json)} (h : Distinct (.record fields)) (k : String) {v : Json}
    (hv : v.Distinct) : Distinct (.record (put k v fields)) := by
  cases h with
  | record hnames hvalues =>
    refine .record (nodup_keys_put k v hnames) fun e he => ?_
    rcases mem_put he with rfl | he
    · exact hv
    · exact hvalues e he

/-- What stands under a name after a change that may or may not name it. -/
def settled (before change : Option Json) : Option Json :=
  match change with
  | none => before
  | some v => some (settle before v)

theorem settled_none (before : Option Json) : settled before none = before := rfl

theorem settled_some (before : Option Json) (v : Json) : settled before (some v) = some (settle before v) := rfl

/-- Anything but a record replaces what was there. -/
theorem settle_of_not_record {v : Json} (h : v.isRecord = false) (before : Option Json) : settle before v = v := by
  cases v with
  | record fields => cases h
  | _ => rw [settle]

theorem fields_of_not_record {v : Json} (h : v.isRecord = false) : v.fields = [] := by
  cases v with
  | record fields => cases h
  | _ => rfl

/-- What stands under a name is a record to be merged into, or it is not. -/
theorem record_or_scalar (before : Option Json) :
    (∃ fields, before = some (.record fields)) ∨ ∀ w, before = some w → w.isRecord = false := by
  rcases before with - | w
  · exact .inr fun w hw => by cases hw
  cases w with
  | record fields => exact .inl ⟨fields, rfl⟩
  | _ => exact .inr fun w hw => by cases hw; rfl

/-- A record replaces what was no record. -/
theorem settle_on_scalar {before : Option Json} (h : ∀ w, before = some w → w.isRecord = false) (v : Json) :
    settle before v = v := by
  cases v with
  | record changes =>
    match before, h with
    | none, _ => rfl
    | some w, h =>
      have hw := h w rfl
      cases w with
      | record _ => cases hw
      | _ => rfl
  | _ => rw [settle]

theorem settle_record (fields changes : List (String × Json)) :
    settle (some (.record fields)) (.record changes) = .record (overlayFields fields changes) := by
  rw [settle]

/-- A record of changes leaves a record. -/
theorem exists_settle_record (t : Option Json) (changes : List (String × Json)) :
    ∃ fs, settle t (.record changes) = .record fs := by
  rcases record_or_scalar t with ⟨fs, rfl⟩ | hscalar
  · exact ⟨_, settle_record fs changes⟩
  · exact ⟨changes, settle_on_scalar hscalar _⟩

theorem overlayFields_cons (fields : List (String × Json)) (name : String) (v : Json)
    (rest : List (String × Json)) :
    overlayFields fields ((name, v) :: rest) =
      overlayFields (put name (settle (fields.lookup name) v) fields) rest := by
  rw [overlayFields]

theorem overlayFields_nil (fields : List (String × Json)) : overlayFields fields [] = fields := by
  rw [overlayFields]

/-! ## Looking up after an overlay -/

theorem lookup_overlayFields {changes : List (String × Json)} (hchanges : (keysOf changes).Nodup) (k : String)
    (fields : List (String × Json)) :
    (overlayFields fields changes).lookup k = settled (fields.lookup k) (changes.lookup k) := by
  induction changes generalizing fields with
  | nil => rw [overlayFields_nil]; rfl
  | cons e rest ih =>
    obtain ⟨name, v⟩ := e
    obtain ⟨hfresh, hrest⟩ := List.nodup_cons.mp hchanges
    rw [overlayFields_cons, ih hrest]
    by_cases h : k = name
    · subst h
      rw [lookup_eq_none_of_not_mem hfresh, List.lookup_cons_self, lookup_put_self, settled_none, settled_some]
    · rw [lookup_put_of_ne h, lookup_cons_of_ne h]

theorem nodup_overlayFields {fields : List (String × Json)} (h : (keysOf fields).Nodup)
    (changes : List (String × Json)) : (keysOf (overlayFields fields changes)).Nodup := by
  induction changes generalizing fields with
  | nil => rw [overlayFields_nil]; exact h
  | cons e rest ih =>
    rw [overlayFields_cons]
    exact ih (nodup_keys_put _ _ h)

theorem mem_append_freshNames {old new : List String} {n : String} (hn : n ∈ new) : n ∈ old ++ freshNames old new := by
  induction new generalizing old with
  | nil => cases hn
  | cons m rest ih =>
    rw [freshNames]
    rcases List.mem_cons.mp hn with rfl | hn
    · split
      · next hold => exact List.mem_append_left _ hold
      · exact List.mem_append_right _ List.mem_cons_self
    · split
      · exact ih hn
      · rw [List.append_cons]
        exact ih hn

/-- Fields under new names go last, as they are. -/
theorem overlayFields_of_fresh {fields changes : List (String × Json)}
    (h : (keysOf (fields ++ changes)).Nodup) : overlayFields fields changes = fields ++ changes := by
  induction changes generalizing fields with
  | nil => rw [overlayFields_nil, List.append_nil]
  | cons e rest ih =>
    obtain ⟨name, v⟩ := e
    have hfresh : name ∉ keysOf fields := by
      intro hmem
      rw [keysOf_append] at h
      exact (List.nodup_append.mp h).2.2 _ hmem _ List.mem_cons_self rfl
    have hsettle : settle (fields.lookup name) v = v := by
      rw [lookup_eq_none_of_not_mem hfresh]
      exact settle_on_scalar (fun w hw => by cases hw) v
    have hnodup : (keysOf ((fields ++ [(name, v)]) ++ rest)).Nodup := by
      rw [List.append_assoc, List.singleton_append]
      exact h
    rw [overlayFields_cons, hsettle, put_of_not_mem hfresh, ih hnodup, List.append_assoc, List.singleton_append]

theorem nil_overlayFields {changes : List (String × Json)} (h : (keysOf changes).Nodup) :
    overlayFields [] changes = changes := by
  rw [overlayFields_of_fresh (by rwa [List.nil_append]), List.nil_append]

theorem freshNames_eq_nil {old new : List String} (h : ∀ n ∈ new, n ∈ old) : freshNames old new = [] := by
  induction new with
  | nil => rfl
  | cons n rest ih =>
    rw [freshNames, if_pos (h n List.mem_cons_self)]
    exact ih fun m hm => h m (List.mem_cons_of_mem _ hm)

theorem freshNames_eq_filter {old new : List String} (h : new.Nodup) :
    freshNames old new = new.filter (· ∉ old) := by
  induction new generalizing old with
  | nil => rfl
  | cons n rest ih =>
    obtain ⟨hfresh, hrest⟩ := List.nodup_cons.mp h
    rw [freshNames]
    by_cases hold : n ∈ old
    · rw [if_pos hold, ih hrest, List.filter_cons_of_neg (by simpa using hold)]
    · have hlater : rest.filter (· ∉ old ++ [n]) = rest.filter (· ∉ old) := by
        refine List.filter_congr fun m hm => ?_
        have hne : m ≠ n := fun heq => hfresh (heq ▸ hm)
        simp [hne]
      rw [if_neg hold, ih hrest, hlater, List.filter_cons_of_pos (by simpa using hold)]

/-- The old names in their order, then those of the new names that are not among them, in theirs. -/
def overlayNames (old new : List String) : List String := old ++ new.filter (· ∉ old)

theorem keysOf_overlayFields (fields : List (String × Json)) {changes : List (String × Json)}
    (h : (keysOf changes).Nodup) :
    keysOf (overlayFields fields changes) = overlayNames (keysOf fields) (keysOf changes) := by
  rw [overlay_keys, freshNames_eq_filter h, overlayNames]

/-- A record of changes makes a record of anything, a value that is no record counting as an empty one. -/
theorem settle_eq_record {changes : List (String × Json)} (h : (keysOf changes).Nodup) (t : Option Json) :
    settle t (.record changes) = .record (overlayFields (t.elim [] fields) changes) := by
  rcases record_or_scalar t with ⟨fs, rfl⟩ | hscalar
  · rw [settle_record]
    rfl
  · have hnone : t.elim [] fields = [] := by
      cases t with
      | none => rfl
      | some w => exact fields_of_not_record (hscalar w rfl)
    rw [settle_on_scalar hscalar, hnone, nil_overlayFields h]

theorem keysOf_settle {changes : List (String × Json)} (h : (keysOf changes).Nodup) (t : Option Json) :
    keysOf (settle t (.record changes)).fields = overlayNames (keysOf (t.elim [] fields)) (keysOf changes) := by
  rw [settle_eq_record h]
  exact keysOf_overlayFields _ h

/-- Names that come from a change are in place when the change is laid over them again. -/
theorem keysOf_overlayFields_again {base fields changes : List (String × Json)}
    (h : keysOf fields = keysOf (overlayFields base changes)) :
    keysOf (overlayFields fields changes) = keysOf fields := by
  rw [overlay_keys, freshNames_eq_nil, List.append_nil]
  intro n hn
  rw [h, overlay_keys]
  exact mem_append_freshNames hn

/-! ## Settling again -/

/-- An overlay of fields that all are settled already changes nothing. -/
theorem overlayFields_of_settled {fields changes : List (String × Json)}
    (h : ∀ e ∈ changes, ∃ w, fields.lookup e.1 = some w ∧ settle (some w) e.2 = w) :
    overlayFields fields changes = fields := by
  induction changes with
  | nil => exact overlayFields_nil fields
  | cons e rest ih =>
    obtain ⟨name, v⟩ := e
    obtain ⟨w, hw, hsettle⟩ := h (name, v) List.mem_cons_self
    have hput : put name (settle (fields.lookup name) v) fields = fields := by
      rw [hw, hsettle]
      exact put_of_lookup hw
    rw [overlayFields_cons, hput]
    exact ih fun e' he' => h e' (List.mem_cons_of_mem _ he')

theorem overlayFields_again {changes : List (String × Json)} (hnames : (keysOf changes).Nodup)
    (hvalues : ∀ e ∈ changes, ∀ before, settle (some (settle before e.2)) e.2 = settle before e.2)
    (fields : List (String × Json)) :
    overlayFields (overlayFields fields changes) changes = overlayFields fields changes := by
  refine overlayFields_of_settled fun e he => ?_
  refine ⟨settle (fields.lookup e.1) e.2, ?_, hvalues e he _⟩
  rw [lookup_overlayFields hnames, lookup_of_mem hnames he, settled_some]

/-- A change settled once more changes nothing. The induction is on the change: under every name of a record the
change settles again what it has settled there. -/
theorem settle_settle {v : Json} (hv : v.Distinct) (before : Option Json) :
    settle (some (settle before v)) v = settle before v := by
  induction hv generalizing before with
  | @record changes hnames _ ih =>
    have hagain := overlayFields_again hnames fun e he before => ih e he before
    rcases record_or_scalar before with ⟨fields, rfl⟩ | hscalar
    · rw [settle_record, settle_record, hagain]
    · have hself := hagain []
      rw [nil_overlayFields hnames] at hself
      rw [settle_on_scalar hscalar, settle_record, hself]
  | _ => rw [settle_of_not_record rfl, settle_of_not_record rfl]

theorem settled_settled {change : Option Json} (h : ∀ v ∈ change, v.Distinct) (before : Option Json) :
    settled (settled before change) change = settled before change := by
  cases change with
  | none => rfl
  | some v => rw [settled_some, settled_some, settle_settle (h v rfl)]

theorem Distinct.overlayFields_again {changes : List (String × Json)} (h : Distinct (.record changes))
    (fields : List (String × Json)) :
    overlayFields (overlayFields fields changes) changes = overlayFields fields changes := by
  cases h with
  | record hnames hvalues =>
    exact Json.overlayFields_again hnames (fun e he before => settle_settle (hvalues e he) before) fields

/-! ## Setting a field after an overlay -/

theorem put_overlayFields_of_mem {k : String} {v : Json} {changes : List (String × Json)}
    (hk : k ∉ keysOf changes) {fields : List (String × Json)} (hmem : k ∈ keysOf fields) :
    put k v (overlayFields fields changes) = overlayFields (put k v fields) changes := by
  induction changes generalizing fields with
  | nil => rw [overlayFields_nil, overlayFields_nil]
  | cons e rest ih =>
    obtain ⟨name, w⟩ := e
    rw [keysOf_cons, List.mem_cons, not_or] at hk
    have hmem' : k ∈ keysOf (put name (settle (fields.lookup name) w) fields) := by
      rw [keys_put]
      split
      · exact hmem
      · exact List.mem_append_left _ hmem
    rw [overlayFields_cons, overlayFields_cons, ih hk.2 hmem', put_comm (Ne.symm hk.1) _ _ hmem,
      lookup_put_of_ne (Ne.symm hk.1)]

/-- A field set after an overlay might as well have been part of the change. -/
theorem put_overlayFields {k : String} {v : Json} (hv : v.isRecord = false) {changes : List (String × Json)}
    (hchanges : (keysOf changes).Nodup) (fields : List (String × Json)) :
    put k v (overlayFields fields changes) = overlayFields fields (put k v changes) := by
  induction changes generalizing fields with
  | nil => rw [overlayFields_nil, put, overlayFields_cons, overlayFields_nil, settle_of_not_record hv]
  | cons e rest ih =>
    obtain ⟨name, w⟩ := e
    obtain ⟨hfresh, hrest⟩ := List.nodup_cons.mp hchanges
    by_cases h : name = k
    · subst h
      have hmem : name ∈ keysOf (put name (settle (fields.lookup name) w) fields) :=
        mem_keysOf_of_lookup (lookup_put_self _ _ _)
      rw [overlayFields_cons, put_overlayFields_of_mem hfresh hmem, put_put_self, put, if_pos rfl,
        overlayFields_cons, settle_of_not_record hv]
    · rw [overlayFields_cons, put, if_neg h, overlayFields_cons, ih hrest]

/-! ## Some of the names -/

theorem lookup_filter {p : String → Bool} {k : String} (hk : p k = true) (fields : List (String × Json)) :
    (fields.filter fun e => p e.1).lookup k = fields.lookup k := by
  induction fields with
  | nil => rfl
  | cons e rest ih =>
    obtain ⟨name, v⟩ := e
    by_cases h : k = name
    · subst h
      rw [List.filter_cons, if_pos hk, List.lookup_cons_self, List.lookup_cons_self]
    · rw [lookup_cons_of_ne h, List.filter_cons]
      split
      · rw [lookup_cons_of_ne h, ih]
      · exact ih

theorem filter_put {p : String → Bool} (k : String) (v : Json) (fields : List (String × Json)) :
    (put k v fields).filter (fun e => p e.1) =
      if p k = true then put k v (fields.filter fun e => p e.1) else fields.filter fun e => p e.1 := by
  induction fields with
  | nil => by_cases hp : p k = true <;> simp [put, hp]
  | cons e rest ih =>
    obtain ⟨name, w⟩ := e
    by_cases h : name = k
    · subst h
      by_cases hp : p name = true <;> simp [put, hp]
    · by_cases hp : p k = true <;> by_cases hn : p name = true <;> simp_all [put]

/-- An overlay works on any choice of names by itself. -/
theorem filter_overlayFields (p : String → Bool) (fields changes : List (String × Json)) :
    (overlayFields fields changes).filter (fun e => p e.1) =
      overlayFields (fields.filter fun e => p e.1) (changes.filter fun e => p e.1) := by
  induction changes generalizing fields with
  | nil => rw [overlayFields_nil, List.filter_nil, overlayFields_nil]
  | cons e rest ih =>
    obtain ⟨name, v⟩ := e
    rw [overlayFields_cons, ih, filter_put, List.filter_cons]
    by_cases h : p name = true
    · rw [if_pos h, if_pos h, overlayFields_cons, lookup_filter h]
    · rw [if_neg h, if_neg h]

end RetreatDesk.Json
