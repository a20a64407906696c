import RetreatDesk.Proofs.Json.Overlay
import Mathlib.Data.List.Forall2
import Mathlib.Data.List.Perm.Basic

/-!
# Changes in either order

Two changes that do not contradict each other can be laid over a value in either order. The second finds what the first
has left: a record it merges into, or a record that has just replaced a text. What comes out is the same but for the order
of names.

* `Json.Alike`: values that differ in nothing but the order of names.
* `Json.Compatible`: changes that share no name, except for records that are compatible again.
* `overlay_comm`: compatible changes may be laid over a value in either order.
-/

namespace RetreatDesk.Json

/-- Values that differ in nothing but the order of names, on whatever level. -/
inductive Alike : Json → Json → Prop
  | null : Alike .null .null
  | bool (b : Bool) : Alike (.bool b) (.bool b)
  | number (n : Number) : Alike (.number n) (.number n)
  | text (s : String) : Alike (.text s) (.text s)
  | list {items items' : List Json} (hitems : List.Forall₂ Alike items items') : Alike (.list items) (.list items')
  | record {fields fields' : List (String × Json)} (hnames : (keysOf fields).Perm (keysOf fields'))
      (hvalues : ∀ k v v', fields.lookup k = some v → fields'.lookup k = some v' → Alike v v') :
      Alike (.record fields) (.record fields')

theorem Alike.refl (v : Json) : Alike v v := by
  match v with
  | .null => exact .null
  | .bool b => exact .bool b
  | .number n => exact .number n
  | .text s => exact .text s
  | .list items => exact .list (List.forall₂_same.mpr fun w _ => Alike.refl w)
  | .record fields =>
    refine .record (.refl _) fun k w w' hw hw' => ?_
    have hmem := mem_of_lookup hw
    obtain rfl := Option.some.inj (hw.symm.trans hw')
    exact Alike.refl w
termination_by sizeOf v
decreasing_by
  · have hlt := List.sizeOf_lt_of_mem ‹w ∈ items›
    simp
    omega
  · have hlt := List.sizeOf_lt_of_mem hmem
    simp at hlt ⊢
    omega

/-- Wherever two changes name the same field both have a record for it, and these are compatible again. -/
inductive Compatible : List (String × Json) → List (String × Json) → Prop
  | intro {changes changes' : List (String × Json)}
      (hrecords : ∀ k v v', changes.lookup k = some v → changes'.lookup k = some v' →
        (∃ inner, v = .record inner) ∧ ∃ inner', v' = .record inner')
      (hinner : ∀ k inner inner', changes.lookup k = some (.record inner) → changes'.lookup k = some (.record inner') →
        Compatible inner inner') :
      Compatible changes changes'

theorem Compatible.of_mem {changes changes' : List (String × Json)}
    (h : ∀ e ∈ changes, ∀ v', changes'.lookup e.1 = some v' →
      ∃ inner inner', e.2 = .record inner ∧ v' = .record inner' ∧ Compatible inner inner') :
    Compatible changes changes' := by
  constructor
  · intro k v v' hv hv'
    obtain ⟨inner, inner', hinner, hinner', -⟩ := h (k, v) (mem_of_lookup hv) v' hv'
    exact ⟨⟨inner, hinner⟩, inner', hinner'⟩
  · intro k inner inner' hinner hinner'
    obtain ⟨_, _, heq, heq', hcompatible⟩ := h (k, .record inner) (mem_of_lookup hinner) _ hinner'
    cases heq
    cases heq'
    exact hcompatible

/-- Changes without a name in common get along. -/
theorem Compatible.of_disjoint {changes changes' : List (String × Json)}
    (h : ∀ n ∈ keysOf changes, n ∉ keysOf changes') : Compatible changes changes' :=
  .of_mem fun e he _ hv' => absurd (mem_keysOf_of_lookup hv') (h e.1 (List.mem_map_of_mem he))

/-! ## Names -/

/-- In either order the old names stay in front, and each new name comes once. -/
theorem overlayNames_comm (old : List String) {new new' : List String} (hnew : new.Nodup) (hnew' : new'.Nodup) :
    (overlayNames (overlayNames old new) new').Perm (overlayNames (overlayNames old new') new) := by
  have hadded : ∀ {a b : List String}, a.Nodup → b.Nodup →
      (a.filter (· ∉ old) ++ b.filter (· ∉ overlayNames old a)).Nodup := by
    intro a b ha hb
    refine List.nodup_append.mpr ⟨ha.filter _, hb.filter _, ?_⟩
    rintro n hn _ hn' rfl
    simp_all [overlayNames]
  have hmem : ∀ n, n ∈ new.filter (· ∉ old) ++ new'.filter (· ∉ overlayNames old new) ↔
      n ∈ new'.filter (· ∉ old) ++ new.filter (· ∉ overlayNames old new') := by
    intro n
    simp only [overlayNames, List.mem_append, List.mem_filter, decide_eq_true_eq]
    tauto
  rw [overlayNames, overlayNames, overlayNames, overlayNames, List.append_assoc, List.append_assoc]
  exact ((List.perm_ext_iff_of_nodup (hadded hnew hnew') (hadded hnew' hnew)).mpr hmem).append_left old

/-! ## Values -/

/-- Two records of changes, one after the other, merge into the same place, whatever was there. -/
theorem settled_records {inner inner' : List (String × Json)} (h : (keysOf inner).Nodup) (h' : (keysOf inner').Nodup)
    (before : Option Json) :
    settled (settled before (some (.record inner))) (some (.record inner')) =
      some (.record (overlayFields (overlayFields (before.elim [] fields) inner) inner')) := by
  rw [settled_some, settled_some, settle_eq_record h, settle_eq_record h']
  rfl

theorem lookup_overlayFields_twice {changes changes' : List (String × Json)} (h : (keysOf changes).Nodup)
    (h' : (keysOf changes').Nodup) (k : String) (fields : List (String × Json)) :
    (overlayFields (overlayFields fields changes) changes').lookup k =
      settled (settled (fields.lookup k) (changes.lookup k)) (changes'.lookup k) := by
  rw [lookup_overlayFields h', lookup_overlayFields h]

/-- The induction is on how the changes get along. Under a name that both of them have, the one is laid over what the
other has left, and there they get along again. -/
theorem overlayFields_comm {changes changes' : List (String × Json)} (h : Compatible changes changes')
    (hchanges : (record changes).Distinct) (hchanges' : (record changes').Distinct) (fields : List (String × Json)) :
    Alike (.record (overlayFields (overlayFields fields changes) changes'))
      (.record (overlayFields (overlayFields fields changes') changes)) := by
  induction h generalizing fields with
  | @intro changes changes' hrecords _ ih =>
    have hnames := hchanges.names
    have hnames' := hchanges'.names
    apply Alike.record
    · rw [keysOf_overlayFields _ hnames', keysOf_overlayFields _ hnames, keysOf_overlayFields _ hnames,
        keysOf_overlayFields _ hnames']
      exact overlayNames_comm _ hnames hnames'
    · intro k v v' hv hv'
      rw [lookup_overlayFields_twice hnames hnames'] at hv
      rw [lookup_overlayFields_twice hnames' hnames] at hv'
      cases hw : changes.lookup k with
      | none =>
        rw [hw, settled_none] at hv hv'
        obtain rfl := Option.some.inj (hv.symm.trans hv')
        exact .refl v
      | some w =>
        cases hw' : changes'.lookup k with
        | none =>
          rw [hw', settled_none] at hv hv'
          obtain rfl := Option.some.inj (hv.symm.trans hv')
          exact .refl v
        | some w' =>
          obtain ⟨⟨inner, rfl⟩, inner', rfl⟩ := hrecords k w w' hw hw'
          have hinner := hchanges.values hw
          have hinner' := hchanges'.values hw'
          rw [hw, hw', settled_records hinner.names hinner'.names] at hv
          rw [hw, hw', settled_records hinner'.names hinner.names] at hv'
          cases hv
          cases hv'
          exact ih k inner inner' hw hw' hinner hinner' _

/-- Changes that get along may be laid over a value in either order. What comes out differs in the order of names alone. -/
theorem overlay_comm {changes changes' : List (String × Json)} (h : Compatible changes changes')
    (hchanges : (record changes).Distinct) (hchanges' : (record changes').Distinct) (target : Json) :
    Alike ((target.overlay changes).overlay changes') ((target.overlay changes').overlay changes) :=
  overlayFields_comm h hchanges hchanges' target.fields

/-- Somebody whose bed and telephone are still plain texts. -/
def lodger : Json :=
  .record [("phone", .text "555"), ("room", .record [("bed", .text "upper"), ("floor", .text "2")])]

/-- What the kitchen has heard. -/
def kitchenNews : List (String × Json) :=
  [("phone", .record [("home", .text "556")]), ("diet", .list [.text "vegan"]),
    ("room", .record [("bed", .record [("side", .text "left")])])]

/-- What the porter has heard. -/
def porterNews : List (String × Json) :=
  [("room", .record [("key", .text "7"), ("bed", .record [("width", .text "90")])]), ("car", .bool true),
    ("phone", .record [("work", .text "557")])]

/-- In either order the bed and the telephone become records with the fields of both. -/
theorem overlay_comm_lodger :
    Compatible kitchenNews porterNews ∧ (record kitchenNews).Distinct ∧ (record porterNews).Distinct ∧
      Alike
        (.record [("phone", .record [("home", .text "556"), ("work", .text "557")]),
          ("room", .record [("bed", .record [("side", .text "left"), ("width", .text "90")]), ("floor", .text "2"),
            ("key", .text "7")]),
          ("diet", .list [.text "vegan"]), ("car", .bool true)])
        (.record [("phone", .record [("work", .text "557"), ("home", .text "556")]),
          ("room", .record [("bed", .record [("width", .text "90"), ("side", .text "left")]), ("floor", .text "2"),
            ("key", .text "7")]),
          ("car", .bool true), ("diet", .list [.text "vegan"])]) := by
  have hkitchen : (record kitchenNews).Distinct := by
    refine .record (by decide) ?_
    simp only [kitchenNews, List.forall_mem_cons]
    refine ⟨.singleton (.text _), .list (by simp [Distinct.text]), .singleton (.singleton (.text _)), by simp⟩
  have hporter : (record porterNews).Distinct := by
    refine .record (by decide) ?_
    simp only [porterNews, List.forall_mem_cons]
    refine ⟨.record (by decide) ?_, .bool _, .singleton (.text _), by simp⟩
    simp only [List.forall_mem_cons]
    exact ⟨.text _, .singleton (.text _), by simp⟩
  have hnews : Compatible kitchenNews porterNews := by
    apply Compatible.of_mem
    simp only [kitchenNews, List.forall_mem_cons]
    refine ⟨?phone, ?diet, ?room, by simp⟩
    case phone =>
      intro v' hv'
      cases hv'
      exact ⟨_, _, rfl, rfl, .of_disjoint (by decide)⟩
    case diet =>
      intro v' hv'
      cases hv'
    case room =>
      intro v' hv'
      cases hv'
      have hbed : Compatible [("side", .text "left")] [("width", .text "90")] := .of_disjoint (by decide)
      refine ⟨_, _, rfl, rfl, .of_mem ?_⟩
      simp only [List.forall_mem_singleton]
      intro v' hv'
      cases hv'
      exact ⟨_, _, rfl, rfl, hbed⟩
  exact ⟨hnews, hkitchen, hporter, overlay_comm hnews hkitchen hporter lodger⟩

end RetreatDesk.Json
