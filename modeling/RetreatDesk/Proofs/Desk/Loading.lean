import RetreatDesk.Proofs.Desk.Keys
import RetreatDesk.Proofs.Reading.Key
import RetreatDesk.Proofs.Registry.Collections
import RetreatDesk.Proofs.Registry.Snapshot

/-!
# Records without a key

A record needs a key to be found again. One that has no field for it is left out, but a key is read as loosely as any
text: what stands there without being one counts as an empty key.

* `Collection.keyText?`: the text of the key that a record of a document has, if it has one.
* `Collection.KeyedOnly`: the records without such a text are left out, and what is loaded is known by the others' keys.
* `Collection.keyedOnly_iff`: so it is exactly if no record that otherwise fits has something else for its key.
* `Desk.loaded_under_keys`: what is loaded of any document, and under which keys.
-/

namespace RetreatDesk

open Json

namespace Collection

/-! ## Keys -/

/-- The field that holds the key. -/
def keyName : Collection → String
  | people => "id"
  | events => "aid"
  | pools => "name"
  | views => "name"

/-- The key of a record that has been loaded. -/
def keyOf : (c : Collection) → c.Record → String
  | people, p => p.id
  | events, e => e.aid
  | pools, p => p.name
  | views, v => v.name

/-- The records that a desk knows. -/
def known : (c : Collection) → Desk → Sorted c.Record
  | people, d => d.people
  | events, d => d.events
  | pools, d => d.pools
  | views, d => d.views

/-- What a record of a document has for its key. -/
def key? (c : Collection) (v : Json) : Option Json := v.key? c.keyName c.layout.keep.isNone

/-- The text of the key. A list, a record and `null` are no texts. -/
def keyText? (c : Collection) (v : Json) : Option String := (c.key? v).bind Json.text?

/-- The record would fit if a text stood for its key. -/
def FitsOtherwise (c : Collection) (v : Json) : Prop :=
  ∃ s x, c.layout.read (.value (v.withKey c.keyName s)) = .ok x

/-- Everything about the layouts that matters for keys: each starts with the key, which has to be there. -/
theorem exists_described (c : Collection) : ∃ putKey slots rest,
    c.layout.Described (.label c.keyName none c.keyOf putKey :: slots) rest ∧ c.layout.required = [c.keyName] := by
  cases c with
  | people => exact ⟨_, _, _, Participant.described, rfl⟩
  | events => exact ⟨_, _, _, Event.described, rfl⟩
  | pools => exact ⟨_, _, _, Pool.described, rfl⟩
  | views => exact ⟨_, _, _, View.described, rfl⟩

/-- A record fits exactly if it has something for its key and would fit with a text there. -/
theorem exists_read_iff (c : Collection) {v : Json} (hv : v.Distinct) :
    (∃ x, c.layout.read (.value v) = .ok x) ↔ (c.key? v).isSome ∧ c.FitsOtherwise v := by
  obtain ⟨putKey, slots, rest, d, hrequired⟩ := c.exists_described
  constructor
  · intro h
    obtain ⟨hkey, hfits⟩ := (d.exists_read_iff_key hrequired hv "").mp h
    exact ⟨hkey, "", hfits⟩
  · rintro ⟨hkey, s, hfits⟩
    exact (d.exists_read_iff_key hrequired hv s).mpr ⟨hkey, hfits⟩

theorem keyOf_of_read (c : Collection) {v : Json} (hv : v.Distinct) {x : c.Record}
    (h : c.layout.read (.value v) = .ok x) : ∃ w, c.key? v = some w ∧ c.keyOf x = w.text?.getD "" := by
  obtain ⟨putKey, slots, rest, d, hrequired⟩ := c.exists_described
  exact d.key_of_read hrequired hv h

theorem mem_keys_known (c : Collection) {s : Snapshot} {k : String} :
    k ∈ (c.known (Desk.ofSnapshot s)).keys ↔ ∃ x ∈ c.loaded s, c.keyOf x = k := by
  have hkeys (key : c.Record → String) (xs : List c.Record) :
      k ∈ (Sorted.ofList (xs.map fun x => (key x, x))).keys ↔ ∃ x ∈ xs, key x = k := by
    rw [Sorted.mem_keys_ofList, keysOf, List.map_map]
    exact List.mem_map
  cases c <;> exact hkeys _ _

/-! ## Documents -/

/-- The records that the document in a text lists. -/
def listed (c : Collection) (text : String) : List Json := c.records (Document.ofText text).root

/-- Of the records listed, those without a text for a key are left out, and what is known is known by the keys of those
that otherwise fit. -/
structure KeyedOnly (c : Collection) (listed : List Json) (s : Snapshot) : Prop where
  left_out : ∀ v ∈ listed, c.keyText? v = none → Reader.ofJson? c.layout.read v = none
  keys_iff : ∀ k, k ∈ (c.known (Desk.ofSnapshot s)).keys ↔ ∃ v ∈ listed, c.FitsOtherwise v ∧ c.keyText? v = some k

section
variable {c : Collection} {listed : List Json} (hlisted : ∀ v ∈ listed, v.Distinct) {s : Snapshot}
  (hloaded : c.loaded s = listed.filterMap (Reader.ofJson? c.layout.read))

include hlisted hloaded

/-- What is known is known by what stands for the keys of the records that otherwise fit, be it a text or not. -/
theorem mem_keys_iff {k : String} : k ∈ (c.known (Desk.ofSnapshot s)).keys ↔
    ∃ v ∈ listed, c.FitsOtherwise v ∧ ∃ w, c.key? v = some w ∧ w.text?.getD "" = k := by
  rw [mem_keys_known, hloaded]
  constructor
  · rintro ⟨x, hx, rfl⟩
    obtain ⟨v, hv, hread⟩ := List.mem_filterMap.mp hx
    have hfits := Reader.ofJson?_eq_some.mp hread
    obtain ⟨w, hw, hkey⟩ := c.keyOf_of_read (hlisted v hv) hfits
    exact ⟨v, hv, ((c.exists_read_iff (hlisted v hv)).mp ⟨x, hfits⟩).2, w, hw, hkey.symm⟩
  · rintro ⟨v, hv, hfits, w, hw, rfl⟩
    obtain ⟨x, hx⟩ := (c.exists_read_iff (hlisted v hv)).mpr ⟨by rw [hw]; rfl, hfits⟩
    obtain ⟨w', hw', hkey⟩ := c.keyOf_of_read (hlisted v hv) hx
    cases hw.symm.trans hw'
    exact ⟨x, List.mem_filterMap.mpr ⟨v, hv, Reader.ofJson?_eq_some.mpr hx⟩, hkey⟩

/-- Only records with a text for a key are loaded exactly if none that otherwise fits has something else there. -/
theorem keyedOnly_iff : c.KeyedOnly listed s ↔
    ∀ v ∈ listed, c.FitsOtherwise v → ∀ w, c.key? v = some w → w.text? ≠ none := by
  constructor
  · intro h v hv hfits w hw htext
    obtain ⟨x, hx⟩ := (c.exists_read_iff (hlisted v hv)).mpr ⟨by rw [hw]; rfl, hfits⟩
    have hnone := h.left_out v hv (by rw [keyText?, hw, Option.bind_some, htext])
    rw [Reader.ofJson?_eq_some.mpr hx] at hnone
    cases hnone
  · intro h
    have htext : ∀ v ∈ listed, c.FitsOtherwise v → ∀ w, c.key? v = some w → c.keyText? v = some (w.text?.getD "") := by
      intro v hv hfits w hw
      obtain ⟨t, ht⟩ := Option.ne_none_iff_exists'.mp (h v hv hfits w hw)
      rw [keyText?, hw, Option.bind_some, ht]
      rfl
    refine ⟨fun v hv hnone => ?_, fun k => (mem_keys_iff hlisted hloaded).trans ?_⟩
    · refine Option.eq_none_iff_forall_ne_some.mpr fun x hx => ?_
      obtain ⟨hkey, hfits⟩ := (c.exists_read_iff (hlisted v hv)).mp ⟨x, Reader.ofJson?_eq_some.mp hx⟩
      obtain ⟨w, hw⟩ := Option.isSome_iff_exists.mp hkey
      cases hnone.symm.trans (htext v hv hfits w hw)
    · refine exists_congr fun v => and_congr_right fun hv => and_congr_right fun hfits => ?_
      constructor
      · rintro ⟨w, hw, rfl⟩
        exact htext v hv hfits w hw
      · intro hkey
        obtain ⟨w, hw, hwtext⟩ := Option.bind_eq_some_iff.mp hkey
        exact ⟨w, hw, by rw [hwtext]; rfl⟩

end

end Collection

namespace Desk

/-- What is loaded of any document, and under which keys. A record needs something for its key and nothing else to be
wrong with it; whatever has no text of its own counts as an empty key. So exactly the documents in which no such thing
stands for the key of a record that otherwise fits are loaded by their keys alone. -/
theorem loaded_under_keys {text : String} {s : Snapshot} (h : Snapshot.ofText text = .ok s) (c : Collection) :
    c.loaded s = (c.listed text).filterMap (Reader.ofJson? c.layout.read) ∧
    (∀ k, k ∈ (c.known (ofSnapshot s)).keys ↔
      ∃ v ∈ c.listed text, c.FitsOtherwise v ∧ ∃ w, c.key? v = some w ∧ w.text?.getD "" = k) ∧
    (c.KeyedOnly (c.listed text) s ↔
      ∀ v ∈ c.listed text, c.FitsOtherwise v → ∀ w, c.key? v = some w → w.text? ≠ none) := by
  have hloaded : c.loaded s = (c.listed text).filterMap (Reader.ofJson? c.layout.read) :=
    Collection.loaded_eq (Reader.read_of_ofText h) c
  have hlisted : ∀ v ∈ c.listed text, v.Distinct := Collection.distinct_records (distinct_ofText text) c
  exact ⟨hloaded, fun k => Collection.mem_keys_iff hlisted hloaded, Collection.keyedOnly_iff hlisted hloaded⟩

/-- Two people with `null` and a record for a key, one without a key, a pool with a truth value for a name and one
without a name. -/
def anonymous : String :=
  "\x7b\"participants\":[\x7b\"id\":null,\"first\":\"Ann\"\x7d,\x7b\"id\":\x7b\x7d,\"first\":\"Ben\"\x7d,\x7b\"first\":\"Carl\"\x7d]," ++
    "\"pools\":[\x7b\"name\":true\x7d,\x7b\x7d]\x7d"

/-- The same people and pools as they are written. -/
def anonymousDraft : Draft :=
  .record
    [(some "participants", .list
      [.record [(some "id", .value .null), (some "first", .value (.text "Ann"))] none,
       .record [(some "id", .record [] none), (some "first", .value (.text "Ben"))] none,
       .record [(some "first", .value (.text "Carl"))] none] none),
     (some "pools", .list [.record [(some "name", .value (.bool true))] none, .record [] none] none)] none

def afterAnonymous : Snapshot where
  participants := [{ first := "Ann" }, { first := "Ben" }]
  pools := [{ name := "true" }]

theorem ofText_anonymous : Document.ofText anonymous = ⟨anonymousDraft, false⟩ := by cbv

theorem loaded_anonymous : Snapshot.ofText anonymous = .ok afterAnonymous := by
  rw [Snapshot.ofText, Reader.ofText, ofText_anonymous]
  rfl

theorem listed_anonymous (c : Collection) : c.listed anonymous = c.records anonymousDraft := by
  rw [Collection.listed, ofText_anonymous]

/-- The two without a usable key are known as one under an empty key. The pool is known by its truth value, and the nameless one is left out. -/
theorem loaded_under_keys_anonymous :
    ¬ Collection.people.KeyedOnly (Collection.people.listed anonymous) afterAnonymous ∧
      Collection.pools.KeyedOnly (Collection.pools.listed anonymous) afterAnonymous := by
  obtain ⟨-, -, hpeople⟩ := loaded_under_keys loaded_anonymous .people
  obtain ⟨-, -, hpools⟩ := loaded_under_keys loaded_anonymous .pools
  rw [hpeople, hpools, listed_anonymous, listed_anonymous]
  constructor
  · intro h
    exact h (.record [("id", .null), ("first", .text "Ann")]) List.mem_cons_self ⟨"", _, rfl⟩ .null rfl rfl
  · change ∀ v ∈ [Json.record [("name", .bool true)], .record []], _
    simp only [List.forall_mem_cons]
    refine ⟨fun _ w hw htext => ?_, fun _ w hw => ?_, by simp⟩
    · cases hw
      cases htext
    · cases hw

theorem not_keyedOnly : ¬ ∀ (text : String) (s : Snapshot), Snapshot.ofText text = .ok s →
    ∀ c : Collection, c.KeyedOnly (c.listed text) s := by
  intro h
  have hanonymous := h anonymous afterAnonymous loaded_anonymous .people
  rw [listed_anonymous] at hanonymous
  have hleft := hanonymous.left_out (.record [("id", .null), ("first", .text "Ann")]) List.mem_cons_self rfl
  cases hleft

end Desk

end RetreatDesk
