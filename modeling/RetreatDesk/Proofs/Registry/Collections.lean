import RetreatDesk.Proofs.Reading.Items
import RetreatDesk.Proofs.Reading.Part
import RetreatDesk.Registry.Snapshot

/-!
# What a document lists

A snapshot is read off four lists. A document names them, or holds them one after another.

* `Collection`: the four kinds of records, each with its layout and its place in a snapshot.
* `Collection.records`: the values that a document lists under a collection.
* `Collection.loaded_eq`: a snapshot holds of each list the records that fit, in their order.
* `Collection.distinct_records`: no record of a document gives two fields one name.
-/

namespace RetreatDesk

open Json

/-- The kinds of records that a snapshot holds. -/
inductive Collection where
  | people
  | events
  | pools
  | views
  deriving DecidableEq

namespace Collection

/-- What the records are. -/
def Record : Collection → Type
  | people => Participant
  | events => Event
  | pools => Pool
  | views => View

def layout : (c : Collection) → Layout c.Record
  | people => Participant.layout
  | events => Event.layout
  | pools => Pool.layout
  | views => View.layout

/-- The name under which a document lists the records. -/
def title : Collection → String
  | people => "participants"
  | events => "events"
  | pools => "pools"
  | views => "views"

/-- The records of a snapshot. -/
def loaded : (c : Collection) → Snapshot → List c.Record
  | people, s => s.participants
  | events, s => s.events
  | pools, s => s.pools
  | views, s => s.views

/-- The snapshot with other records. -/
def store : (c : Collection) → List c.Record → Snapshot → Snapshot
  | people, ps, s => { s with participants := ps }
  | events, es, s => { s with events := es }
  | pools, ps, s => { s with pools := ps }
  | views, vs, s => { s with views := vs }

/-- The records that a document lists. -/
def records (c : Collection) (doc : Draft) : List Json :=
  ((doc.part? Snapshot.layout.fields c.title).bind fun d => (Reader.values d).toOption).getD []

/-! ## One list after another -/

theorem mem_fields (c : Collection) : c.title ∈ Snapshot.layout.fields := by
  cases c <;> decide

theorem loaded_store (c : Collection) (rs : List c.Record) (s : Snapshot) : c.loaded (c.store rs s) = rs := by
  cases c <;> rfl

theorem loaded_store_of_ne {c c' : Collection} (h : c ≠ c') (rs : List c'.Record) (s : Snapshot) :
    c.loaded (c'.store rs s) = c.loaded s := by
  cases c <;> cases c' <;> first | rfl | exact absurd rfl h

theorem set_title (c : Collection) (d : Draft) (s : Snapshot) :
    Snapshot.layout.set c.title d s = (c.store · s) <$> Reader.sound c.layout.read d := by
  cases c <;> exact bind_pure_comp _ _

theorem exists_title {name : String} (h : name ∈ Snapshot.layout.fields) : ∃ c : Collection, c.title = name := by
  simp only [Snapshot.layout, List.mem_cons, List.not_mem_nil, or_false] at h
  rcases h with rfl | rfl | rfl | rfl
  exacts [⟨people, rfl⟩, ⟨events, rfl⟩, ⟨pools, rfl⟩, ⟨views, rfl⟩]

theorem hasField (c : Collection) : Snapshot.layout.HasField c.title (Reader.sound c.layout.read) c.loaded where
  declared := c.mem_fields
  keep_eq := rfl
  of_set {d s s'} h := by
    rw [set_title] at h
    obtain ⟨rs, hrs, rfl⟩ := map_eq_ok.mp h
    rw [loaded_store]
    exact hrs
  of_set_ne {k d s s'} hk hne h := by
    obtain ⟨c', rfl⟩ := exists_title hk
    rw [set_title] at h
    obtain ⟨rs, -, rfl⟩ := map_eq_ok.mp h
    exact loaded_store_of_ne (fun hc => hne (congrArg title hc.symm)) rs s

/-- A snapshot holds of each list of its document the records that fit, in their order. -/
theorem loaded_eq {doc : Draft} {s : Snapshot} (h : Snapshot.layout.read doc = .ok s) (c : Collection) :
    c.loaded s = (c.records doc).filterMap (Reader.ofJson? c.layout.read) := by
  have htaken := c.hasField.taken_of_read (by decide) h
  have hblank : c.loaded Snapshot.layout.blank = [] := by cases c <;> rfl
  unfold records
  cases hpart : doc.part? Snapshot.layout.fields c.title with
  | none =>
    rw [hpart] at htaken
    exact htaken.trans hblank
  | some d =>
    rw [hpart] at htaken
    obtain ⟨vs, hvs, hloaded⟩ := bind_eq_ok.mp htaken
    rw [Option.bind_some, hvs]
    exact (Except.ok.inj hloaded).symm

/-! ## Records of documents -/

/-- No record of a document gives two fields one name. -/
theorem distinct_records {doc : Draft} (hdoc : doc.Distinct) (c : Collection) : ∀ v ∈ c.records doc, v.Distinct := by
  unfold records
  cases hpart : doc.part? Snapshot.layout.fields c.title with
  | none => simp
  | some d =>
    have hd := Draft.distinct_part? hdoc hpart
    rw [Option.bind_some]
    cases hvs : Reader.values d with
    | error problem => simp [Except.toOption]
    | ok vs => exact Reader.distinct_values hd hvs

end Collection

end RetreatDesk
