import RetreatDesk.Demo.Registry
import RetreatDesk.Proofs.Registry.Events
import RetreatDesk.Proofs.Registry.Pools
import RetreatDesk.Proofs.Registry.Readable
import RetreatDesk.Proofs.Registry.Views
import RetreatDesk.Proofs.Registry.Written

/-!
# Snapshots as they are written

* `Snapshot.described`: the layout of a snapshot is nothing but its four lists.
* `Snapshot.read_toJson`: what is read off the written snapshot is the snapshot as written.
* `Snapshot.read_toJson_iff`: it is the snapshot itself exactly if all amounts and prices are finite numbers.
-/

namespace RetreatDesk.Snapshot

open Json

def slots : List (Slot Snapshot) :=
  [.soundItems "participants" Participant.layout.read Participant.toJson (·.participants)
     fun ps s => { s with participants := ps },
   .soundItems "events" Event.layout.read Event.toJson (·.events) fun es s => { s with events := es },
   .soundItems "pools" Pool.layout.read Pool.toJson (·.pools) fun ps s => { s with pools := ps },
   .soundItems "views" View.layout.read View.toJson (·.views) fun vs s => { s with views := vs }]

theorem described : layout.Described slots fun _ => [] where
  fields_eq := rfl
  nodup := by decide
  blank_of_required := by simp [layout]
  required_of_blank := by simp [slots]
  blank_eq := by simp [slots, layout]
  sound_of_blank := by simp [slots]
  set_eq := by
    simp only [slots, List.forall_mem_cons]
    exact ⟨fun _ _ => bind_pure_comp _ _, fun _ _ => bind_pure_comp _ _, fun _ _ => bind_pure_comp _ _,
      fun _ _ => bind_pure_comp _ _, by simp⟩
  get_put := by simp [slots]
  get_put_of_ne := by simp [slots]
  rest_put _ _ _ _ := rfl
  get_keep := by simp [layout]
  rest_keep := by simp [layout]
  rest_blank := rfl
  rest_nodup _ := List.nodup_nil
  ext x y h _ := by
    cases x; cases y
    simp_all [slots]

/-- What is left of a snapshot once it has been written. -/
def asWritten (s : Snapshot) : Snapshot :=
  { s with participants := s.participants.map Participant.asWritten, events := s.events.map Event.asWritten }

/-- Every payment and every price is a finite number. -/
def FiniteAmounts (s : Snapshot) : Prop :=
  (∀ p ∈ s.participants, p.FiniteAmounts) ∧ ∀ e ∈ s.events, e.FiniteAmounts

instance (s : Snapshot) : Decidable s.FiniteAmounts :=
  inferInstanceAs (Decidable ((∀ p ∈ s.participants, p.FiniteAmounts) ∧ ∀ e ∈ s.events, e.FiniteAmounts))

theorem asWritten_eq_self {s : Snapshot} : s.asWritten = s ↔ s.FiniteAmounts := by
  have hlists : s.asWritten = s ↔
      s.participants.map Participant.asWritten = s.participants ∧ s.events.map Event.asWritten = s.events := by
    cases s
    simp [asWritten]
  rw [hlists, map_eq_self_iff, map_eq_self_iff]
  exact and_congr (forall₂_congr fun _ _ => Participant.asWritten_eq_self)
    (forall₂_congr fun _ _ => Event.asWritten_eq_self)

/-- What is read off the written snapshot is the snapshot as written. -/
theorem read_toJson {s : Snapshot} (hs : s.Readable) : layout.read (.value s.toJson) = .ok s.asWritten := by
  have hnames : (keysOf s.toJson.fields).Nodup := by
    change ["participants", "events", "pools", "views"].Nodup
    decide
  have hpools := Reader.sound_written fun p hp => Pool.readsBack.of_readable (hs.pools p hp)
  have hviews := Reader.sound_written fun v hv => View.readsBack.of_readable (hs.views v hv)
  rw [List.map_id] at hpools hviews
  refine (described.read_record_iff hnames).mpr ⟨?_, rfl⟩
  simp only [slots, List.forall_mem_cons]
  exact ⟨Reader.sound_written fun p hp => Participant.readsBack.of_readable (hs.participants p hp),
    Reader.sound_written fun e he => Event.readsBack.of_readable (hs.events e he), hpools, hviews, by simp⟩

/-- A snapshot that was read off any document is written and read back as it was exactly if all its payments and prices
are finite numbers. -/
theorem read_toJson_iff {doc : Draft} {s : Snapshot} (h : layout.read doc = .ok s) :
    layout.read (.value s.toJson) = .ok s ↔ s.FiniteAmounts := by
  rw [read_toJson (readable_of_read h), Except.ok.injEq]
  exact asWritten_eq_self

/-- A document with something of every kind, not all of it as it should be. -/
def sketch : Json :=
  .record [
    ("participants", .list [.text "nobody", .record [("id", .text "p-004"), ("phone", .text "555"),
      ("programs", .record [(Demo.aid, .record [("join", .text "yes"),
        ("offeringHistory", .record [("retreat", .record [("installments", .record [
          ("second", .list [.number (.real 100.0)]),
          ("first", .record [("offeringAmount", .number (.real 200.0))])])])])])])]]),
    ("events", .list [.record [("aid", .text Demo.aid),
      ("config", .record [("whichRetreatsConfig", .record [
        ("week1", .record [("offeringTotal", .number (.real 400.0))])])]),
      ("subEvents", .record [
        ("retreat", .record [("date", .text " 2025-07-05T09:00:00Z "), ("venue", .text "hall")])])]]),
    ("pools", .list [.record [("name", .text "newcomers"),
      ("attributes", .list [
        .record [("type", .text "pooldiff"), ("inpool", .text "everyone"), ("outpool", .text "alumni")],
        .record [("type", .text "vip")]])]]),
    ("views", .list [.record [("name", .text "arrivals"),
      ("viewConditions", .list [
        .record [("name", .text "offering"), ("subEvent", .text "retreat"), ("boolValue", .null)],
        .text "any"])]])]

def collected : Snapshot where
  participants := [{ id := "p-004"
                     programs := .ofList [(Demo.aid, { join := true, offeringHistory := .ofList [("retreat",
                       { installments := .ofList [("second", ⟨100.0, none⟩), ("first", ⟨200.0, none⟩)] })] })]
                     extra := .ofList [("phone", .text "555")] }]
  events := [{ aid := Demo.aid, config := { prices := .ofList [("week1", ⟨400.0⟩)] }
               subEvents := .ofList [("retreat",
                 { date := Date.of? 2025 7 5, extra := .ofList [("venue", .text "hall")] })] }]
  pools := [{ name := "newcomers", rules := [.difference "everyone" "alumni", .unknown] }]
  views := [{ name := "arrivals", filters := [.expect (.offering (some "retreat")) false, .unknown] }]

/-- What could be gathered from the sketch comes back as it is. -/
theorem read_toJson_iff_sketch :
    layout.read (.value sketch) = .ok collected ∧ layout.read (.value collected.toJson) = .ok collected := by
  have hread : layout.read (.value sketch) = .ok collected := rfl
  have hfinite : collected.FiniteAmounts := by decide +kernel
  exact ⟨hread, (read_toJson_iff hread).mpr hfinite⟩

end RetreatDesk.Snapshot
