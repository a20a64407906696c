import RetreatDesk.Proofs.Desk.View
import RetreatDesk.Proofs.Text.Letter

/-!
# Typing a part of a name

Whoever is in a view has a row in it that does not depend on what is typed; what is typed decides only whether the row is
shown.

* `Participant.mentions_of_part`: a part of the name or of the address is found there, whatever its case, as long as all
  its capital sigmas keep their forms.
* `Desk.view_finds`: so the same request with that part typed shows the same row.
* `Desk.not_view_finds`: a part that ends in the middle of a word with a capital sigma need not be found.
-/

namespace RetreatDesk

theorem Participant.mentions_iff {p : Participant} {needle : String} :
    p.mentions needle = true ↔
      Text.hasPart (Text.lower p.fullName) needle = true ∨ Text.hasPart (Text.lower p.email) needle = true := by
  rw [mentions, Bool.or_eq_true]

/-- A part of the name or of the address is found there, whatever its case, as long as all its capital sigmas keep
their forms. White space at its ends makes no difference. -/
theorem Participant.mentions_of_part {p : Participant} {before typed after : String}
    (hpart : before ++ typed ++ after ∈ [p.fullName, p.email]) (hsigmas : Text.KeepsSigmas before typed after) :
    p.mentions (Text.lower (Text.trim typed)) = true := by
  have hfound : Text.hasPart (Text.lower (before ++ typed ++ after)) (Text.lower (Text.trim typed)) = true :=
    Text.hasPart_trans (Text.hasPart_lower hsigmas) (Text.hasPart_lower_trim typed)
  rw [mentions_iff]
  rcases List.mem_cons.mp hpart with hname | hemail
  · exact .inl (hname ▸ hfound)
  · exact .inr (List.mem_singleton.mp hemail ▸ hfound)

theorem searchTerm?_of_solid {typed : String} (h : Text.allBlank typed = false) :
    searchTerm? (some typed) = some (Text.lower (Text.trim typed)) := by
  refine searchTerm?_eq_some_iff.mpr ⟨typed, rfl, fun hempty => ?_, rfl⟩
  rw [Text.trim_eq_empty_iff, h] at hempty
  cases hempty

namespace View

variable {v : View} {s : Scope} {search : Option String} {people : List Participant}

theorem mem_rows_iff {row : ViewRow} : row ∈ (v.output s search people).rows ↔
    ∃ p ∈ people, v.shows s (searchTerm? search) p = true ∧ v.row s p = row := by
  simp only [rows_output, shown, List.mem_map, List.mem_filter, and_assoc]

/-- Under distinct keys every row with the key of a person is the row of that person. -/
theorem row_eq_of_mem {people : List Participant} (hids : (people.map (·.id)).Nodup) {p : Participant} (hp : p ∈ people)
    {row : ViewRow} (hrow : row ∈ (v.output s search people).rows) (hid : row.participantId = p.id) :
    v.shows s (searchTerm? search) p = true ∧ row = v.row s p := by
  obtain ⟨q, hq, hshows, rfl⟩ := mem_rows_iff.mp hrow
  have hsame : q = p := List.inj_on_of_nodup_map hids hq hp hid
  exact ⟨hsame ▸ hshows, by rw [hsame]⟩

theorem row_mem_iff {people : List Participant} (hids : (people.map (·.id)).Nodup) {p : Participant} (hp : p ∈ people) :
    v.row s p ∈ (v.output s search people).rows ↔ v.shows s (searchTerm? search) p = true :=
  ⟨fun h => (row_eq_of_mem hids hp h rfl).1, fun h => mem_rows_iff.mpr ⟨p, hp, h, rfl⟩⟩

/-- Whoever is shown when nothing was typed is shown for what was typed if it is found. -/
theorem shows_iff_mentions (hsearch : searchTerm? search = none) {p : Participant}
    (hp : v.shows s (searchTerm? search) p = true) {typed : String} (htyped : Text.allBlank typed = false) :
    v.shows s (searchTerm? (some typed)) p = true ↔ p.mentions (Text.lower (Text.trim typed)) = true := by
  rw [hsearch, shows_eq, Option.all_none, Bool.and_true] at hp
  rw [searchTerm?_of_solid htyped, shows_eq, hp, Option.all_some, Bool.true_and]

end View

namespace Desk

/-- Where nothing was typed and a row is shown, the same request with something typed shows that row as it is or not at
all, and shows it if and only if the name or the address of the person holds what was typed, all in lower case. A part
of the name or of the address is held in it, save where it breaks off at a capital sigma. -/
theorem view_finds {d : Desk} (hd : d.Reached) {key : String} {r : ViewRequest} (hr : searchTerm? r.search = none)
    {o : ViewOutput} (ho : d.view key r = .ok o) {row : ViewRow} (hrow : row ∈ o.rows) (typed : String)
    (htyped : Text.allBlank typed = false) :
    ∃ p found, d.people.get? row.participantId = some p ∧ d.view key { r with search := some typed } = .ok found ∧
      found.plan = o.plan ∧ (∀ row' ∈ found.rows, row'.participantId = row.participantId → row' = row) ∧
      (row ∈ found.rows ↔ Text.hasPart (Text.lower p.fullName) (Text.lower (Text.trim typed)) = true ∨
        Text.hasPart (Text.lower p.email) (Text.lower (Text.trim typed)) = true) ∧
      ∀ before after, before ++ typed ++ after ∈ [p.fullName, p.email] → Text.KeepsSigmas before typed after →
        row ∈ found.rows := by
  obtain ⟨event, v, hevent, hview, rfl⟩ := known_of_ok ho
  obtain ⟨p, hp, hshown, rfl⟩ := View.mem_rows_iff.mp hrow
  have hmentions : v.row (Scope.of d.pools event r.subEvent) p ∈
      (v.output (Scope.of d.pools event r.subEvent) (some typed) d.people.values).rows ↔
        p.mentions (Text.lower (Text.trim typed)) = true :=
    (View.row_mem_iff hd.nodup_ids hp).trans (View.shows_iff_mentions hr hshown htyped)
  have hfound : d.view key { r with search := some typed } =
      .ok (v.output (Scope.of d.pools event r.subEvent) (some typed) d.people.values) :=
    @view_of_known d { r with search := some typed } event hevent key v hview
  have hperson : d.people.get? p.id = some p := hd.mem_values_iff.mp hp
  refine ⟨p, v.output (Scope.of d.pools event r.subEvent) (some typed) d.people.values, hperson, hfound, rfl,
    fun row' hrow' hid => ?_, ?_, fun before after hpart hsigmas => ?_⟩
  · exact (View.row_eq_of_mem hd.nodup_ids hp hrow' hid).2
  · exact hmentions.trans Participant.mentions_iff
  · exact hmentions.mpr (Participant.mentions_of_part hpart hsigmas)

/-- Odysseus, as a document, with a view for everyone. -/
def voyage : Json :=
  .record
    [("participants", .list [.record [("id", .text "p-001"), ("first", .text "ΟΔΥΣΣΕΑΣ")]]),
     ("events", .list [.record [("aid", .text Demo.aid)]]),
     ("views", .list [.record [("name", .text "roster"), ("columnDefs", .list [.record [("name", .text "name")]])]])]

def odysseus : Participant := { id := "p-001", first := "ΟΔΥΣΣΕΑΣ" }

def rosterView : View := { name := "roster", columns := [{ name := "name" }] }

def afterVoyage : Snapshot where
  participants := [odysseus]
  events := [{ aid := Demo.aid }]
  views := [rosterView]

theorem reached_voyage : (ofSnapshot afterVoyage).Reached := by
  have hloaded : Snapshot.layout.read (.value voyage) = .ok afterVoyage := rfl
  exact .loaded hloaded

/-- Odysseus is in the view. His name is found by its first letters and, in spite of its sigmas, by its last ones. The
part that breaks off at a sigma in the middle of the word is not found. -/
theorem view_finds_odysseus : ∃ o row,
    (ofSnapshot afterVoyage).view "roster" ⟨Demo.aid, none, none⟩ = .ok o ∧ row ∈ o.rows ∧
      (∃ found, (ofSnapshot afterVoyage).view "roster" ⟨Demo.aid, none, some "ΟΔΥ"⟩ = .ok found ∧ row ∈ found.rows) ∧
      (∃ found, (ofSnapshot afterVoyage).view "roster" ⟨Demo.aid, none, some "ΥΣΣΕΑΣ"⟩ = .ok found ∧
        row ∈ found.rows) ∧
      ∃ found, (ofSnapshot afterVoyage).view "roster" ⟨Demo.aid, none, some "ΟΔΥΣ"⟩ = .ok found ∧
        row ∉ found.rows := by
  have ho : (ofSnapshot afterVoyage).view "roster" ⟨Demo.aid, none, none⟩ = .ok _ := rfl
  have hrow : View.row rosterView (Scope.of .empty { aid := Demo.aid } none) odysseus ∈ _ := List.mem_singleton_self _
  have hfinds := view_finds reached_voyage rfl ho hrow
  refine ⟨_, _, ho, hrow, ?_, ?_, ?_⟩
  · obtain ⟨p, found, hp, hfound, -, -, -, hpart⟩ := hfinds "ΟΔΥ" (by decide)
    cases hp
    exact ⟨found, hfound, hpart "" "ΣΣΕΑΣ" (by decide) (Text.keepsSigmas_of_not_mem (by decide) _ _)⟩
  · obtain ⟨p, found, hp, hfound, -, -, -, hpart⟩ := hfinds "ΥΣΣΕΑΣ" (by decide)
    cases hp
    exact ⟨found, hfound, hpart "ΟΔ" "" (by decide) (by decide +kernel)⟩
  · obtain ⟨p, found, hp, hfound, -, -, hiff, -⟩ := hfinds "ΟΔΥΣ" (by decide)
    cases hp
    exact ⟨found, hfound, fun h => absurd (hiff.mp h) (by decide +kernel)⟩

/-- So not every part of a name is found. -/
theorem not_view_finds : ¬ ∀ (d : Desk), d.Reached → ∀ (key : String) (r : ViewRequest) (o : ViewOutput),
    r.search = none → d.view key r = .ok o → ∀ row ∈ o.rows, ∀ p, d.people.get? row.participantId = some p →
      ∀ typed, Text.hasPart p.fullName typed = true ∨ Text.hasPart p.email typed = true →
        Text.allBlank typed = false →
          ∃ found, d.view key { r with search := some typed } = .ok found ∧ row ∈ found.rows := by
  intro h
  obtain ⟨found, hfound, hmem⟩ := h _ reached_voyage "roster" ⟨Demo.aid, none, none⟩ _ rfl rfl _
    (List.mem_singleton_self (View.row rosterView (Scope.of .empty { aid := Demo.aid } none) odysseus)) odysseus rfl
    "ΟΔΥΣ" (.inl (by decide)) (by decide)
  cases hfound
  have hids : ([odysseus].map (·.id)).Nodup := List.nodup_singleton _
  have hshown := (View.row_mem_iff hids (List.mem_singleton_self _)).mp hmem
  exact absurd hshown (by decide +kernel)

end Desk

end RetreatDesk
