import RetreatDesk.Proofs.Desk.Keys
import RetreatDesk.Proofs.View.Plan

/-!
# What a view shows

* `Desk.Shown`: whom a view shows.
* `Desk.Answers`: the answer to a request for a view, as the request and the records determine it.
* `ViewOutput.cell?_eq`: a cell found by names is the cell at its place.
* `Desk.answers_output`: the answer that a desk gives is the one determined.
* `Desk.answers_of_ok`: so is every answer that is given.
* `Desk.view_answered`: a request fails for want of the event or of the view, and is answered otherwise.
-/

namespace RetreatDesk

/-! ## The people shown -/

theorem Scope.admits_iff {s : Scope} {p : Participant} :
    s.admits p = true ↔ ∀ pool, s.event.config.pool = some pool → s.isMember p pool = true := by
  unfold admits
  cases s.event.config.pool with
  | none => simp
  | some pool => simp

theorem searchTerm?_eq_some_iff {search : Option String} {needle : String} :
    searchTerm? search = some needle ↔
      ∃ typed, search = some typed ∧ Text.trim typed ≠ "" ∧ Text.lower (Text.trim typed) = needle := by
  cases search with
  | none => simp [searchTerm?]
  | some typed =>
    by_cases hblank : Text.trim typed = ""
    · simp [searchTerm?, Option.filter, hblank]
    · simp [searchTerm?, Option.filter, hblank]

theorem View.shows_eq (v : View) (s : Scope) (term : Option String) (p : Participant) :
    v.shows s term p = (s.admits p && passesAll s v.filters p && term.all p.mentions) := by
  cases term with
  | none => rfl
  | some needle => simp only [shows, Option.all_some]

theorem View.shows_iff {v : View} {s : Scope} {search : Option String} {p : Participant} :
    v.shows s (searchTerm? search) p = true ↔
      s.admits p = true ∧ passesAll s v.filters p = true ∧
        ∀ typed, search = some typed → Text.trim typed ≠ "" → p.mentions (Text.lower (Text.trim typed)) = true := by
  rw [View.shows_eq, Bool.and_eq_true, Bool.and_eq_true, Option.all_eq_true, and_assoc]
  refine and_congr_right fun _ => and_congr_right fun _ => ?_
  constructor
  · intro h typed htyped hblank
    exact h _ (searchTerm?_eq_some_iff.mpr ⟨typed, htyped, hblank, rfl⟩)
  · intro h needle hneedle
    obtain ⟨typed, htyped, hblank, rfl⟩ := searchTerm?_eq_some_iff.mp hneedle
    exact h typed htyped hblank

namespace View

variable (v : View) (s : Scope) (search : Option String) (people : List Participant)

/-- The people shown, out of all. -/
def shown : List Participant := people.filter (v.shows s (searchTerm? search))

/-- The row of a person. -/
def row (p : Participant) : ViewRow := ⟨p.id, (Plan.of v.columns).row s p⟩

theorem rows_output : (v.output s search people).rows = (v.shown s search people).map (v.row s) := rfl

theorem participantIds_output :
    (v.output s search people).participantIds = (v.shown s search people).map (·.id) := by
  rw [ViewOutput.participantIds, rows_output, List.map_map]
  rfl

theorem nodup_participantIds {people : List Participant} (h : (people.map (·.id)).Nodup) :
    (v.output s search people).participantIds.Nodup := by
  rw [participantIds_output]
  exact h.sublist (List.filter_sublist.map _)

theorem mem_participantIds_iff {people : List Participant} (h : (people.map (·.id)).Nodup) {p : Participant}
    (hp : p ∈ people) : p.id ∈ (v.output s search people).participantIds ↔ p ∈ v.shown s search people := by
  rw [participantIds_output, List.mem_map]
  constructor
  · rintro ⟨q, hq, hsame⟩
    exact List.inj_on_of_nodup_map h (List.mem_filter.mp hq).1 hp hsame ▸ hq
  · exact fun hshown => ⟨p, hshown, rfl⟩

end View

namespace Desk

/-- A view for an event shows a person: the event admits the person, every condition of the view lets the person
through, and what was typed to look for people stands in the name or in the address. -/
structure Shown (d : Desk) (event : Event) (v : View) (r : ViewRequest) (p : Participant) : Prop where
  admitted : ∀ pool, event.config.pool = some pool → member d.pools p r.aid pool = true
  passes : ∀ f ∈ v.filters, f.passes (Scope.of d.pools event r.subEvent) p = true
  found : ∀ typed, r.search = some typed → Text.trim typed ≠ "" →
    Text.hasPart (Text.lower p.fullName) (Text.lower (Text.trim typed)) = true ∨
      Text.hasPart (Text.lower p.email) (Text.lower (Text.trim typed)) = true

/-- The answer to a request for a view: the rows of the people shown, each once and in the order of the keys, with a
cell for each column, which is found under the key and the name of the column too. -/
structure Answers (d : Desk) (event : Event) (v : View) (r : ViewRequest) (o : ViewOutput) : Prop where
  aid : o.aid = r.aid
  view : o.view = v.name
  subEvent : o.subEvent = event.effectiveSubEvent r.subEvent
  plan : o.plan = Plan.of v.columns
  increasing : o.rows.Pairwise fun row row' => Utf8.bytes row.participantId < Utf8.bytes row'.participantId
  shown : ∀ id, id ∈ o.participantIds ↔ ∃ p, d.people.get? id = some p ∧ d.Shown event v r p
  cells : ∀ row ∈ o.rows, ∃ p, d.people.get? row.participantId = some p ∧
    row.cells.length = o.plan.columns.length ∧
    ∀ (i : Nat) (column : Column), o.plan.columns[i]? = some column →
      row.cells[i]? = some (column.kind.cell (Scope.of d.pools event r.subEvent) p) ∧
        o.cell? row.participantId column.field = some (column.kind.cell (Scope.of d.pools event r.subEvent) p)

theorem shown_iff {d : Desk} {event : Event} {r : ViewRequest} (haid : event.aid = r.aid) {v : View} {p : Participant} :
    d.Shown event v r p ↔ v.shows (Scope.of d.pools event r.subEvent) (searchTerm? r.search) p = true := by
  rw [View.shows_iff, Scope.admits_iff, passesAll, List.all_eq_true]
  simp only [Participant.mentions, Bool.or_eq_true, Scope.isMember, Scope.of, haid]
  constructor
  · rintro ⟨hadmitted, hpasses, hfound⟩
    exact ⟨hadmitted, hpasses, hfound⟩
  · rintro ⟨hadmitted, hpasses, hfound⟩
    exact ⟨hadmitted, hpasses, hfound⟩

end Desk

/-! ## Cells by name -/

/-- Where each name of a column and each key of a row is used once, a cell found by names is the cell at its place. -/
theorem ViewOutput.cell?_eq {o : ViewOutput} (hfields : o.plan.fields.Nodup) (hids : o.participantIds.Nodup)
    {row : ViewRow} (hrow : row ∈ o.rows) {i : Nat} {column : Column} (hi : o.plan.columns[i]? = some column) :
    o.cell? row.participantId column.field = row.cells[i]? := by
  have hindex : o.columnIndex? column.field = some i := findIdx?_of_nodup hfields hi
  have hfound : o.rows.find? (·.participantId = row.participantId) = some row := find?_of_nodup hids hrow
  rw [cell?, hindex, hfound]
  rfl

namespace Desk

/-! ## Answers -/

/-- The answer that a desk gives is the one that the request and the records determine. -/
theorem answers_output {d : Desk} (hd : d.Reached) {event : Event} {r : ViewRequest}
    (hevent : d.events.get? r.aid = some event) (v : View) :
    d.Answers event v r (v.output (Scope.of d.pools event r.subEvent) r.search d.people.values) := by
  have haid : event.aid = r.aid := hd.aid_eq hevent
  let o := v.output (Scope.of d.pools event r.subEvent) r.search d.people.values
  have hrow : ∀ {row}, row ∈ o.rows ↔ ∃ p, d.people.get? p.id = some p ∧ d.Shown event v r p ∧
      row = ⟨p.id, (Plan.of v.columns).row (Scope.of d.pools event r.subEvent) p⟩ := by
    intro row
    simp only [o, View.output, List.mem_map, List.mem_filter, hd.mem_values_iff, ← shown_iff haid, and_assoc, eq_comm]
  have hincreasing : o.rows.Pairwise fun row row' => Utf8.bytes row.participantId < Utf8.bytes row'.participantId := by
    change (List.map _ _).Pairwise _
    rw [List.pairwise_map]
    exact hd.values_increasing.filter _
  have hids : o.participantIds.Nodup := v.nodup_participantIds _ _ hd.nodup_ids
  refine ⟨haid, rfl, rfl, rfl, hincreasing, fun id => ?_, fun row hmem => ?_⟩
  · rw [ViewOutput.participantIds, List.mem_map]
    constructor
    · rintro ⟨row, hmem, rfl⟩
      obtain ⟨p, hp, hshown, rfl⟩ := hrow.mp hmem
      exact ⟨p, hp, hshown⟩
    · rintro ⟨p, hp, hshown⟩
      obtain rfl := hd.id_eq hp
      exact ⟨_, hrow.mpr ⟨p, hp, hshown, rfl⟩, rfl⟩
  · obtain ⟨p, hp, -, hcells⟩ := hrow.mp hmem
    have hcell : ∀ (i : Nat) (column : Column), o.plan.columns[i]? = some column →
        row.cells[i]? = some (column.kind.cell (Scope.of d.pools event r.subEvent) p) := by
      intro i column hi
      rw [hcells, Plan.row, List.getElem?_map]
      exact congrArg _ hi
    refine ⟨p, ?_, ?_, fun i column hi => ⟨hcell i column hi, ?_⟩⟩
    · rw [hcells]
      exact hp
    · rw [hcells]
      exact List.length_map _
    · rw [← hcell i column hi]
      exact ViewOutput.cell?_eq (Plan.nodup_fields v.columns) hids hmem hi

/-! ## Requests -/

theorem view_of_unknownEvent {d : Desk} {r : ViewRequest} (hevent : d.events.get? r.aid = none) (key : String) :
    d.view key r = .error (.viewUnknownEvent r.aid) := by
  simp only [view, hevent]

theorem view_of_unknownView {d : Desk} {r : ViewRequest} {event : Event} (hevent : d.events.get? r.aid = some event)
    {key : String} (hview : d.views.get? (event.viewNamed key) = none) :
    d.view key r = .error (.viewUnknownView key (event.viewNamed key)) := by
  simp only [view, hevent, hview]

theorem view_of_known {d : Desk} {r : ViewRequest} {event : Event} (hevent : d.events.get? r.aid = some event)
    {key : String} {v : View} (hview : d.views.get? (event.viewNamed key) = some v) :
    d.view key r = .ok (v.output (Scope.of d.pools event r.subEvent) r.search d.people.values) := by
  simp only [view, hevent, hview]

/-- An answer is given for an event and a view that the desk knows. -/
theorem known_of_ok {d : Desk} {key : String} {r : ViewRequest} {o : ViewOutput} (ho : d.view key r = .ok o) :
    ∃ event v, d.events.get? r.aid = some event ∧ d.views.get? (event.viewNamed key) = some v ∧
      v.output (Scope.of d.pools event r.subEvent) r.search d.people.values = o := by
  cases hevent : d.events.get? r.aid with
  | none => cases (view_of_unknownEvent hevent key).symm.trans ho
  | some event =>
    cases hview : d.views.get? (event.viewNamed key) with
    | none => cases (view_of_unknownView hevent hview).symm.trans ho
    | some v => exact ⟨event, v, rfl, hview, Except.ok.inj ((view_of_known hevent hview).symm.trans ho)⟩

/-- An answer is the one determined, for the event and for a view that the desk knows. -/
theorem answers_of_ok {d : Desk} (hd : d.Reached) {key : String} {r : ViewRequest} {o : ViewOutput}
    (ho : d.view key r = .ok o) : ∃ event v, d.events.get? r.aid = some event ∧ d.Answers event v r o := by
  obtain ⟨event, v, hevent, -, rfl⟩ := known_of_ok ho
  exact ⟨event, v, hevent, answers_output hd hevent v⟩

/-- A request for a view fails for want of the event or, if there is the event, for want of the view that stands behind
the key. For no other reason does it fail: otherwise the answer is the one that the request and the records
determine. -/
theorem view_answered {d : Desk} (hd : d.Reached) (key : String) (r : ViewRequest) :
    (d.view key r = .error (.viewUnknownEvent r.aid) ↔ d.events.get? r.aid = none) ∧
      ∀ event, d.events.get? r.aid = some event →
        (d.view key r = .error (.viewUnknownView key (event.viewNamed key)) ↔
          d.views.get? (event.viewNamed key) = none) ∧
        ∀ v, d.views.get? (event.viewNamed key) = some v →
          ∃ o, d.view key r = .ok o ∧ o.view = event.viewNamed key ∧ d.Answers event v r o := by
  refine ⟨⟨fun herror => ?_, fun hevent => view_of_unknownEvent hevent key⟩, fun event hevent =>
    ⟨⟨fun herror => ?_, view_of_unknownView hevent⟩, fun v hview => ?_⟩⟩
  · cases hevent : d.events.get? r.aid with
    | none => rfl
    | some event =>
      cases hview : d.views.get? (event.viewNamed key) with
      | none => cases (view_of_unknownView hevent hview).symm.trans herror
      | some v => cases (view_of_known hevent hview).symm.trans herror
  · cases hview : d.views.get? (event.viewNamed key) with
    | none => rfl
    | some v => cases (view_of_known hevent hview).symm.trans herror
  · exact ⟨_, view_of_known hevent hview, hd.viewName_eq hview, answers_output hd hevent v⟩

/-- Two people, an event for everyone and a view with a name of its own for the dashboard, as a document. -/
def roster : Json :=
  .record
    [("participants", .list
      [.record [("id", .text "p-002"), ("first", .text "Maria"), ("last", .text "Lopez"),
        ("email", .text "maria.lopez@example.org")],
       .record [("id", .text "p-001"), ("first", .text "Tenzin"), ("last", .text "Dolma")]]),
     ("events", .list [.record [("aid", .text Demo.aid),
      ("config", .record [("pool", .text "everyone"), ("dashboardViews", .record [("people", .text "roster")])])]]),
     ("pools", .list [.record [("name", .text "everyone"), ("attributes", .list [.record [("type", .text "true")]])]]),
     ("views", .list [.record [("name", .text "roster"),
      ("columnDefs", .list [.record [("name", .text "email")], .record [("name", .text "email")]]),
      ("viewConditions", .list [.record [("name", .text "baseBool"), ("boolName", .text "unsubscribe"),
        ("boolValue", .bool false)]])]])]

def afterRoster : Snapshot :=
  { participants :=
      [{ id := "p-002", first := "Maria", last := "Lopez", email := "maria.lopez@example.org" },
       { id := "p-001", first := "Tenzin", last := "Dolma" }]
    events := [{ aid := Demo.aid
                 config := { pool := some "everyone", dashboardViews := .ofList [("people", "roster")] } }]
    pools := [{ name := "everyone", rules := [.everyone] }]
    views := [{ name := "roster", columns := [{ name := "email" }, { name := "email" }]
                filters := [.expect (.baseField "unsubscribe") false] }] }

/-- Of two people the one is found whose last name was typed, with the address in the column of that name. Another key
and another event are not known. -/
theorem view_answered_roster :
    (∃ o, (ofSnapshot afterRoster).view "people" ⟨Demo.aid, none, some " LOPEZ "⟩ = .ok o ∧ o.view = "roster" ∧
      "p-002" ∈ o.participantIds ∧ "p-001" ∉ o.participantIds ∧
      ∃ cell, o.cell? "p-002" "email" = some cell ∧ cell.display = "maria.lopez@example.org") ∧
    (ofSnapshot afterRoster).view "people" ⟨"sw1999", none, none⟩ = .error (.viewUnknownEvent "sw1999") ∧
    (ofSnapshot afterRoster).view "finance" ⟨Demo.aid, none, none⟩ = .error (.viewUnknownView "finance" "finance") := by
  have hloaded : Snapshot.layout.read (.value roster) = .ok afterRoster := rfl
  have hd : (ofSnapshot afterRoster).Reached := .loaded hloaded
  refine ⟨?_, (view_answered hd "people" ⟨"sw1999", none, none⟩).1.mpr rfl,
    ((view_answered hd "finance" ⟨Demo.aid, none, none⟩).2 _ rfl).1.mpr rfl⟩
  obtain ⟨o, ho, hview, hanswers⟩ :=
    ((view_answered hd "people" ⟨Demo.aid, none, some " LOPEZ "⟩).2 _ rfl).2 _ rfl
  have hmaria : "p-002" ∈ o.participantIds := by
    refine (hanswers.shown "p-002").mpr ⟨_, rfl, ?_, ?_, ?_⟩
    · rintro _ ⟨⟩
      exact (memberAlong_registered rfl List.not_mem_nil _ _).trans rfl
    · intro f hf
      cases List.mem_singleton.mp hf
      rfl
    · rintro _ ⟨⟩ -
      exact .inl (by decide +kernel)
  have htenzin : "p-001" ∉ o.participantIds := by
    intro hmem
    obtain ⟨p, hp, hshown⟩ := (hanswers.shown "p-001").mp hmem
    cases hp
    exact absurd (hshown.found " LOPEZ " rfl (by decide +kernel)) (by decide +kernel)
  refine ⟨o, ho, hview, hmaria, htenzin, ?_⟩
  obtain ⟨row, hrow, hid⟩ := List.mem_map.mp hmaria
  obtain ⟨p, hp, -, hcells⟩ := hanswers.cells row hrow
  rw [hid] at hp hcells
  cases hp
  refine ⟨_, (hcells 0 (Column.of { name := "email" }) ?_).2, rfl⟩
  rw [hanswers.plan]
  rfl

end Desk

end RetreatDesk
