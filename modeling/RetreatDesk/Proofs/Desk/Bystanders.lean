import RetreatDesk.Proofs.Desk.Interleaving
import RetreatDesk.Proofs.Desk.View

/-!
# What a change leaves of the answers about others

A change may move one person into a view or out of it, and a newcomer is put in among the others. All other rows stay
as they are and in their order, for each of them comes of the record of its own person.

* `Reached.others_updated`: the other people after a change.
* `ViewOutput.SameBeside`: two answers that are the same but for the row of one person.
* `View.sameBeside_output`: two answers drawn from people who differ in one person are such answers.
* `Desk.answers_beside`: what a change leaves of the answers of a desk.
-/

namespace RetreatDesk

/-! ## Rows -/

/-- Two answers to a request for a view that are the same but for the row of one person, of which each holds at most
one. -/
structure ViewOutput.SameBeside (id : String) (o o' : ViewOutput) : Prop where
  view : o'.view = o.view
  aid : o'.aid = o.aid
  subEvent : o'.subEvent = o.subEvent
  plan : o'.plan = o.plan
  rows : o'.rows.filter (·.participantId ≠ id) = o.rows.filter (·.participantId ≠ id)
  atMostOne : o.participantIds.count id ≤ 1 ∧ o'.participantIds.count id ≤ 1

namespace View

variable (v : View) (s : Scope) (search : Option String)

theorem rows_output_beside (people : List Participant) (id : String) :
    (v.output s search people).rows.filter (·.participantId ≠ id) =
      (v.output s search (people.filter (·.id ≠ id))).rows := by
  rw [rows_output, rows_output, List.filter_map, shown, shown, List.filter_filter, List.filter_filter]
  congr 2
  funext p
  exact Bool.and_comm _ _

/-- Answers drawn from people who differ in one person differ in the row of that person at most. -/
theorem sameBeside_output {people people' : List Participant} {id : String} (hids : (people.map (·.id)).Nodup)
    (hids' : (people'.map (·.id)).Nodup) (h : people'.filter (·.id ≠ id) = people.filter (·.id ≠ id)) :
    (v.output s search people).SameBeside id (v.output s search people') where
  view := rfl
  aid := rfl
  subEvent := rfl
  plan := rfl
  rows := by rw [rows_output_beside, rows_output_beside, h]
  atMostOne :=
    ⟨List.nodup_iff_count_le_one.mp (v.nodup_participantIds s search hids) id,
      List.nodup_iff_count_le_one.mp (v.nodup_participantIds s search hids') id⟩

end View

namespace Desk

/-! ## People -/

theorem Reached.others_eq {d : Desk} (hd : d.Reached) (id : String) :
    d.people.values.filter (·.id ≠ id) = (d.people.entries.filter (·.1 ≠ id)).map (·.2) := by
  rw [Sorted.values, List.filter_map]
  apply congrArg
  apply List.filter_congr
  intro e he
  have hkey : e.2.id = e.1 := hd.id_eq (lookup_of_mem d.people.nodup_keys he)
  rw [Function.comp_apply, hkey]

/-- A change, taken in or rejected, leaves the other people as they are and in their order. -/
theorem Reached.others_updated {d : Desk} (hd : d.Reached) (c : Change) :
    (d.updated c).people.values.filter (·.id ≠ c.participantId) =
      d.people.values.filter (·.id ≠ c.participantId) := by
  cases hupdate : d.update c with
  | error problem => rw [updated_of_error hupdate]
  | ok e =>
    have he : e.Reached := updated_of_ok hupdate ▸ hd.updated c
    obtain ⟨p, -, hinsert⟩ := update_eq_ok.mp hupdate
    -- The changed person is put in among the others or replaced, and stands under the key of the change either way.
    rw [updated_of_ok hupdate, he.others_eq, hd.others_eq, hinsert]
    exact congrArg _ (Sorted.filter_place_ne _ _ _)

/-! ## Answers -/

/-- A request for a view fails after a change as it failed before, or it is answered before and after with the same
view, event, sub-event and columns. -/
theorem view_beside {d : Desk} (hd : d.Reached) (c : Change) (key : String) (r : ViewRequest) :
    (∃ error, d.view key r = .error error ∧ (d.updated c).view key r = .error error) ∨
      ∃ o o', d.view key r = .ok o ∧ (d.updated c).view key r = .ok o' ∧ o.SameBeside c.participantId o' := by
  have hevents := events_updated d c
  have hviews := views_updated d c
  cases hevent : d.events.get? r.aid with
  | none =>
    have hevent' : (d.updated c).events.get? r.aid = none := hevents ▸ hevent
    exact .inl ⟨_, view_of_unknownEvent hevent key, view_of_unknownEvent hevent' key⟩
  | some event =>
    have hevent' : (d.updated c).events.get? r.aid = some event := hevents ▸ hevent
    cases hview : d.views.get? (event.viewNamed key) with
    | none =>
      have hview' : (d.updated c).views.get? (event.viewNamed key) = none := hviews ▸ hview
      exact .inl ⟨_, view_of_unknownView hevent hview, view_of_unknownView hevent' hview'⟩
    | some v =>
      have hview' : (d.updated c).views.get? (event.viewNamed key) = some v := hviews ▸ hview
      refine .inr ⟨_, _, view_of_known hevent hview, view_of_known hevent' hview', ?_⟩
      rw [pools_updated]
      exact v.sameBeside_output _ r.search hd.nodup_ids (hd.updated c).nodup_ids (hd.others_updated c)

section
variable {d : Desk} (c : Change) {id : String} (hid : id ≠ c.participantId)

include hid

theorem person_updated : (d.updated c).person id = d.person id := by
  rw [person, person, get?_updated, if_neg (Ne.symm hid)]

theorem isMember_updated (pool aid : String) : (d.updated c).isMember pool id aid = d.isMember pool id aid := by
  rw [isMember, isMember, person_updated c hid, pools_updated]

theorem account_updated (aid : String) (subEvent : Option String) :
    (d.updated c).account id aid subEvent = d.account id aid subEvent := by
  rw [account, account, person_updated c hid, events_updated]

end

/-- Whether a change of one person is taken in or rejected, it leaves every answer about the others: a view fails as it
failed or keeps all rows of the others, and everybody else stays in and out of every pool and has the same account. -/
theorem answers_beside {d : Desk} (hd : d.Reached) (c : Change) :
    (∀ key r, (∃ error, d.view key r = .error error ∧ (d.updated c).view key r = .error error) ∨
      ∃ o o', d.view key r = .ok o ∧ (d.updated c).view key r = .ok o' ∧ o.SameBeside c.participantId o') ∧
    ∀ id, id ≠ c.participantId → ∀ aid,
      (∀ pool, (d.updated c).isMember pool id aid = d.isMember pool id aid ∧
        (id ∈ (d.updated c).members pool aid ↔ id ∈ d.members pool aid)) ∧
      ∀ subEvent, (d.updated c).account id aid subEvent = d.account id aid subEvent := by
  refine ⟨view_beside hd c, ?_⟩
  intro id hid aid
  refine ⟨?_, account_updated c hid aid⟩
  intro pool
  have hmember : (d.updated c).isMember pool id aid = d.isMember pool id aid := isMember_updated c hid pool aid
  refine ⟨hmember, ?_⟩
  rw [mem_members_iff (hd.updated c), mem_members_iff hd, hmember]

/-- Somebody new, whose key stands between those of the people on the roster. -/
def newcomer : Change := ⟨"p-0015", [("first", .text "Ada"), ("id", .text "p-002")]⟩

/-- The newcomer is shown between two people, and both rows stay as they are. -/
theorem answers_beside_newcomer :
    ((ofSnapshot afterRoster).updated newcomer).people.keys = ["p-001", "p-0015", "p-002"] ∧
      (∃ o o', (ofSnapshot afterRoster).view "people" ⟨Demo.aid, none, none⟩ = .ok o ∧
        ((ofSnapshot afterRoster).updated newcomer).view "people" ⟨Demo.aid, none, none⟩ = .ok o' ∧
        o'.rows.filter (·.participantId ≠ "p-0015") = o.rows.filter (·.participantId ≠ "p-0015")) ∧
      ((ofSnapshot afterRoster).updated newcomer).isMember "everyone" "p-002" Demo.aid =
        (ofSnapshot afterRoster).isMember "everyone" "p-002" Demo.aid := by
  have hloaded : Snapshot.layout.read (.value roster) = .ok afterRoster := rfl
  have hd : (ofSnapshot afterRoster).Reached := .loaded hloaded
  obtain ⟨hviews, hothers⟩ := answers_beside hd newcomer
  refine ⟨rfl, ?_, ((hothers "p-002" (by decide) Demo.aid).1 "everyone").1⟩
  rcases hviews "people" ⟨Demo.aid, none, none⟩ with ⟨error, herror, -⟩ | ⟨o, o', ho, ho', hsame⟩
  · cases herror
  · exact ⟨o, o', ho, ho', hsame.rows⟩

end Desk

end RetreatDesk
