import RetreatDesk.Proofs.Desk.Cells
import RetreatDesk.Proofs.View.Fact

/-!
# A condition and its opposite

What is not on record is not so, and what is not so is what the opposite condition asks for. Of two views that differ
in what they expect of one fact, one or the other shows each person that the view shows without the condition.

* `merge_filter`: items in order are the merge of those that pass a test and of those that fail it.
* `View.withFilter`, `View.shown_withFilter`: a view with one more condition, and whom it shows.
* `ViewOutput.Halves`: two answers share the rows of a third.
* `Desk.view_halves`: a condition and its opposite share the rows of a view.
-/

namespace RetreatDesk

/-! ## Merging -/

theorem merge_filter {α : Type} (key : α → List UInt8) {l : List α} (hl : l.Pairwise fun a b => key a < key b)
    (test : α → Bool) :
    (l.filter test).merge (l.filter fun a => !test a) (fun a b => decide (key a ≤ key b)) = l := by
  have hle : l.Pairwise fun a b => decide (key a ≤ key b) = true :=
    hl.imp fun hlt => decide_eq_true (List.le_of_lt hlt)
  have hmerged : ((l.filter test).merge (l.filter fun a => !test a) fun a b => decide (key a ≤ key b)).Pairwise
      fun a b => decide (key a ≤ key b) = true := by
    apply List.pairwise_merge _ _ _ _ (hle.filter _) (hle.filter _)
    · intro a b c hab hbc
      exact decide_eq_true (List.le_trans (of_decide_eq_true hab) (of_decide_eq_true hbc))
    · intro a b
      rw [Bool.or_eq_true, decide_eq_true_eq, decide_eq_true_eq]
      exact List.le_total _ _
  have hperm : ((l.filter test).merge (l.filter fun a => !test a) fun a b => decide (key a ≤ key b)).Perm l :=
    (List.merge_perm_append _).trans (List.filter_append_perm test l)
  -- Two items with one key are one item, so that only one order is left.
  have hkeys : (l.map key).Nodup := by
    rw [List.Nodup, List.pairwise_map]
    exact hl.imp fun {a b} (hlt : key a < key b) (heq : key a = key b) => List.lt_irrefl (key b) (heq ▸ hlt)
  apply hperm.eq_of_pairwise _ hmerged hle
  intro a b ha hb hab hba
  have hsame : key a = key b := List.le_antisymm (of_decide_eq_true hab) (of_decide_eq_true hba)
  exact List.inj_on_of_nodup_map hkeys (hperm.subset ha) hb hsame

/-! ## One more condition -/

theorem ViewFilter.passes_opposites (s : Scope) (fact : ViewFact) :
    (fun p => (ViewFilter.expect fact true).passes s p) = (fun p => fact.isSo s p) ∧
      (fun p => (ViewFilter.expect fact false).passes s p) = fun p => !fact.isSo s p :=
  ⟨funext fun p => (passes_expect s p fact true).trans (beq_true _),
    funext fun p => (passes_expect s p fact false).trans (beq_false _)⟩

namespace View

/-- The view with one more condition, put in after the first few. -/
def withFilter (v : View) (place : Nat) (f : ViewFilter) : View :=
  { v with filters := v.filters.take place ++ f :: v.filters.drop place }

section
variable (v : View) (place : Nat) (f : ViewFilter) (s : Scope)

theorem passesAll_withFilter (p : Participant) :
    passesAll s (v.withFilter place f).filters p = (f.passes s p && passesAll s v.filters p) := by
  have hsplit : passesAll s v.filters p =
      (passesAll s (v.filters.take place) p && passesAll s (v.filters.drop place) p) := by
    rw [passesAll, passesAll, passesAll, ← List.all_append, List.take_append_drop]
  rw [hsplit, passesAll, withFilter, List.all_append, List.all_cons, Bool.and_left_comm]
  rfl

theorem shows_withFilter (term : Option String) (p : Participant) :
    (v.withFilter place f).shows s term p = (f.passes s p && v.shows s term p) := by
  rw [shows_eq, shows_eq, passesAll_withFilter, Bool.and_left_comm, Bool.and_assoc]

/-- One more condition takes from the people shown those that it does not let through. -/
theorem shown_withFilter (search : Option String) (people : List Participant) :
    (v.withFilter place f).shown s search people = (v.shown s search people).filter fun p => f.passes s p := by
  rw [shown, shown, List.filter_filter]
  apply List.filter_congr
  intro p _
  exact v.shows_withFilter place f s _ p

end

end View

/-! ## Halves -/

/-- Two answers share the rows of a third: nobody is in both, and merged in the order of the keys they are its rows. -/
structure ViewOutput.Halves (yes no o : ViewOutput) : Prop where
  disjoint : yes.participantIds.Disjoint no.participantIds
  merged : yes.rows.merge no.rows
    (fun row row' => decide (Utf8.bytes row.participantId ≤ Utf8.bytes row'.participantId)) = o.rows

namespace View

variable (v : View) (place : Nat) (fact : ViewFact) (s : Scope) (search : Option String)

theorem merge_map_row {people : List Participant}
    (hpeople : people.Pairwise fun p q => Utf8.bytes p.id < Utf8.bytes q.id) (test : Participant → Bool) :
    ((people.filter test).map (v.row s)).merge ((people.filter fun p => !test p).map (v.row s))
        (fun row row' => decide (Utf8.bytes row.participantId ≤ Utf8.bytes row'.participantId)) =
      people.map (v.row s) := by
  have hmerged := merge_filter (fun p : Participant => Utf8.bytes p.id) hpeople test
  conv_rhs => rw [← hmerged]
  exact (List.map_merge (f := v.row s) fun _ _ _ _ => rfl).symm

/-- Whatever a condition asks for, it and its opposite share the rows drawn from people in the order of their keys. -/
theorem halves_output {people : List Participant} (hids : (people.map (·.id)).Nodup)
    (hpeople : people.Pairwise fun p q => Utf8.bytes p.id < Utf8.bytes q.id) :
    ViewOutput.Halves ((v.withFilter place (.expect fact true)).output s search people)
      ((v.withFilter place (.expect fact false)).output s search people) (v.output s search people) := by
  obtain ⟨hyes, hno⟩ := ViewFilter.passes_opposites s fact
  constructor
  · have hall := v.nodup_participantIds s search hids
    have hperm := (List.filter_append_perm (fun p => fact.isSo s p) (v.shown s search people)).map (·.id)
    rw [participantIds_output, ← hperm.nodup_iff, List.map_append] at hall
    rw [participantIds_output, participantIds_output, shown_withFilter, shown_withFilter, hyes, hno]
    exact List.disjoint_of_nodup_append hall
  · rw [rows_output, rows_output, shown_withFilter, shown_withFilter, hyes, hno, rows_output]
    exact merge_map_row v s (hpeople.filter _) _

theorem mem_participantIds_expect {people : List Participant} (hids : (people.map (·.id)).Nodup) {p : Participant}
    (hp : p ∈ people) :
    p.id ∈ ((v.withFilter place (.expect fact true)).output s search people).participantIds ↔
      p.id ∈ (v.output s search people).participantIds ∧ fact.isSo s p = true := by
  rw [mem_participantIds_iff _ _ _ hids hp, mem_participantIds_iff _ _ _ hids hp, shown_withFilter,
    (ViewFilter.passes_opposites s fact).1, List.mem_filter]

end View

namespace Desk

/-- The desk with a view in the place of the one of that name. -/
def withView (d : Desk) (v : View) : Desk := { d with views := d.views.insert v.name v }

theorem view_withView {d : Desk} {r : ViewRequest} {event : Event} (hevent : d.events.get? r.aid = some event)
    {key : String} {v : View} (hname : v.name = event.viewNamed key) :
    (d.withView v).view key r = .ok (v.output (Scope.of d.pools event r.subEvent) r.search d.people.values) := by
  have hview : (d.withView v).views.get? (event.viewNamed key) = some v := hname ▸ Sorted.get?_insert_self _ _ _
  exact view_of_known (d := d.withView v) hevent hview

/-- A condition that is put in among those of a view, and its opposite put in there, share the rows of the view:
whoever is shown is shown under the one or under the other, and nobody is under both. Under the condition are those
of whom it is so. -/
theorem view_halves {d : Desk} (hd : d.Reached) (key : String) (r : ViewRequest) {event : Event}
    (hevent : d.events.get? r.aid = some event) {v : View}
    (hview : d.views.get? (event.viewNamed key) = some v) (place : Nat) (fact : ViewFact) :
    ∃ yes no o, (d.withView (v.withFilter place (.expect fact true))).view key r = .ok yes ∧
      (d.withView (v.withFilter place (.expect fact false))).view key r = .ok no ∧ d.view key r = .ok o ∧
      ViewOutput.Halves yes no o ∧
      ∀ id p, d.people.get? id = some p → (id ∈ yes.participantIds ↔
        id ∈ o.participantIds ∧ fact.isSo (Scope.of d.pools event r.subEvent) p = true) := by
  have hname : v.name = event.viewNamed key := hd.viewName_eq hview
  refine ⟨_, _, _, view_withView hevent hname, view_withView hevent hname, view_of_known hevent hview,
    v.halves_output place fact _ r.search hd.nodup_ids hd.values_increasing, ?_⟩
  intro id p hp
  obtain rfl := hd.id_eq hp
  exact v.mem_participantIds_expect place fact _ r.search hd.nodup_ids (hd.mem_values_iff.mpr hp)

/-- The view of accounts with an expectation about a week that was picked. -/
def weekView (value : Bool) : View :=
  ({ name := "accounts", columns := accountColumns } : View).withFilter 0
    (.expect (.currentMap "whichRetreats" "week1") value)

/-- Somebody without a program has not picked the week, and is shown among those who have not. -/
theorem view_halves_accounts : ∃ yes no o,
    ((ofSnapshot afterAccounts).withView (weekView true)).view "accounts" ⟨Demo.aid, none, none⟩ = .ok yes ∧
      ((ofSnapshot afterAccounts).withView (weekView false)).view "accounts" ⟨Demo.aid, none, none⟩ = .ok no ∧
      (ofSnapshot afterAccounts).view "accounts" ⟨Demo.aid, none, none⟩ = .ok o ∧
      ViewOutput.Halves yes no o ∧ yes.participantIds = ["p-001"] ∧ no.participantIds = ["p-002"] := by
  have hloaded : Snapshot.layout.read (.value accounts) = .ok afterAccounts := rfl
  have hd : (ofSnapshot afterAccounts).Reached := .loaded hloaded
  obtain ⟨yes, no, o, hyes, hno, ho, hhalves, -⟩ := view_halves hd "accounts" ⟨Demo.aid, none, none⟩ rfl rfl 0
    (.currentMap "whichRetreats" "week1")
  refine ⟨yes, no, o, hyes, hno, ho, hhalves, ?_, ?_⟩
  · cases hyes
    rfl
  · cases hno
    rfl

end Desk

end RetreatDesk
