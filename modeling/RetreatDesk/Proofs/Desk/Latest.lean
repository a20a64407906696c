import RetreatDesk.Demo.Registry
import RetreatDesk.Proofs.Desk.Reached
import RetreatDesk.Web.Exchange

/-!
# The record that counts

Of the records with one key a desk knows the last one, whether they are people, events, pools or views. Earlier ones
leave no trace, nor does the order in which records with different keys come.

* `latest?`: the last record with a key.
* `Sorted.keyed_eq_iff`: what is stored is determined by the last records.
* `latest?_of_later`, `latest?_perm`: earlier duplicates and the order of distinct keys do not matter.
* `Snapshot.SameLatest`: two snapshots with the same last records.
* `Desk.ofSnapshot_eq_iff`: they are those that make one and the same desk.
* `Desk.session`: operations one after another, each with its answer.
* `Desk.session_of_sameLatest`: no operations tell such snapshots apart.
-/

namespace RetreatDesk

/-! ## The last record with a key -/

section
variable {α : Type} (key : α → String)

/-- The last record with a key. -/
def latest? (records : List α) (k : String) : Option α := records.reverse.find? (key · = k)

theorem lookup_map_keyed (l : List α) (k : String) :
    (l.map fun a => (key a, a)).lookup k = l.find? (key · = k) := by
  induction l with
  | nil => rfl
  | cons a rest ih =>
    by_cases h : key a = k
    · subst h
      simp
    · rw [List.map_cons, lookup_cons_of_ne (Ne.symm h), ih, List.find?_cons, decide_eq_false h]

theorem Sorted.get?_keyed (records : List α) (k : String) :
    (Sorted.ofList (records.map fun a => (key a, a))).get? k = latest? key records k := by
  rw [get?_ofList_eq_lookup_reverse, ← List.map_reverse, lookup_map_keyed]
  rfl

/-- The records that count are all that is left of records stored under keys of their own. -/
theorem Sorted.keyed_eq_iff {records records' : List α} :
    Sorted.ofList (records.map fun a => (key a, a)) = Sorted.ofList (records'.map fun a => (key a, a)) ↔
      ∀ k, latest? key records k = latest? key records' k := by
  constructor
  · intro h k
    rw [← get?_keyed, ← get?_keyed, h]
  · intro h
    apply ext_get?
    intro k
    rw [get?_keyed, get?_keyed, h]

theorem latest?_append (records records' : List α) (k : String) :
    latest? key (records ++ records') k = (latest? key records' k).or (latest? key records k) := by
  rw [latest?, List.reverse_append, List.find?_append]
  rfl

theorem latest?_of_later (before : List α) {a : α} {after : List α} (h : key a ∈ after.map key) (k : String) :
    latest? key (before ++ a :: after) k = latest? key (before ++ after) k := by
  have hafter : latest? key (a :: after) k = latest? key after k := by
    rw [← List.singleton_append, latest?_append]
    by_cases hk : key a = k
    · obtain ⟨b, hb, hsame⟩ := List.mem_map.mp h
      refine Option.or_of_isSome ?_
      rw [latest?, List.find?_isSome]
      exact ⟨b, List.mem_reverse.mpr hb, decide_eq_true (hsame.trans hk)⟩
    · rw [latest?, latest?, List.reverse_singleton, List.find?_singleton, decide_eq_false hk]
      exact Option.or_none
  rw [latest?_append, latest?_append, hafter]

theorem latest?_perm {records records' : List α} (h : records'.Perm records) (hkeys : (records.map key).Nodup)
    (k : String) : latest? key records' k = latest? key records k := by
  have hentries : (keysOf (records.map fun a => (key a, a))).Nodup := by
    rw [keysOf, List.map_map]
    exact hkeys
  rw [latest?, latest?, ← lookup_map_keyed, ← lookup_map_keyed, List.map_reverse, List.map_reverse,
    lookup_perm (List.reverse_perm _) hentries]
  apply lookup_perm _ hentries
  exact (List.reverse_perm _).trans (h.map _)

end

/-- Two snapshots with the same last record under every key of every collection. -/
structure Snapshot.SameLatest (s s' : Snapshot) : Prop where
  participants : ∀ id, latest? (·.id) s.participants id = latest? (·.id) s'.participants id
  events : ∀ aid, latest? (·.aid) s.events aid = latest? (·.aid) s'.events aid
  pools : ∀ name, latest? (·.name) s.pools name = latest? (·.name) s'.pools name
  views : ∀ name, latest? (·.name) s.views name = latest? (·.name) s'.views name

namespace Desk

/-! ## The desk of the last records -/

/-- A desk that knows under every key the last record of a snapshot, and nothing else. -/
structure KnowsLatest (d : Desk) (s : Snapshot) : Prop where
  people : ∀ id, d.people.get? id = latest? (·.id) s.participants id
  events : ∀ aid, d.events.get? aid = latest? (·.aid) s.events aid
  pools : ∀ name, d.pools.get? name = latest? (·.name) s.pools name
  views : ∀ name, d.views.get? name = latest? (·.name) s.views name

theorem ofSnapshot_knowsLatest (s : Snapshot) : (ofSnapshot s).KnowsLatest s :=
  ⟨Sorted.get?_keyed _ _, Sorted.get?_keyed _ _, Sorted.get?_keyed _ _, Sorted.get?_keyed _ _⟩

theorem ofSnapshot_eq_iff {s s' : Snapshot} : ofSnapshot s = ofSnapshot s' ↔ s.SameLatest s' := by
  rw [ofSnapshot, ofSnapshot, mk.injEq, Sorted.keyed_eq_iff, Sorted.keyed_eq_iff, Sorted.keyed_eq_iff,
    Sorted.keyed_eq_iff]
  constructor
  · rintro ⟨hpools, hevents, hviews, hpeople⟩
    exact ⟨hpeople, hevents, hpools, hviews⟩
  · rintro ⟨hpeople, hevents, hpools, hviews⟩
    exact ⟨hpools, hevents, hviews, hpeople⟩

/-! ## Operations one after another -/

/-- What a desk can be asked to do. -/
inductive Operation where
  | isMember (pool id aid : String)
  | members (pool aid : String)
  | view (key : String) (r : ViewRequest)
  | account (id aid : String) (subEvent : Option String)
  | update (c : Change)
  | catalog

/-- What is answered to an operation. A change that is taken in is answered without a word. -/
def Operation.Answer : Operation → Type
  | isMember .. => Except DeskError Bool
  | members .. => List String
  | view .. => Except DeskError ViewOutput
  | account .. => Except DeskError Account
  | update _ => Except DeskError Unit
  | catalog => Json

/-- The answer of a desk to an operation. -/
def reply (d : Desk) : (op : Operation) → op.Answer
  | .isMember pool id aid => d.isMember pool id aid
  | .members pool aid => d.members pool aid
  | .view key r => d.view key r
  | .account id aid subEvent => d.account id aid subEvent
  | .update c => (d.update c).map fun _ => ()
  | .catalog => Web.catalog d

/-- The desk after an operation. Only a change leaves another desk. -/
def next (d : Desk) : Operation → Desk
  | .update c => d.updated c
  | _ => d

/-- Operations one after another, each with its answer. -/
def session (d : Desk) : List Operation → List (Σ op : Operation, op.Answer)
  | [] => []
  | op :: rest => ⟨op, d.reply op⟩ :: session (d.next op) rest

/-- A desk knows the last record under every key, and two snapshots with the same last records get the same answers to
any operations one after another, changes included. -/
theorem session_of_sameLatest {s s' : Snapshot} (h : s.SameLatest s') :
    (ofSnapshot s).KnowsLatest s ∧ (ofSnapshot s').KnowsLatest s' ∧
      ∀ ops, (ofSnapshot s).session ops = (ofSnapshot s').session ops := by
  refine ⟨ofSnapshot_knowsLatest s, ofSnapshot_knowsLatest s', ?_⟩
  intro ops
  rw [ofSnapshot_eq_iff.mpr h]

/-- Records of all four kinds, each kind with a record that was put right later on. -/
def corrections : Snapshot where
  participants := [{ id := "p-002", first := "Mary" }, { id := "p-001" }, { id := "p-002", first := "Maria" }]
  events := [{ aid := Demo.aid }, { aid := Demo.aid, config := { pool := some "everyone" } }]
  pools := [{ name := "everyone" }, { name := "everyone", rules := [.everyone] }]
  views := [{ name := "people" }, { name := "people", columns := [{ name := "first" }] }]

/-- The records that count, in another order. -/
def corrected : Snapshot where
  participants := [{ id := "p-002", first := "Maria" }, { id := "p-001" }]
  events := [{ aid := Demo.aid, config := { pool := some "everyone" } }]
  pools := [{ name := "everyone", rules := [.everyone] }]
  views := [{ name := "people", columns := [{ name := "first" }] }]

/-- The name that was put right is the one known, and a newcomer is shown among the same people on both desks. -/
theorem session_of_sameLatest_corrections :
    (ofSnapshot corrections).people.get? "p-002" = some { id := "p-002", first := "Maria" } ∧
      (ofSnapshot corrections).session [.update ⟨"p-003", []⟩, .view "people" ⟨Demo.aid, none, none⟩, .catalog] =
        (ofSnapshot corrected).session [.update ⟨"p-003", []⟩, .view "people" ⟨Demo.aid, none, none⟩, .catalog] := by
  have hsame : corrections.SameLatest corrected := by
    refine ⟨fun id => ?_, fun aid => ?_, fun name => ?_, fun name => ?_⟩
    · have hlater : latest? (·.id) corrections.participants id =
          latest? (·.id) [{ id := "p-001" }, { id := "p-002", first := "Maria" }] id :=
        latest?_of_later _ [] (by decide) id
      exact hlater.trans (latest?_perm _ (List.Perm.swap _ _ _) (by decide) id)
    · exact latest?_of_later _ [] (by decide) aid
    · exact latest?_of_later _ [] (by decide) name
    · exact latest?_of_later _ [] (by decide) name
  obtain ⟨hknows, -, hsession⟩ := session_of_sameLatest hsame
  exact ⟨(hknows.people "p-002").trans rfl, hsession _⟩

end Desk

end RetreatDesk
