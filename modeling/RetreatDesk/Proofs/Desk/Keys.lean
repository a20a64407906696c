import RetreatDesk.Demo.Registry
import RetreatDesk.Proofs.Desk.Reached
import RetreatDesk.Proofs.Registry.Slots
import RetreatDesk.Proofs.Text.ByteOrder

/-!
# Everybody under the own key

A person is found under a key, but the members of a pool are told by the keys that the records hold. Both are the same
because no change can move the key of a record.

* `Participant.id_of_changed`: the person after a change has the key that the change is about.
* `Reached.id_eq`: everybody a desk knows is found under the own key.
* `Reached.values_increasing`: people come in the order of their keys.
* `mem_keys_updateAll`: whom a desk knows after changes: those it knew and those the accepted changes are about.
* `people_and_members_after_changes`: what holds of keys and members after any changes to any snapshot.
-/

namespace RetreatDesk

open Json

namespace Participant

theorem sound_of_readable {p : Participant} (hp : p.Readable) : (Facet.whole layout.read toJson).Sound p := by
  obtain ⟨v, hv⟩ := hp
  exact ⟨some v, hv⟩

theorem nodup_fields {p : Participant} (hp : p.Readable) : (keysOf p.toJson.fields).Nodup := by
  have hnodup := (described.composite toJson_eq).nodup (sound_of_readable hp)
  rw [toJson_eq]
  exact hnodup

theorem nodup_changedRecord {current : Option Participant} (hcurrent : ∀ p ∈ current, p.Readable) (c : Change) :
    ∃ fs, changedRecord current c = .record (put "id" (.text c.participantId) fs) ∧ (keysOf fs).Nodup := by
  cases current with
  | none =>
    have hnothing : (keysOf ([] : List (String × Json))).Nodup := List.nodup_nil
    exact ⟨_, rfl, nodup_overlayFields hnothing _⟩
  | some p => exact ⟨_, rfl, nodup_overlayFields (nodup_fields (hcurrent p rfl)) _⟩

/-- The key is set after everything the change says, so the person has the key the change is about. -/
theorem id_of_changed {current : Option Participant} (hcurrent : ∀ p ∈ current, p.Readable) {c : Change}
    {p : Participant} (h : changed current c = .ok p) : p.id = c.participantId := by
  obtain ⟨fs, hrecord, hfs⟩ := nodup_changedRecord hcurrent c
  rw [changed_eq_ok, hrecord, described.read_record_iff (nodup_keys_put _ _ hfs)] at h
  have hid := h.1 (.label "id" none (·.id) fun s p => { p with id := s }) List.mem_cons_self
  change (Facet.label none).fits ((put "id" (.text c.participantId) fs).lookup "id") p.id at hid
  rw [lookup_put_self] at hid
  exact (Except.ok.inj hid).symm

end Participant

namespace Desk

/-! ## Keys -/

/-- Everybody a desk knows is found under the own key. -/
theorem Reached.id_eq {d : Desk} (hd : d.Reached) {id : String} {p : Participant} (hp : d.people.get? id = some p) :
    p.id = id := by
  induction hd generalizing id p with
  | loaded h => exact (Sorted.mem_of_get?_keyed hp).2
  | @updated d hd c ih =>
    cases hupdate : d.update c with
    | error problem =>
      rw [updated_of_error hupdate] at hp
      exact ih hp
    | ok e =>
      rw [updated_of_ok hupdate] at hp
      obtain ⟨q, hq, rfl⟩ := update_eq_ok.mp hupdate
      by_cases hid : id = c.participantId
      · subst hid
        rw [Sorted.get?_insert_self] at hp
        cases hp
        exact Participant.id_of_changed (fun r hr => hd.readable hr) hq
      · rw [Sorted.get?_insert_of_ne _ hid] at hp
        exact ih hp

theorem Reached.aid_eq {d : Desk} (hd : d.Reached) {aid : String} {event : Event} (h : d.events.get? aid = some event) :
    event.aid = aid := by
  obtain ⟨_, s, -, -, hevents, -⟩ := hd.catalogs
  rw [hevents] at h
  exact (Sorted.mem_of_get?_keyed h).2

theorem Reached.viewName_eq {d : Desk} (hd : d.Reached) {name : String} {v : View} (h : d.views.get? name = some v) :
    v.name = name := by
  obtain ⟨_, s, -, -, -, hviews⟩ := hd.catalogs
  rw [hviews] at h
  exact (Sorted.mem_of_get?_keyed h).2

theorem Reached.mem_values_iff {d : Desk} (hd : d.Reached) {p : Participant} :
    p ∈ d.people.values ↔ d.people.get? p.id = some p := by
  constructor
  · intro hp
    obtain ⟨e, he, rfl⟩ := List.mem_map.mp hp
    have hfound : d.people.get? e.1 = some e.2 := lookup_of_mem d.people.nodup_keys he
    rw [hd.id_eq hfound]
    exact hfound
  · intro hp
    exact List.mem_map.mpr ⟨(p.id, p), mem_of_lookup hp, rfl⟩

/-- People come in the order of the bytes of their keys. -/
theorem Reached.values_increasing {d : Desk} (hd : d.Reached) :
    d.people.values.Pairwise fun p q => Utf8.bytes p.id < Utf8.bytes q.id := by
  have hid : ∀ e ∈ d.people.entries, e.2.id = e.1 := fun e he => hd.id_eq (lookup_of_mem d.people.nodup_keys he)
  rw [Sorted.values, List.pairwise_map]
  refine d.people.increasing.imp_of_mem fun {e e'} he he' hlt => ?_
  rw [hid e he, hid e' he']
  exact Utf8.bytes_lt_bytes hlt

theorem Reached.nodup_ids {d : Desk} (hd : d.Reached) : (d.people.values.map (·.id)).Nodup := by
  rw [List.Nodup, List.pairwise_map]
  refine hd.values_increasing.imp fun {p q} hlt heq => ?_
  rw [heq] at hlt
  exact List.lt_irrefl _ hlt

/-- The changes of a run that are taken in. -/
def accepted (d : Desk) : List Change → List Change
  | [] => []
  | c :: rest =>
    match d.update c with
    | .ok e => c :: accepted e rest
    | .error _ => accepted d rest

theorem mem_keys_update {d e : Desk} {c : Change} (h : d.update c = .ok e) {id : String} :
    id ∈ e.people.keys ↔ id ∈ d.people.keys ∨ id = c.participantId := by
  obtain ⟨p, -, rfl⟩ := update_eq_ok.mp h
  exact Sorted.mem_keys_insert

/-- Whom a desk knows after changes. -/
theorem mem_keys_updateAll (d : Desk) (changes : List Change) {id : String} :
    id ∈ (d.updateAll changes).people.keys ↔
      id ∈ d.people.keys ∨ ∃ c ∈ d.accepted changes, c.participantId = id := by
  induction changes generalizing d with
  | nil => simp [updateAll, accepted]
  | cons c rest ih =>
    have hrun : d.updateAll (c :: rest) = (d.updated c).updateAll rest := rfl
    rw [hrun, ih]
    cases hupdate : d.update c with
    | error problem =>
      have haccepted : d.accepted (c :: rest) = d.accepted rest := by rw [accepted, hupdate]
      rw [updated_of_error hupdate, haccepted]
    | ok e =>
      have haccepted : d.accepted (c :: rest) = c :: e.accepted rest := by rw [accepted, hupdate]
      rw [updated_of_ok hupdate, haccepted, mem_keys_update hupdate, List.exists_mem_cons_iff, or_assoc, eq_comm]

theorem mem_keys_ofSnapshot {s : Snapshot} {id : String} :
    id ∈ (ofSnapshot s).people.keys ↔ ∃ p ∈ s.participants, p.id = id := by
  have hkeys : keysOf (s.participants.map fun p => (p.id, p)) = s.participants.map (·.id) := by
    rw [keysOf, List.map_map]
    rfl
  change id ∈ (Sorted.ofList _).keys ↔ _
  rw [Sorted.mem_keys_ofList, hkeys, List.mem_map]

/-! ## Members -/

/-- The members of a pool are told in the order of the bytes of their keys. -/
theorem members_increasing {d : Desk} (hd : d.Reached) (pool aid : String) :
    (d.members pool aid).Pairwise fun id id' => Utf8.bytes id < Utf8.bytes id' := by
  rw [members, List.pairwise_map]
  exact hd.values_increasing.filter _

theorem isMember_eq_ok {d : Desk} {pool id aid : String} {b : Bool} :
    d.isMember pool id aid = .ok b ↔ ∃ p, d.people.get? id = some p ∧ member d.pools p aid pool = b := by
  unfold isMember person
  cases hp : d.people.get? id with
  | none =>
    constructor
    · intro h
      cases h
    · rintro ⟨_, h, -⟩
      cases h
  | some p =>
    constructor
    · intro h
      exact ⟨p, rfl, Except.ok.inj h⟩
    · rintro ⟨q, hq, hmember⟩
      cases hq
      exact congrArg Except.ok hmember

theorem mem_members_iff {d : Desk} (hd : d.Reached) {pool id aid : String} :
    id ∈ d.members pool aid ↔ d.isMember pool id aid = .ok true := by
  rw [isMember_eq_ok, members, List.mem_map]
  constructor
  · rintro ⟨p, hp, rfl⟩
    obtain ⟨hknown, hmember⟩ := List.mem_filter.mp hp
    exact ⟨p, hd.mem_values_iff.mp hknown, hmember⟩
  · rintro ⟨p, hp, hmember⟩
    obtain rfl := hd.id_eq hp
    exact ⟨p, List.mem_filter.mpr ⟨hd.mem_values_iff.mpr hp, hmember⟩, rfl⟩

/-! ## After any changes -/

/-- After any changes to any snapshot, everybody is found under the own key, the members of a pool come in the order of
their keys and are those who belong to it when asked for one by one, and the desk knows those whom the snapshot or an
accepted change is about. -/
theorem people_and_members_after_changes {doc : Draft} {s : Snapshot} (h : Snapshot.layout.read doc = .ok s)
    (changes : List Change) :
    (∀ id p, ((ofSnapshot s).updateAll changes).people.get? id = some p → p.id = id) ∧
    (∀ pool aid, (((ofSnapshot s).updateAll changes).members pool aid).Pairwise
        (fun id id' => Utf8.bytes id < Utf8.bytes id') ∧
      ∀ id, id ∈ ((ofSnapshot s).updateAll changes).members pool aid ↔
        ((ofSnapshot s).updateAll changes).isMember pool id aid = .ok true) ∧
    ∀ id, id ∈ ((ofSnapshot s).updateAll changes).people.keys ↔
      (∃ p ∈ s.participants, p.id = id) ∨ ∃ c ∈ (ofSnapshot s).accepted changes, c.participantId = id := by
  have hd : ((ofSnapshot s).updateAll changes).Reached := (Reached.loaded h).updateAll changes
  refine ⟨fun id p hp => hd.id_eq hp, fun pool aid => ?_, fun id => ?_⟩
  · exact ⟨members_increasing hd pool aid, fun id => mem_members_iff hd⟩
  · rw [mem_keys_updateAll, mem_keys_ofSnapshot]

/-- Somebody and a pool for everyone, as a document. -/
def roll : Json :=
  .record [("participants", .list [.record [("id", .text "p-003")]]),
    ("pools", .list [.record [("name", .text "everyone"), ("attributes", .list [.record [("type", .text "true")]])]])]

def afterRoll : Snapshot :=
  { participants := [{ id := "p-003" }], pools := [{ name := "everyone", rules := [.everyone] }] }

/-- Two changes that would move a key, and one that cannot be taken in. -/
def intruders : List Change :=
  [⟨"p-002", [("id", .text "p-009"), ("first", .text "Barbara")]⟩, ⟨"p-001", [("programs", .text "closed")]⟩,
    ⟨"p-003", [("id", .text "p-008")]⟩]

/-- The newcomer is found and told under the key that the change is about, and nobody else is new. -/
theorem people_and_members_after_changes_intruders :
    "p-002" ∈ ((ofSnapshot afterRoll).updateAll intruders).members "everyone" Demo.aid ∧
      "p-009" ∉ ((ofSnapshot afterRoll).updateAll intruders).people.keys ∧
      "p-001" ∉ ((ofSnapshot afterRoll).updateAll intruders).people.keys := by
  have hloaded : Snapshot.layout.read (.value roll) = .ok afterRoll := rfl
  have haccepted : ((ofSnapshot afterRoll).accepted intruders).map (·.participantId) = ["p-002", "p-003"] := rfl
  obtain ⟨-, hmembers, hkeys⟩ := people_and_members_after_changes hloaded intruders
  have hunknown : ∀ id, id ∉ ["p-003", "p-002"] → id ∉ ((ofSnapshot afterRoll).updateAll intruders).people.keys := by
    intro id hid hmem
    rcases (hkeys id).mp hmem with ⟨p, hp, rfl⟩ | ⟨c, hc, rfl⟩
    · cases List.mem_singleton.mp hp
      exact hid (by decide)
    · have htaken : c.participantId ∈ ((ofSnapshot afterRoll).accepted intruders).map (·.participantId) :=
        List.mem_map.mpr ⟨c, hc, rfl⟩
      rw [haccepted] at htaken
      exact hid (List.mem_cons.mpr ((List.mem_pair.mp htaken).symm.imp id List.mem_singleton.mpr))
  have hmember : ((ofSnapshot afterRoll).updateAll intruders).isMember "everyone" "p-002" Demo.aid = .ok true := by
    refine isMember_eq_ok.mpr ⟨_, rfl, ?_⟩
    exact (memberAlong_registered rfl List.not_mem_nil _ _).trans rfl
  exact ⟨((hmembers "everyone" Demo.aid).2 "p-002").mpr hmember, hunknown _ (by decide), hunknown _ (by decide)⟩

end Desk

end RetreatDesk
