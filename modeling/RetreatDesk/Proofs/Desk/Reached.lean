import RetreatDesk.Desk.Update
import RetreatDesk.Proofs.Registry.Readable

/-!
# The desks that can come about

* `Desk.Reached`: a desk that comes of a snapshot and of changes, taken in or rejected, one after another.
* `Desk.update_eq_ok`, `Desk.update_eq_error`: what a change that is taken in does, and when a change is rejected.
* `Reached.catalogs`: the pools, events and views stay those of the snapshot.
* `Reached.readable`: everybody a desk knows has been read from some value.
-/

namespace RetreatDesk

/-- The person has been read from some value. -/
def Participant.Readable (p : Participant) : Prop := ∃ v, layout.read (.value v) = .ok p

theorem Participant.changed_eq_ok {current : Option Participant} {c : Change} {p : Participant} :
    changed current c = .ok p ↔ layout.read (.value (changedRecord current c)) = .ok p := by
  unfold changed
  cases layout.read (.value (changedRecord current c)) with
  | ok q => exact ⟨fun h => congrArg Except.ok (Except.ok.inj h), fun h => congrArg Except.ok (Except.ok.inj h)⟩
  | error problem => exact ⟨fun h => (by cases h), fun h => (by cases h)⟩

namespace Desk

/-! ## Changes -/

theorem update_eq_ok {d e : Desk} {c : Change} :
    d.update c = .ok e ↔ ∃ p, Participant.changed (d.people.get? c.participantId) c = .ok p ∧
      e = { d with people := d.people.insert c.participantId p } := by
  unfold update
  rw [bind_eq_ok]
  refine exists_congr fun p => and_congr_right fun _ => ?_
  exact ⟨fun h => (Except.ok.inj h).symm, fun h => congrArg Except.ok h.symm⟩

theorem update_eq_error {d : Desk} {c : Change} {problem : DeskError} :
    d.update c = .error problem ↔ Participant.changed (d.people.get? c.participantId) c = .error problem := by
  unfold update
  cases Participant.changed (d.people.get? c.participantId) c with
  | ok p => exact ⟨fun h => (by cases h), fun h => (by cases h)⟩
  | error other => exact ⟨fun h => congrArg Except.error (Except.error.inj h), fun h => congrArg _ (Except.error.inj h)⟩

theorem updated_of_ok {d e : Desk} {c : Change} (h : d.update c = .ok e) : d.updated c = e := by
  rw [updated, h]

theorem updated_of_error {d : Desk} {c : Change} {problem : DeskError} (h : d.update c = .error problem) :
    d.updated c = d := by
  rw [updated, h]

/-! ## Reached desks -/

/-- The desks that come of a snapshot and of changes one after another. A rejected change leaves the desk as it is. -/
inductive Reached : Desk → Prop
  | loaded {doc : Draft} {s : Snapshot} (h : Snapshot.layout.read doc = .ok s) : Reached (ofSnapshot s)
  | updated {d : Desk} (hd : Reached d) (c : Change) : Reached (d.updated c)

/-- A change touches nobody but people. -/
theorem updated_eq (d : Desk) (c : Change) : d.updated c = { d with people := (d.updated c).people } := by
  cases hupdate : d.update c with
  | error problem => rw [updated_of_error hupdate]
  | ok e =>
    obtain ⟨p, -, rfl⟩ := update_eq_ok.mp hupdate
    rw [updated_of_ok hupdate]

@[simp] theorem pools_updated (d : Desk) (c : Change) : (d.updated c).pools = d.pools := by rw [updated_eq]

@[simp] theorem events_updated (d : Desk) (c : Change) : (d.updated c).events = d.events := by rw [updated_eq]

@[simp] theorem views_updated (d : Desk) (c : Change) : (d.updated c).views = d.views := by rw [updated_eq]

/-- The pools, events and views of a desk are those of the snapshot that it comes of. -/
theorem Reached.catalogs {d : Desk} (hd : d.Reached) : ∃ doc s, Snapshot.layout.read doc = .ok s ∧
    d.pools = (ofSnapshot s).pools ∧ d.events = (ofSnapshot s).events ∧ d.views = (ofSnapshot s).views := by
  induction hd with
  | loaded h => exact ⟨_, _, h, rfl, rfl, rfl⟩
  | updated hd c ih =>
    rw [updated_eq]
    exact ih

theorem Reached.updateAll {d : Desk} (hd : d.Reached) (changes : List Change) : (d.updateAll changes).Reached := by
  induction changes generalizing d with
  | nil => exact hd
  | cons c rest ih => exact ih (hd.updated c)

/-- Everybody a desk knows has been read from some value. -/
theorem Reached.readable {d : Desk} (hd : d.Reached) {id : String} {p : Participant}
    (hp : d.people.get? id = some p) : p.Readable := by
  induction hd generalizing id p with
  | loaded h =>
    exact (Snapshot.readable_of_read h).participants _ (Sorted.mem_of_get?_keyed hp).1
  | @updated d hd c ih =>
    cases hupdate : d.update c with
    | error problem =>
      rw [updated_of_error hupdate] at hp
      exact ih hp
    | ok e =>
      rw [updated_of_ok hupdate] at hp
      obtain ⟨q, hq, rfl⟩ := update_eq_ok.mp hupdate
      by_cases hid : id = c.participantId
      · subst hid
        rw [Sorted.get?_insert_self] at hp
        cases hp
        exact ⟨_, Participant.changed_eq_ok.mp hq⟩
      · rw [Sorted.get?_insert_of_ne _ hid] at hp
        exact ih hp

end Desk

end RetreatDesk
