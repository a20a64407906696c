import RetreatDesk.Proofs.Desk.Changed
import RetreatDesk.Proofs.Registry.Broken

/-!
# Changes that are rejected

A change is rejected for the containers that are none in the record it leaves, and for nothing else.

* `Participant.changed_eq_error_iff`: a change of a person is rejected exactly if the changed record is broken.
* `Participant.broken_changedRecord_iff`: the changed record is broken exactly if the change is.
* `Desk.update_rejected_iff`: when a desk rejects a change, and what is left of it then.
* `Desk.update_rejected_iff_refused`: a change is rejected for what it brings, whatever the desk knows.
-/

namespace RetreatDesk

open Json

namespace Participant

/-- There is but one way for a change to fail. -/
theorem rejectedChange_of_changed {current : Option Participant} {c : Change} {error : DeskError}
    (h : changed current c = .error error) : ∃ problem, error = .rejectedChange c.participantId problem := by
  unfold changed at h
  split at h
  · cases h
  · next problem _ =>
    cases h
    exact ⟨problem, rfl⟩

section
variable {current : Option Participant} (hcurrent : ∀ p ∈ current, p.Readable) {c : Change}
  (hc : (Json.record c.fields).Distinct)

include hcurrent hc

/-- A change of a person is rejected exactly if the changed record is broken. -/
theorem changed_eq_error_iff :
    (∃ problem, changed current c = .error (.rejectedChange c.participantId problem)) ↔
      Broken (changedRecord current c) := by
  have hrejected : (∃ problem, changed current c = .error (.rejectedChange c.participantId problem)) ↔
      ¬ ∃ p, layout.read (.value (changedRecord current c)) = .ok p := by
    unfold changed
    cases layout.read (.value (changedRecord current c)) <;> simp
  have hread := exists_read_iff (arises_changedRecord hcurrent hc) (mem_keysOf_of_lookup (lookup_put_self _ _ _))
  exact hrejected.trans ((not_congr hread).trans not_not)

/-- The changed record is broken exactly if the change is. -/
theorem broken_changedRecord_iff : Broken (changedRecord current c) ↔ Broken (.record c.fields) := by
  rw [changedRecord_eq hc.names]
  refine (broken_settle_iff (stands_of_readable hcurrent) (hc.put "id" (.text c.participantId))).trans ?_
  refine exists₂_congr fun k w => and_congr_left fun hbroken => ?_
  have hk : k ≠ "id" := by
    rintro rfl
    simp [BrokenField] at hbroken
  change (put "id" (.text c.participantId) c.fields).lookup k = some w ↔ c.fields.lookup k = some w
  rw [lookup_put_of_ne hk]

end

end Participant

namespace Desk

/-- A desk rejects a change exactly if, somewhere in the record of the person with the change laid over it, something
stands that is refused there. It answers no other error, and then it stays as it is. What is asked of the change holds
of every change that was read from a text. -/
theorem update_rejected_iff {d : Desk} (hd : d.Reached) {c : Change} (hc : (Json.record c.fields).Distinct) :
    ((∃ problem, d.update c = .error (.rejectedChange c.participantId problem)) ↔
      ∃ path v, (Participant.changedRecord (d.people.get? c.participantId) c).at? path = some v ∧
        Participant.RefusedAt path v) ∧
    ∀ error, d.update c = .error error →
      (∃ problem, error = .rejectedChange c.participantId problem) ∧ d.updated c = d := by
  constructor
  · simp only [update_eq_error]
    rw [Participant.changed_eq_error_iff (fun p hp => hd.readable hp) hc, Participant.broken_iff]
  · intro error herror
    exact ⟨Participant.rejectedChange_of_changed (update_eq_error.mp herror), updated_of_error herror⟩

/-- Three items where an amount and a time are expected, deep in a change. -/
def oversized : Change :=
  ⟨"p-003", [("programs", .record [(Demo.aid, .record [("offeringHistory", .record [("retreat",
    .record [("installments", .record [("deposit", .list [.null, .null, .null])])])])])])]⟩

/-- Values of unexpected kinds wherever they do no harm. -/
def motley : Change :=
  ⟨"p-003", [("first", .list [.null]), ("practice", .null), ("hobby", .bool true),
    ("programs", .record [(Demo.aid, .record [("join", .list []), ("whichRetreats", .null)])])]⟩

/-- The change with the overlong installment is rejected and leaves the desk alone; the motley one is taken in, so
nothing in the record it leaves is refused. -/
theorem update_rejected_iff_oversized :
    (∃ problem, (ofSnapshot afterWithdrawal).update oversized = .error (.rejectedChange "p-003" problem)) ∧
    (ofSnapshot afterWithdrawal).updated oversized = ofSnapshot afterWithdrawal ∧
    ¬ ∃ path v, (Participant.changedRecord ((ofSnapshot afterWithdrawal).people.get? "p-003") motley).at? path = some v ∧
      Participant.RefusedAt path v := by
  have hloaded : Snapshot.layout.read (.value withdrawal) = .ok afterWithdrawal := rfl
  have hd : (ofSnapshot afterWithdrawal).Reached := .loaded hloaded
  have hoversized : (Json.record oversized.fields).Distinct :=
    .singleton (.singleton (.singleton (.singleton (.singleton (.singleton (.list (by simp [Distinct.null])))))))
  have hmotley : (Json.record motley.fields).Distinct := by
    refine .record (by decide) ?_
    simp only [motley, List.forall_mem_cons]
    refine ⟨.list (by simp [Distinct.null]), .null, .bool true, .singleton (.record (by decide) ?_), by simp⟩
    simp only [List.forall_mem_cons]
    exact ⟨.list (by simp), .null, by simp⟩
  obtain ⟨problem, hproblem⟩ := (update_rejected_iff hd hoversized).1.mpr
    ⟨["programs", Demo.aid, "offeringHistory", "retreat", "installments", "deposit"], .list [.null, .null, .null], rfl,
      (by decide : 2 < [Json.null, .null, .null].length)⟩
  refine ⟨⟨problem, hproblem⟩, ((update_rejected_iff hd hoversized).2 _ hproblem).2, fun hrefused => ?_⟩
  obtain ⟨other, hother⟩ := (update_rejected_iff hd hmotley).1.mpr hrefused
  have htaken : ∃ e, (ofSnapshot afterWithdrawal).update motley = .ok e := ⟨_, rfl⟩
  obtain ⟨e, he⟩ := htaken
  rw [hother] at he
  cases he

/-- A change is rejected for what it brings, whatever the desk knows. -/
theorem update_rejected_iff_refused {d : Desk} (hd : d.Reached) {c : Change} (hc : (Json.record c.fields).Distinct) :
    (∃ problem, d.update c = .error problem) ↔
      ∃ path v, (Json.record c.fields).at? path = some v ∧ Participant.RefusedAt path v := by
  have hcurrent : ∀ p ∈ d.people.get? c.participantId, p.Readable := fun p hp => hd.readable hp
  rw [← Participant.broken_iff, ← Participant.broken_changedRecord_iff hcurrent hc,
    ← Participant.changed_eq_error_iff hcurrent hc]
  simp only [update_eq_error]
  constructor
  · rintro ⟨error, herror⟩
    obtain ⟨problem, rfl⟩ := Participant.rejectedChange_of_changed herror
    exact ⟨problem, herror⟩
  · rintro ⟨problem, hproblem⟩
    exact ⟨_, hproblem⟩

end Desk

end RetreatDesk
