import RetreatDesk.Command.Walkthrough
import RetreatDesk.Proofs.Desk.Reached
import RetreatDesk.Proofs.Json.Document
import RetreatDesk.Proofs.Registry.Slots

/-!
# Changes that come again

Between two deliveries of a change the person is read from the changed record and written again, so the second change
meets another record than the first.

* `Participant.changedRecord_eq`: a changed record is one change, key included, settled on what was written before.
* `Participant.changed_again`: the person after a change is the person after the same change once more.
* `Desk.update_again`: a change that comes again right away is answered as before and leaves the desk as it is.
-/

namespace RetreatDesk

open Json

/-! ## Changes as they come in -/

theorem Reader.distinct_entries {d : Draft} (hd : d.Distinct) {es : List (String × Json)}
    (h : Reader.entries Reader.json d = .ok es) : ∀ e ∈ es, e.2.Distinct := by
  unfold Reader.entries at h
  cases hfs : d.fields? with
  | none =>
    rw [hfs] at h
    cases h
  | some fs =>
    rw [hfs] at h
    obtain ⟨as, has, h⟩ := bind_eq_ok.mp h
    obtain ⟨-, -, h⟩ := bind_eq_ok.mp h
    cases h
    intro e he
    obtain ⟨p, hp, hread⟩ := Reader.mem_eachField has he
    exact (hd.fields? hfs p hp).read_json hread

/-- The fields of a change that has been read from a text have distinct names, and so have the records in them. -/
theorem Change.distinct_of_ofText {s : String} {c : Change} (h : Reader.ofText layout.read s = .ok c) :
    (Json.record c.fields).Distinct := by
  have hread := Reader.read_of_ofText h
  have hdoc := distinct_ofText s
  let P : Change → Prop := fun c => (Json.record c.fields).Distinct
  have hblank : P layout.blank := .record List.nodup_nil (by simp [layout])
  refine layout.read_invariant (P := P) (Q := Draft.Distinct) (fun {a b k d} hd ha hb => ?_)
    (fun _ => hdoc.fields?) (fun _ => hdoc.items?) hblank hread
  unfold Layout.take at hb
  split at hb
  · simp only [layout] at hb
    split at hb
    · obtain ⟨id, -, hb⟩ := bind_eq_ok.mp hb
      cases hb
      exact ha
    · obtain ⟨es, hes, hb⟩ := bind_eq_ok.mp hb
      cases hb
      exact .record (Listed.ofList es).distinct fun e he =>
        Reader.distinct_entries hd hes e (Listed.mem_ofList he)
    · cases hb
      exact ha
  · obtain ⟨-, -, hb⟩ := bind_eq_ok.mp hb
    cases hb
    exact ha

/-! ## The same change again -/

namespace Participant

/-- The change of a person together with the key, which it cannot move. -/
def keyedFields (c : Change) : List (String × Json) := put "id" (.text c.participantId) c.fields

/-- A changed record is one change, key included, settled on what was written before. -/
theorem changedRecord_eq {c : Change} (hc : (keysOf c.fields).Nodup) (current : Option Participant) :
    changedRecord current c = settle (current.map toJson) (.record (keyedFields c)) := by
  have hput := put_overlayFields (k := "id") (v := .text c.participantId) rfl hc
  cases current with
  | none =>
    change Json.record (put "id" _ (overlayFields [] c.fields)) = .record (keyedFields c)
    rw [hput, nil_overlayFields (nodup_keys_put _ _ hc), keyedFields]
  | some p =>
    change Json.record (put "id" _ (overlayFields p.toJson.fields c.fields)) = _
    rw [hput, Option.map_some, toJson_eq, settle_record]
    rfl

theorem stands_of_readable {current : Option Participant} (hcurrent : ∀ p ∈ current, p.Readable) :
    (Facet.whole layout.read toJson).Stands (current.map toJson) := by
  cases current with
  | none => exact .inl rfl
  | some p =>
    obtain ⟨v, hv⟩ := hcurrent p rfl
    exact .inr ⟨p, ⟨some v, hv⟩, rfl⟩

/-- The person after a change is the person after the same change once more. -/
theorem changed_again {current : Option Participant} (hcurrent : ∀ p ∈ current, p.Readable) {c : Change}
    (hc : (Json.record c.fields).Distinct) {p : Participant} (h : changed current c = .ok p) :
    changed (some p) c = .ok p := by
  rw [changed_eq_ok, changedRecord_eq hc.names] at h ⊢
  refine steady (current.map toJson) (some (.record (keyedFields c))) p (stands_of_readable hcurrent) ?_ h
  rintro w ⟨⟩
  exact hc.put "id" (.text c.participantId)

end Participant

namespace Desk

/-- A change that comes again right away is answered as before and leaves the person and the desk as they are. What is
asked of the change holds of every change that was read from a text. -/
theorem update_again {d : Desk} (hd : d.Reached) {c : Change} (hc : (Json.record c.fields).Distinct) :
    (∀ e, d.update c = .ok e → e.update c = .ok e ∧
      ∃ p, e.people.get? c.participantId = some p ∧ Participant.changed (some p) c = .ok p) ∧
    ∀ problem, d.update c = .error problem → (d.updated c).update c = .error problem := by
  constructor
  · intro e he
    obtain ⟨p, hp, rfl⟩ := update_eq_ok.mp he
    have hagain : Participant.changed (some p) c = .ok p :=
      Participant.changed_again (fun q hq => hd.readable hq) hc hp
    have hfound : (d.people.insert c.participantId p).get? c.participantId = some p := Sorted.get?_insert_self _ _ _
    refine ⟨update_eq_ok.mpr ⟨p, hfound ▸ hagain, ?_⟩, p, hfound, hagain⟩
    rw [Sorted.insert_of_get? hfound]
  · intro problem hproblem
    rw [updated_of_error hproblem]
    exact hproblem

/-- Somebody who joined and withdrew, as a document. -/
def withdrawal : Json :=
  .record [("participants", .list [.record [("id", .text "p-003"),
    ("programs", .record [(Demo.aid, .record [("join", .bool true), ("withdrawn", .bool true)])])]])]

def afterWithdrawal : Snapshot :=
  { participants := [{ id := "p-003", programs := .ofList [(Demo.aid, { join := true, withdrawn := true })] }] }

/-- The one who withdrew comes back, twice; a list of programs is refused, twice. -/
theorem update_again_rejoin :
    (∃ e, (ofSnapshot afterWithdrawal).update Demo.rejoin = .ok e ∧ e.update Demo.rejoin = .ok e) ∧
    ∃ problem, (ofSnapshot afterWithdrawal).update ⟨"p-003", [("programs", .list [])]⟩ = .error problem ∧
      ((ofSnapshot afterWithdrawal).updated ⟨"p-003", [("programs", .list [])]⟩).update
        ⟨"p-003", [("programs", .list [])]⟩ = .error problem := by
  have hloaded : Snapshot.layout.read (.value withdrawal) = .ok afterWithdrawal := rfl
  have hd : (ofSnapshot afterWithdrawal).Reached := .loaded hloaded
  have hrejoin : (Json.record Demo.rejoin.fields).Distinct :=
    .singleton (.singleton (.singleton (.bool false)))
  have hgarbled : (Json.record [("programs", .list [])]).Distinct := .singleton (.list (by simp))
  exact ⟨⟨_, rfl, ((update_again hd hrejoin).1 _ rfl).1⟩, ⟨_, rfl, (update_again hd hgarbled).2 _ rfl⟩⟩

end Desk

end RetreatDesk
