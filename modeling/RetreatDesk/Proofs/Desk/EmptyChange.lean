import RetreatDesk.Proofs.Desk.Keys
import RetreatDesk.Proofs.Registry.Written

/-!
# Changes that say nothing

Every change writes the whole record of a person and reads it again, one that says nothing too. It is always taken in,
and leaves of the person what has been written.

* `Participant.changed_nothing`: the person after a change that says nothing is the person as written.
* `Desk.update_nothing_iff`: the desk stays as it is exactly if every payment of the person is a finite number.
* `Desk.not_update_nothing`: somebody who paid `1e999` has paid nothing after a change that says nothing.
-/

namespace RetreatDesk

open Json

namespace Participant

/-- The record of a person with nothing laid over it is the record that was written. -/
theorem changedRecord_nothing {p : Participant} : changedRecord (some p) ⟨p.id, []⟩ = p.toJson := by
  have hid : p.toJson.fields.lookup "id" = some (.text p.id) := rfl
  change Json.record (put "id" (.text p.id) (overlayFields p.toJson.fields [])) = p.toJson
  rw [overlayFields_nil, put_of_lookup hid]
  rfl

theorem changed_nothing {p : Participant} (hp : p.Readable) : changed (some p) ⟨p.id, []⟩ = .ok p.asWritten := by
  rw [changed_eq_ok, changedRecord_nothing]
  exact readsBack p (sound_of_readable hp)

end Participant

namespace Desk

theorem update_nothing {d : Desk} (hd : d.Reached) {id : String} {p : Participant} (hp : d.people.get? id = some p) :
    d.update ⟨id, []⟩ = .ok { d with people := d.people.insert id p.asWritten } := by
  obtain rfl := hd.id_eq hp
  refine update_eq_ok.mpr ⟨p.asWritten, ?_, rfl⟩
  rw [hp]
  exact Participant.changed_nothing (hd.readable hp)

/-- A change that says nothing is taken in and leaves of the person what has been written, which is everything exactly
if all payments of the person are finite numbers. -/
theorem update_nothing_iff {d : Desk} (hd : d.Reached) {id : String} {p : Participant}
    (hp : d.people.get? id = some p) :
    d.update ⟨id, []⟩ = .ok { d with people := d.people.insert id p.asWritten } ∧
      (d.update ⟨id, []⟩ = .ok d ↔ p.FiniteAmounts) := by
  have hupdate := update_nothing hd hp
  refine ⟨hupdate, ?_⟩
  rw [hupdate, ← Participant.asWritten_eq_self]
  constructor
  · intro hsame
    have hpeople : d.people.insert id p.asWritten = d.people := congrArg Desk.people (Except.ok.inj hsame)
    have hget := Sorted.get?_insert_self d.people id p.asWritten
    rw [hpeople, hp] at hget
    exact (Option.some.inj hget).symm
  · intro hsame
    rw [hsame, Sorted.insert_of_get? hp]

/-! ## A payment without a numeral -/

/-- A document with somebody who paid an amount given as a text. -/
def payment (amount : String) : Json :=
  .record [("participants", .list [.record [("id", .text "p-002"),
    ("programs", .record [(Demo.aid, .record [("offeringHistory", .record [("retreat", .record
      [("installments", .record [("full", .record [("offeringAmount", .text amount)])])])])])])]])]

/-- Somebody who paid an amount. -/
def payer (amount : Float) : Participant :=
  { id := "p-002"
    programs := .ofList [(Demo.aid,
      { offeringHistory := .ofList [("retreat", { installments := .ofList [("full", ⟨amount, none⟩)] })] })] }

/-- The amount that a text stands for. -/
def amountOf (s : String) : Float := ((Json.text s).amount?).getD 0.0

theorem reached_payment (s : String) : (ofSnapshot { participants := [payer (amountOf s)] }).Reached := by
  have hloaded : Snapshot.layout.read (.value (payment s)) = .ok { participants := [payer (amountOf s)] } := rfl
  exact .loaded hloaded

/-- The number that `1e999` is read as has no numeral. -/
theorem not_finiteAmounts_payer : ¬ (payer (amountOf "1e999")).FiniteAmounts := by decide +kernel

/-- Somebody who paid `200` stays so, somebody who paid `1e999` does not. -/
theorem update_nothing_iff_payer :
    (ofSnapshot { participants := [payer (amountOf "200")] }).update ⟨"p-002", []⟩ =
        .ok (ofSnapshot { participants := [payer (amountOf "200")] }) ∧
      (ofSnapshot { participants := [payer (amountOf "1e999")] }).update ⟨"p-002", []⟩ ≠
        .ok (ofSnapshot { participants := [payer (amountOf "1e999")] }) := by
  have hfinite : (payer (amountOf "200")).FiniteAmounts := by decide +kernel
  constructor
  · exact (update_nothing_iff (reached_payment "200") rfl).2.mpr hfinite
  · intro hsame
    exact not_finiteAmounts_payer ((update_nothing_iff (reached_payment "1e999") rfl).2.mp hsame)

/-- A change that says nothing can alter a person. -/
theorem not_update_nothing : ¬ ∀ (d : Desk), d.Reached → ∀ id p, d.people.get? id = some p →
    ∃ e, d.update ⟨id, []⟩ = .ok e ∧ e.people.get? id = some p := by
  intro h
  have hreached := reached_payment "1e999"
  obtain ⟨e, he, hget⟩ := h _ hreached "p-002" (payer (amountOf "1e999")) rfl
  rw [update_nothing hreached rfl] at he
  cases he
  rw [Sorted.get?_insert_self] at hget
  exact not_finiteAmounts_payer (Participant.asWritten_eq_self.mp (Option.some.inj hget))

end Desk

end RetreatDesk
