import RetreatDesk.Proofs.Desk.Frame
import RetreatDesk.Proofs.Registry.Incidental

/-!
# Changes that leave every pool as it is

Membership goes by the standing of people. A change writes the whole record of a person and reads it again, but one that
is incidental leaves the standing, and with it the members of every pool.

* `Desk.standing`: a desk that knows of everybody no more than the standing.
* `Desk.isMember_standing`, `Desk.members_standing`: it answers every question about pools alike.
* `Desk.update_keeps_members`: an incidental change leaves all answers about pools.
-/

namespace RetreatDesk

open Json

theorem Participant.standing_of_changed {p : Participant} (hp : p.Readable) {c : Change}
    (hc : (Json.record c.fields).Distinct) (hid : p.id = c.participantId) (hincidental : p.Incidental c.fields)
    {q : Participant} (h : changed (some p) c = .ok q) : q.standing = p.standing := by
  have hkey : q.id = c.participantId := by
    apply id_of_changed _ h
    intro r hr
    cases hr
    exact hp
  exact standing_of_spared (hkey.trans hid.symm) (changed_spares_asWritten hp hc hid h) hincidental

namespace Desk

/-! ## Desks that know the standing of people -/

/-- The desk that knows of everybody no more than the standing. -/
def standing (d : Desk) : Desk := { d with people := d.people.map Participant.standing }

section
variable (d : Desk) (pool aid : String)

theorem isMember_standing (id : String) : d.standing.isMember pool id aid = d.isMember pool id aid := by
  have hperson : d.standing.people.get? id = (d.people.get? id).map Participant.standing := Sorted.get?_map _ _ _
  rw [isMember, isMember, person, person, hperson]
  cases d.people.get? id with
  | none => rfl
  | some p => exact congrArg Except.ok (member_standing p aid d.pools pool)

theorem members_standing : d.standing.members pool aid = d.members pool aid := by
  have hvalues : d.standing.people.values = d.people.values.map Participant.standing := Sorted.values_map _ _
  have hmember : (fun p => member d.standing.pools p aid pool) ∘ Participant.standing =
      fun p => member d.pools p aid pool := funext fun p => member_standing p aid d.pools pool
  rw [members, members, hvalues, List.filter_map, hmember, List.map_map]
  rfl

end

theorem standing_of_update {d e : Desk} {c : Change} (he : d.update c = .ok e) {p q : Participant}
    (hp : d.people.get? c.participantId = some p) (hq : e.people.get? c.participantId = some q)
    (hstays : q.standing = p.standing) : e.standing = d.standing := by
  have hpeople : e.people.map Participant.standing = d.people.map Participant.standing := by
    apply Sorted.ext_get?
    intro id
    rw [Sorted.get?_map, Sorted.get?_map]
    by_cases hid : id = c.participantId
    · rw [hid, hp, hq, Option.map_some, Option.map_some, hstays]
    · rw [get?_update_of_ne he hid]
  obtain ⟨r, -, rfl⟩ := update_eq_ok.mp he
  exact congrArg (fun people => { d with people := people }) hpeople

/-! ## Incidental changes -/

/-- A change of somebody known that says nothing of practice and enters only programs and offerings that are there,
without a word of their declared fields or of the article that was booked, leaves every answer about pools. What is
asked of the change at first holds of every change that was read from a text. -/
theorem update_keeps_members {d : Desk} (hd : d.Reached) {c : Change} (hc : (Json.record c.fields).Distinct)
    {p : Participant} (hp : d.people.get? c.participantId = some p) (hincidental : p.Incidental c.fields) {e : Desk}
    (he : d.update c = .ok e) (pool aid : String) :
    (∀ id, e.isMember pool id aid = d.isMember pool id aid) ∧ e.members pool aid = d.members pool aid := by
  obtain ⟨q, hq, hinsert⟩ := update_eq_ok.mp he
  have hafter : e.people.get? c.participantId = some q := by
    rw [hinsert]
    exact Sorted.get?_insert_self _ _ _
  rw [hp] at hq
  have hstays : q.standing = p.standing :=
    Participant.standing_of_changed (hd.readable hp) hc (hd.id_eq hp) hincidental hq
  have hstanding : e.standing = d.standing := standing_of_update he hp hafter hstays
  constructor
  · intro id
    rw [← isMember_standing, hstanding, isMember_standing]
  · rw [← members_standing, hstanding, members_standing]

/-- Somebody who booked and paid an amount without a numeral, and a pool of those who booked, as a document. -/
def bookings : Json :=
  .record
    [("participants", .list [.record [("id", .text "p-002"), ("programs", .record [(Demo.aid, .record
      [("offeringHistory", .record [("retreat", .record [("offeringSKU", .text "full-board"),
        ("installments", .record [("full", .record [("offeringAmount", .text "1e999")])])])])])])]]),
     ("pools", .list [.record [("name", .text "booked"), ("attributes", .list
      [.record [("type", .text "currenteventoffering"), ("subevent", .text "retreat")]])]])]

def bookedProgram : Program :=
  { offeringHistory := .ofList
      [("retreat", { sku := some "full-board", installments := .ofList [("full", ⟨amountOf "1e999", none⟩)] })] }

def afterBookings : Snapshot :=
  { participants := [{ id := "p-002", programs := .ofList [(Demo.aid, bookedProgram)] }]
    pools := [{ name := "booked", rules := [.currentOffering "retreat"] }] }

/-- One more payment, a new address and a field without a meaning. -/
def paperwork : Change :=
  ⟨"p-002", [("email", .text "maria@example.org"), ("programs", .record [(Demo.aid, .record
    [("remarks", .list [.text "late"]), ("offeringHistory", .record [("retreat", .record
      [("installments", .record [("second", .record [("offeringAmount", .text "100")])])])])])])]⟩

/-- The one who booked is still told among those who booked, though the first payment is lost with the change. -/
theorem update_keeps_members_paperwork : ∃ e, (ofSnapshot afterBookings).update paperwork = .ok e ∧
    e.isMember "booked" "p-002" Demo.aid = .ok true ∧
    e.members "booked" Demo.aid = (ofSnapshot afterBookings).members "booked" Demo.aid := by
  have hloaded : Snapshot.layout.read (.value bookings) = .ok afterBookings := rfl
  have hd : (ofSnapshot afterBookings).Reached := .loaded hloaded
  have hpayment : (Json.record [("second", .record [("offeringAmount", .text "100")])]).Distinct :=
    .singleton (.singleton (.text _))
  have hdistinct : (Json.record paperwork.fields).Distinct := by
    refine .record (by decide) ?_
    simp only [paperwork, List.forall_mem_cons]
    refine ⟨.text _, .singleton (.record (by decide) ?_), by simp⟩
    simp only [List.forall_mem_cons]
    exact ⟨.list (by simp [Json.Distinct.text]), .singleton (.singleton hpayment), by simp⟩
  have hincidental : Participant.Incidental paperwork.fields
      { id := "p-002", programs := .ofList [(Demo.aid, bookedProgram)] } := by
    refine ⟨by decide, fun v hv => ?_⟩
    cases hv
    refine .singleton rfl ⟨by decide, fun w hw => ?_⟩
    cases hw
    exact .singleton rfl (by decide)
  have hmember : (ofSnapshot afterBookings).isMember "booked" "p-002" Demo.aid = .ok true :=
    isMember_eq_ok.mpr ⟨_, rfl, (memberAlong_registered rfl List.not_mem_nil _ _).trans rfl⟩
  obtain ⟨e, he⟩ : ∃ e, (ofSnapshot afterBookings).update paperwork = .ok e := ⟨_, rfl⟩
  obtain ⟨hanswers, hmembers⟩ := update_keeps_members hd hdistinct rfl hincidental he "booked" Demo.aid
  exact ⟨e, he, (hanswers "p-002").trans hmember, hmembers⟩

end Desk

end RetreatDesk
