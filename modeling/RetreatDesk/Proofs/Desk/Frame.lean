import RetreatDesk.Proofs.Desk.EmptyChange
import RetreatDesk.Proofs.Desk.Redelivery
import RetreatDesk.Proofs.Registry.Frame

/-!
# What a change leaves alone

A change is laid over the whole record of a person, which is then read anew. Still it leaves all that it does not name.

* `Participant.changed_spares_asWritten`: a change spares what comes back of a person when nothing is changed.
* `Participant.changed_spares`: that is the whole person if all amounts are finite numbers.
* `Desk.update_spares`: so does a change that a desk takes in.
-/

namespace RetreatDesk

open Json

namespace Participant

/-- Only fields without a declaration are kept besides. -/
theorem extra_get?_of_declared {p : Participant} (hp : p.Readable) {k : String} (hk : k ∈ layout.fields) :
    p.extra.get? k = none := by
  obtain ⟨v, hv⟩ := hp
  refine lookup_eq_none_of_not_mem fun hmem => ?_
  have hkeeps := (described.sound_of_read hv).2 k hmem
  simp [Layout.keeps, hk] at hkeeps

/-- The key is set with every change and stays what it was, so what a change with the key spares it spares without. -/
theorem spared_of_keyed {p q : Participant} (hp : p.Readable) (hq : q.Readable) (hid : q.id = p.id) {c : Change}
    (h : Spared (keyedFields c) p q) : Spared c.fields p q := by
  have hlookup : ∀ {k}, k ≠ "id" → (keyedFields c).lookup k = c.fields.lookup k := by
    intro k hk
    exact lookup_put_of_ne hk _ _
  have hunnamed : ∀ {k}, k ≠ "id" → k ∉ keysOf c.fields → k ∉ keysOf (keyedFields c) := by
    intro k hk hmem
    rw [not_mem_keysOf_iff] at hmem ⊢
    rw [hlookup hk, hmem]
  have hdeclared : "id" ∈ layout.fields := List.mem_cons_self
  have hextra : p.extra.get? "id" = none ∧ q.extra.get? "id" = none :=
    ⟨extra_get?_of_declared hp hdeclared, extra_get?_of_declared hq hdeclared⟩
  have hslot : ∀ s ∈ slots, s.name = "id" → s.get q = s.get p := by
    simp [slots, hid]
  -- The two changes differ under the key alone, which has a slot of its own and is never kept besides.
  refine ⟨⟨fun s hs hname => ?_, fun k hk => ?_, fun k inner hinner v hv => ?_⟩, fun inner hinner => ?_,
    fun inner hinner => ?_, fun inner hinner => ?_⟩
  · by_cases hkey : s.name = "id"
    · exact hslot s hs hkey
    · exact h.unnamed s hs (hunnamed hkey hname)
  · by_cases hkey : k = "id"
    · subst hkey
      exact hextra.2.trans hextra.1.symm
    · exact h.besides.beside k (hunnamed hkey hk)
  · by_cases hkey : k = "id"
    · subst hkey
      cases hextra.1.symm.trans hv
    · exact h.besides.within k inner ((hlookup hkey).trans hinner) v hv
  · exact h.programs inner ((hlookup (by decide)).trans hinner)
  · exact h.practice inner ((hlookup (by decide)).trans hinner)
  · exact h.emails inner ((hlookup (by decide)).trans hinner)

theorem readable_asWritten {p : Participant} (hp : p.Readable) : p.asWritten.Readable :=
  ⟨p.toJson, readsBack.of_readable hp⟩

/-- A change spares what comes back of a person when nothing is changed. -/
theorem changed_spares_asWritten {p : Participant} (hp : p.Readable) {c : Change} (hc : (Json.record c.fields).Distinct)
    (hid : p.id = c.participantId) {q : Participant} (h : changed (some p) c = .ok q) :
    Spared c.fields p.asWritten q := by
  have hkey : q.id = c.participantId := by
    refine id_of_changed (fun r hr => ?_) h
    cases hr
    exact hp
  rw [changed_eq_ok] at h
  have hq : q.Readable := ⟨_, h⟩
  rw [changedRecord_eq hc.names] at h
  refine spared_of_keyed (readable_asWritten hp) hq (hkey.trans hid.symm) ?_
  exact spares p (keyedFields c) q (sound_of_readable hp) (hc.put _ (.text _)) h

/-- A change spares a person whose amounts all are finite numbers. -/
theorem changed_spares {p : Participant} (hp : p.Readable) (hfinite : p.FiniteAmounts) {c : Change}
    (hc : (Json.record c.fields).Distinct) (hid : p.id = c.participantId) {q : Participant}
    (h : changed (some p) c = .ok q) : Spared c.fields p q := by
  have hspared := changed_spares_asWritten hp hc hid h
  rwa [asWritten_eq_self.mpr hfinite] at hspared

end Participant

namespace Desk

/-- A change that is taken in leaves all that it does not name, on every level of the record. What is asked of the
change holds of every change that was read from a text. -/
theorem update_spares {d : Desk} (hd : d.Reached) {c : Change} (hc : (Json.record c.fields).Distinct) {p : Participant}
    (hp : d.people.get? c.participantId = some p) (hfinite : p.FiniteAmounts) {e : Desk} (he : d.update c = .ok e) :
    ∃ q, e.people.get? c.participantId = some q ∧ Participant.Spared c.fields p q := by
  obtain ⟨q, hq, rfl⟩ := update_eq_ok.mp he
  rw [hp] at hq
  exact ⟨q, Sorted.get?_insert_self _ _ _,
    Participant.changed_spares (hd.readable hp) hfinite hc (hd.id_eq hp) hq⟩

/-- One more payment for the same offering. -/
def secondPayment : Change :=
  ⟨"p-002", [("programs", .record [(Demo.aid, .record [("offeringHistory", .record [("retreat", .record
    [("installments", .record [("second", .record [("offeringAmount", .text "100")])])])])])])]⟩

/-- A second payment leaves the first one, which stands next to it, deep within the record. -/
theorem update_spares_secondPayment :
    ∃ e q r o, (ofSnapshot { participants := [payer (amountOf "200")] }).update secondPayment = .ok e ∧
      e.people.get? "p-002" = some q ∧ q.programs.get? Demo.aid = some r ∧ r.offeringHistory.get? "retreat" = some o ∧
      o.installments.get? "full" = some ⟨amountOf "200", none⟩ := by
  have hfinite : (payer (amountOf "200")).FiniteAmounts := by decide +kernel
  have hdistinct : (Json.record secondPayment.fields).Distinct :=
    .singleton (.singleton (.singleton (.singleton (.singleton (.singleton (.singleton (.text _)))))))
  obtain ⟨e, he⟩ : ∃ e, (ofSnapshot { participants := [payer (amountOf "200")] }).update secondPayment = .ok e :=
    ⟨_, rfl⟩
  obtain ⟨q, hq, hspared⟩ := update_spares (reached_payment "200") hdistinct rfl hfinite he
  obtain ⟨r, hr, hprogram⟩ := (hspared.programs _ rfl).within Demo.aid _ rfl _ rfl
  obtain ⟨o, ho, hoffering⟩ := (hprogram.offeringHistory _ rfl).within "retreat" _ rfl _ rfl
  have hfull := (hoffering.installments _ rfl).beside "full" (by decide)
  exact ⟨e, q, r, o, he, hq, hr, ho, hfull⟩

end Desk

end RetreatDesk
