import RetreatDesk.Proofs.Desk.Interleaving
import RetreatDesk.Proofs.Desk.Rejection
import RetreatDesk.Proofs.Web.Request

/-!
# Requests one after another

A desk changes only through a change that is brought to it and taken in. Whatever else is asked, and however badly, it
stays as it is.

* `respond_cases`: the change of a request is taken in, or rejected, or the request brings none.
* `exchanges`: requests one after another, each with its response and the desk before and after it.
* `Exchange.Orderly`: the response tells whether the desk has changed, and how.
* `exchanges_orderly`: so it is with all requests; the desk is left as their changes leave it.
-/

namespace RetreatDesk.Web

/-! ## One request -/

theorem status_ofResult (r : Except DeskError Json) : (Response.ofResult r).status ≠ 204 := by
  cases r with
  | ok body => simp [Response.ofResult, Response.ok]
  | error e => cases e <;> simp [Response.ofResult, Response.ofError, DeskError.status]

theorem status_look (d : Desk) (started : Bool) (route : Route) (query : String) :
    (look d started route query).status ≠ 204 := by
  cases route with
  | ready => cases started <;> simp [look, Response.ok]
  | membership pool person =>
    rw [look]
    split <;> simp [status_ofResult, Response.bare]
  | account person =>
    rw [look]
    split <;> simp [status_ofResult, Response.bare]
  | members pool =>
    rw [look]
    split <;> simp [Response.ok, Response.bare]
  | _ => simp [look, Response.ok, Response.bare]

theorem status_showView (d : Desk) (key : String) (q : Request) : (showView d key q).status ≠ 204 := by
  unfold showView
  split
  · simp [Response.bare]
  · split
    · exact status_ofResult _
    · next status hstatus =>
      intro h
      have hmem := Request.status_of_readBody hstatus
      change status = 204 at h
      subst h
      simp at hmem

/-- Whether only the head is asked for does not count for the status. -/
theorem status_seen {r : Response} (h : r.status ≠ 204) {headOnly : Prop} [Decidable headOnly] :
    (if headOnly then Response.bare r.status else r).status ≠ 204 := by
  split
  · exact h
  · exact h

/-- What is posted to the changes of a person is taken for a change. -/
theorem respond_of_toChange {q : Request} {person : String} (hq : q.ToChange person) (started : Bool) (d : Desk) :
    respond started d q = takeChange d person q := by
  obtain ⟨hmethod, hroute⟩ := Request.toChange_iff.mp hq
  have hserved : (Route.change person).serves q.method = true := by simp [Route.serves, Route.takesBody, hmethod]
  unfold respond
  rw [hroute]
  exact if_pos hserved

/-- What is not posted to the changes of a person leaves the desk as it is. -/
theorem respond_of_not_toChange {q : Request} (hq : ∀ person, ¬ q.ToChange person) (started : Bool) (d : Desk) :
    (respond started d q).2 = d ∧ (respond started d q).1.status ≠ 204 := by
  unfold respond
  cases hroute : Route.ofPath? q.path with
  | none => simp [Response.bare]
  | some route =>
    cases hserved : route.serves q.method with
    | false => simp [Response.bare, hserved]
    | true =>
      simp only [hserved, if_true]
      cases route with
      | change person =>
        have hmethod : q.method = "POST" := by simpa [Route.serves, Route.takesBody] using hserved
        exact absurd (Request.toChange_iff.mpr ⟨hmethod, hroute⟩) (hq person)
      | view key => exact ⟨rfl, status_showView d key q⟩
      | _ => exact ⟨rfl, status_seen (status_look d started _ _)⟩

/-- What is posted to the changes of a person and brings no change is refused for what is wrong with it. -/
theorem takeChange_of_not_brings {q : Request} {person : String} (hq : q.ToChange person) (hnone : ∀ c, ¬ q.Brings c)
    (d : Desk) : ∃ status ∈ [400, 413, 415, 422], takeChange d person q = (.bare status, d) := by
  unfold takeChange
  cases hid : segmentText? person with
  | none => exact ⟨400, by decide, rfl⟩
  | some id =>
    cases hbody : readBody changedFields q with
    | error status => exact ⟨status, Request.status_of_readBody hbody, rfl⟩
    | ok fields =>
      obtain ⟨hannounced, hfits, hholds⟩ := Request.readBody_changedFields_eq_ok_iff.mp hbody
      exact absurd ⟨⟨person, hq, hid⟩, hannounced, hfits, hholds⟩ (hnone ⟨id, fields⟩)

/-- What the response to a change is. -/
theorem respond_of_brings {q : Request} {c : Change} (hq : q.Brings c) (started : Bool) (d : Desk) :
    respond started d q = match d.update c with
      | .ok after => (.bare 204, after)
      | .error e => (.ofError e, d) := by
  obtain ⟨id, fields⟩ := c
  obtain ⟨⟨person, hperson, hid⟩, hannounced, hfits, hholds⟩ := hq
  have hbody := Request.readBody_changedFields_eq_ok_iff.mpr ⟨hannounced, hfits, hholds⟩
  cases hupdate : d.update ⟨id, fields⟩ <;> simp only [respond_of_toChange hperson, takeChange, hid, hbody, hupdate]

/-- The change of a request is taken in, or it is rejected, or the request brings none. -/
theorem respond_cases (started : Bool) (d : Desk) (q : Request) :
    (∃ c after, q.Brings c ∧ d.update c = .ok after ∧ respond started d q = (.bare 204, after)) ∨
    (∃ c problem, q.Brings c ∧ d.update c = .error (.rejectedChange c.participantId problem) ∧
      respond started d q = (.ofError (.rejectedChange c.participantId problem), d)) ∨
    ((∀ c, ¬ q.Brings c) ∧ (respond started d q).2 = d ∧ (respond started d q).1.status ≠ 204 ∧
      ∀ person, q.ToChange person → (respond started d q).1.status ≠ 404) := by
  by_cases hbrings : ∃ c, q.Brings c
  · obtain ⟨c, hc⟩ := hbrings
    have hrespond := respond_of_brings hc started d
    cases hupdate : d.update c with
    | ok after =>
      rw [hupdate] at hrespond
      exact .inl ⟨c, after, hc, hupdate, hrespond⟩
    | error e =>
      obtain ⟨problem, rfl⟩ := Participant.rejectedChange_of_changed (Desk.update_eq_error.mp hupdate)
      rw [hupdate] at hrespond
      exact .inr (.inl ⟨c, problem, hc, hupdate, hrespond⟩)
  · have hnone : ∀ c, ¬ q.Brings c := not_exists.mp hbrings
    refine .inr (.inr ⟨hnone, ?_⟩)
    by_cases hposted : ∃ person, q.ToChange person
    · obtain ⟨person, hperson⟩ := hposted
      obtain ⟨status, hstatus, htaken⟩ := takeChange_of_not_brings hperson hnone d
      rw [respond_of_toChange hperson, htaken]
      refine ⟨rfl, ?_, fun _ _ => ?_⟩
      · rintro rfl
        simp at hstatus
      · rintro rfl
        simp at hstatus
    · obtain ⟨hdesk, hstatus⟩ := respond_of_not_toChange (not_exists.mp hposted) started d
      exact ⟨hdesk, hstatus, fun person hperson => absurd ⟨person, hperson⟩ hposted⟩

/-! ## Requests one after another -/

/-- A request with its response, and the desk before and after it. -/
structure Exchange where
  before : Desk
  request : Request
  response : Response
  after : Desk

/-- Requests one after another, each put to the desk that the one before it left. -/
def exchanges (started : Bool) (d : Desk) : List Request → List Exchange
  | [] => []
  | q :: rest =>
    ⟨d, q, (respond started d q).1, (respond started d q).2⟩ :: exchanges started (respond started d q).2 rest

/-- The response tells whether the desk has changed, and how. -/
structure Exchange.Orderly (x : Exchange) : Prop where
  /-- A change was taken in exactly if the response says that there is nothing more to say. -/
  taken_iff : x.response.status = 204 ↔ ∃ c, x.request.Brings c ∧ x.before.update c = .ok x.after
  /-- After any other response the desk is what it was. -/
  kept : x.response.status ≠ 204 → x.after = x.before
  /-- Whoever brings a change is told that the person is on record now, or that the change is rejected. -/
  answered : ∀ c, x.request.Brings c →
    (x.response.status = 204 ∧ ∃ p, x.after.people.get? c.participantId = some p) ∨
      (x.response.status = 422 ∧ ∃ problem, x.before.update c = .error (.rejectedChange c.participantId problem))
  /-- What is posted to the changes of a person is never answered as if nobody were there. -/
  found : ∀ person, x.request.ToChange person → x.response.status ≠ 404

theorem orderly_respond (started : Bool) (d : Desk) (q : Request) :
    Exchange.Orderly ⟨d, q, (respond started d q).1, (respond started d q).2⟩ := by
  -- Only the cases count from here on, not how the response is worked out.
  have hcases := respond_cases started d q
  generalize respond started d q = r at hcases ⊢
  obtain ⟨c, after, hc, hupdate, rfl⟩ | ⟨c, problem, hc, hupdate, rfl⟩ | ⟨hnone, hdesk, hstatus, hfound⟩ := hcases
  · refine ⟨⟨fun _ => ⟨c, hc, hupdate⟩, fun _ => rfl⟩, fun hstatus => absurd rfl hstatus, fun c' hc' => ?_, ?_⟩
    · obtain rfl := hc'.unique hc
      obtain ⟨p, -, rfl⟩ := Desk.update_eq_ok.mp hupdate
      exact .inl ⟨rfl, p, Sorted.get?_insert_self _ _ _⟩
    · intro person _ hstatus
      cases hstatus
  · refine ⟨⟨fun hstatus => ?_, ?_⟩, fun _ => rfl, fun c' hc' => ?_, ?_⟩
    · cases hstatus
    · rintro ⟨c', hc', htaken⟩
      obtain rfl := hc'.unique hc
      cases hupdate.symm.trans htaken
    · obtain rfl := hc'.unique hc
      exact .inr ⟨rfl, problem, hupdate⟩
    · intro person _ hstatus
      cases hstatus
  · refine ⟨⟨fun h => absurd h hstatus, ?_⟩, fun _ => hdesk, fun c hc => absurd hc (hnone c), hfound⟩
    rintro ⟨c, hc, -⟩
    exact absurd hc (hnone c)

/-- The induction is along the requests; each is put to whatever desk the ones before it have left. -/
theorem mem_exchanges_orderly {started : Bool} {d : Desk} {requests : List Request} :
    ∀ x ∈ exchanges started d requests, x.Orderly := by
  induction requests generalizing d with
  | nil => exact fun x hx => absurd hx List.not_mem_nil
  | cons q rest ih =>
    rw [exchanges]
    exact List.forall_mem_cons.mpr ⟨orderly_respond started d q, ih⟩

/-- A request leaves the desk as its change leaves it, if it brings one. -/
theorem desk_respond (started : Bool) (d : Desk) (q : Request) :
    (respond started d q).2 = d.updateAll q.change?.toList := by
  obtain ⟨c, after, hc, hupdate, hrespond⟩ | ⟨c, problem, hc, hupdate, hrespond⟩ | ⟨hnone, hdesk, -, -⟩ :=
    respond_cases started d q
  · rw [hrespond, Request.change?_eq_some_iff.mpr hc]
    exact (Desk.updated_of_ok hupdate).symm
  · rw [hrespond, Request.change?_eq_some_iff.mpr hc]
    exact (Desk.updated_of_error hupdate).symm
  · have hchange : q.change? = none :=
      Option.eq_none_iff_forall_ne_some.mpr fun c hc => hnone c (Request.change?_eq_some_iff.mp hc)
    rw [hdesk, hchange]
    rfl

/-- Requests leave the desk as the changes among them leave it. -/
theorem afterAll_eq_updateAll (started : Bool) (d : Desk) (requests : List Request) :
    afterAll started d requests = d.updateAll (requests.filterMap (·.change?)) := by
  induction requests generalizing d with
  | nil => rfl
  | cons q rest ih =>
    have hchanges : (q :: rest).filterMap (·.change?) = q.change?.toList ++ rest.filterMap (·.change?) := by
      rw [List.filterMap_cons]
      cases q.change? <;> rfl
    rw [hchanges, Desk.updateAll_append, ← desk_respond started, ← ih, afterAll, List.foldl_cons]
    rfl

/-- Whatever is asked of a desk, one request after another: a desk changes only with a change that was posted, taken in
and answered so, it is what it was after any other response, and whoever brings a change is told what has become of it.
In the end the desk is what the changes among the requests make of it. -/
theorem exchanges_orderly (started : Bool) (d : Desk) (requests : List Request) :
    (∀ x ∈ exchanges started d requests, x.Orderly) ∧
      afterAll started d requests = d.updateAll (requests.filterMap (·.change?)) :=
  ⟨mem_exchanges_orderly, afterAll_eq_updateAll started d requests⟩

end RetreatDesk.Web
