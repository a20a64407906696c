import RetreatDesk.Web.Exchange
import RetreatDesk.Proofs.Json.Document
import RetreatDesk.Proofs.Reading.Entries

/-!
# What a request brings

A request brings a change if it is posted to the changes of a person and its body holds a record. Whatever else it says
counts for nothing.

* `parts_eq_iff`: the parts of a text are the texts between its marks.
* `Route.ofPath?_eq_change_iff`: the paths that lead to the changes of a person.
* `changedFields_eq_ok_iff`: the fields of a change are those of the record that the body holds.
* `Request.change?_eq_some_iff`: when a request brings a change, and which one.
-/

namespace RetreatDesk.Web

/-! ## Paths -/

theorem not_mem_of_mem_splitOn {mark : Char} {cs : List Char} : ∀ part ∈ cs.splitOn mark, mark ∉ part := by
  induction cs with
  | nil =>
    rw [List.splitOn_nil]
    simp
  | cons c rest ih =>
    rw [List.splitOn_cons_eq_if_modifyHead]
    split
    · simpa using ih
    · next hc =>
      obtain ⟨first, others, hsplit⟩ := List.exists_cons_of_ne_nil (List.splitOn_ne_nil mark rest)
      rw [hsplit] at ih ⊢
      obtain ⟨hfirst, hothers⟩ := List.forall_mem_cons.mp ih
      have hne : mark ≠ c := fun h => hc (beq_iff_eq.mpr h.symm)
      exact List.forall_mem_cons.mpr ⟨List.not_mem_cons_of_ne_of_not_mem hne hfirst, hothers⟩

/-- The parts of a text are the texts between its marks. -/
theorem parts_eq_iff {mark : Char} {s : String} {ps : List String} (hps : ps ≠ []) :
    parts mark s = ps ↔ (∀ p ∈ ps, mark ∉ p.toList) ∧ s.toList = [mark].intercalate (ps.map String.toList) := by
  have hback : parts mark s = ps ↔ s.toList.splitOn mark = ps.map String.toList := by
    constructor
    · rintro rfl
      simp [parts]
    · intro h
      simp [parts, h]
  rw [hback]
  constructor
  · intro h
    refine ⟨fun p hp => ?_, ?_⟩
    · have hpart : p.toList ∈ s.toList.splitOn mark := by
        rw [h]
        exact List.mem_map_of_mem hp
      exact not_mem_of_mem_splitOn _ hpart
    · rw [← h, List.intercalate_splitOn]
  · rintro ⟨hmarks, hs⟩
    rw [hs]
    apply List.splitOn_intercalate
    · simpa using hmarks
    · simpa using hps

/-- The paths that lead to the changes of a person. -/
theorem Route.ofPath?_eq_change_iff {path person : String} :
    ofPath? path = some (.change person) ↔
      '/' ∉ person.toList ∧ path = "/api/v1/participants/" ++ person ++ "/changes" := by
  have hparts : ofPath? path = some (.change person) ↔
      parts '/' path = ["", "api", "v1", "participants", person, "changes"] := by
    constructor
    · intro h
      unfold ofPath? at h
      split at h <;> simp_all
    · intro h
      simp [ofPath?, h]
  have hpath : path = "/api/v1/participants/" ++ person ++ "/changes" ↔ path.toList =
      ['/'].intercalate (["", "api", "v1", "participants", person, "changes"].map String.toList) := by
    rw [← String.toList_inj]
    simp [List.intercalate]
  rw [hparts, parts_eq_iff (by simp), hpath]
  refine and_congr_left fun _ => ?_
  simp

/-! ## Bodies -/

theorem jsonFields?_eq_ok_iff {done fs : List (String × Json)} {fields : List (Option String × Draft)} :
    Draft.jsonFields? done fields = .ok fs ↔
      ∃ es, Reader.eachField Reader.json fields = .ok es ∧ fs = es.foldl (fun done e => put e.1 e.2 done) done := by
  induction fields generalizing done with
  | nil =>
    constructor
    · intro h
      cases h
      exact ⟨[], rfl, rfl⟩
    · rintro ⟨es, hes, rfl⟩
      cases hes
      rfl
  | cons e rest ih =>
    obtain ⟨- | name, d⟩ := e
    · constructor
      · intro h
        cases h
      · rintro ⟨es, hes, -⟩
        cases hes
    · have hread {v : Json} : Reader.json d = .ok v ↔ d.json? = .ok v := by
        unfold Reader.json
        cases d.json? <;> simp
      rw [Draft.jsonFields?, bind_eq_ok]
      simp only [Reader.eachField_cons_eq_ok, hread, ih]
      constructor
      · rintro ⟨v, hv, es, hes, rfl⟩
        exact ⟨(name, v) :: es, ⟨v, es, hv, hes, rfl⟩, rfl⟩
      · rintro ⟨-, ⟨v, es, hv, hes, rfl⟩, rfl⟩
        exact ⟨v, hv, es, hes, rfl⟩

/-- The fields of a change are those of the record that the body holds. -/
theorem changedFields_eq_ok_iff {d : Draft} (hd : d.Distinct) {fs : List (String × Json)} :
    changedFields d = .ok fs ↔ d.json? = .ok (.record fs) := by
  have hfields : changedFields d = .ok fs ↔
      ∃ es, Reader.entries Reader.json d = .ok es ∧ (Listed.ofList es).entries = fs := by
    rw [changedFields, bind_eq_ok]
    simp only [pure, Except.pure, Except.ok.injEq]
  rw [hfields]
  cases hd with
  | @value v hv =>
    cases v with
    | record fields =>
      rw [Reader.entries_record, Reader.eachField_json]
      simp [Listed.entries_ofList hv.names, Draft.json?]
    | _ => simp [Reader.entries, Draft.fields?, Draft.json?]
  | @record fields gap _ =>
    have hentries {es : List (String × Json)} : Reader.entries Reader.json (.record fields gap) = .ok es ↔
        Reader.eachField Reader.json fields = .ok es ∧ gap = none := by
      change (Reader.eachField Reader.json fields >>= fun es => passGap gap >>= fun _ => .ok es) = _ ↔ _
      rw [bind_eq_ok]
      cases gap <;> simp [passGap, bind, Except.bind]
    have hjson : (Draft.record fields gap).json? = .ok (.record fs) ↔
        Draft.jsonFields? [] fields = .ok fs ∧ gap = none := by
      rw [Draft.json?, bind_eq_ok]
      cases gap <;> simp
    simp only [hentries, hjson, jsonFields?_eq_ok_iff, Listed.entries_ofList_eq_foldl]
    constructor
    · rintro ⟨es, ⟨hes, rfl⟩, rfl⟩
      exact ⟨⟨es, hes, rfl⟩, rfl⟩
    · rintro ⟨⟨es, hes, rfl⟩, rfl⟩
      exact ⟨es, ⟨hes, rfl⟩, rfl⟩
  | @list items gap _ =>
    have hjson : (Draft.list items gap).json? ≠ .ok (.record fs) := by
      rw [Draft.json?, Ne, bind_eq_ok]
      cases gap <;> simp
    simp [hjson, Reader.entries, Draft.fields?]
  | broken _ _ => simp [Reader.entries, Draft.fields?, Draft.json?]
  | flawed _ => simp [Reader.entries, Draft.fields?, Draft.json?]

theorem Body.distinct_draft (b : Body) : b.draft.Distinct := distinct_ofText b.text

namespace Request

/-! ## Changes -/

/-- The request is posted to the changes of a person, whose key stands escaped in the path. -/
structure ToChange (q : Request) (person : String) : Prop where
  method : q.method = "POST"
  segment : '/' ∉ person.toList
  path : q.path = "/api/v1/participants/" ++ person ++ "/changes"

/-- The request brings a change: it is posted to the changes of a person and holds a record. -/
structure Brings (q : Request) (c : Change) : Prop where
  addressed : ∃ person, q.ToChange person ∧ segmentText? person = some c.participantId
  announced : ∃ header ∈ q.contentType, isJsonType header
  fits : q.body.bytes.length ≤ bodyLimit
  holds : q.body.draft.json? = .ok (.record c.fields)

/-- The person whose changes a request is posted to, escaped. -/
def changedPart? (q : Request) : Option String :=
  match Route.ofPath? q.path with
  | some (.change person) => if q.method = "POST" then some person else none
  | _ => none

/-- The change that a request brings. -/
def change? (q : Request) : Option Change := do
  let person ← q.changedPart?
  let id ← segmentText? person
  let fields ← (readBody changedFields q).toOption
  return ⟨id, fields⟩

theorem toChange_iff {q : Request} {person : String} :
    q.ToChange person ↔ q.method = "POST" ∧ Route.ofPath? q.path = some (.change person) := by
  rw [Route.ofPath?_eq_change_iff]
  constructor
  · rintro ⟨hmethod, hsegment, hpath⟩
    exact ⟨hmethod, hsegment, hpath⟩
  · rintro ⟨hmethod, hsegment, hpath⟩
    exact ⟨hmethod, hsegment, hpath⟩

theorem readBody_eq_ok_iff {α : Type} {r : Reader α} {q : Request} {a : α} :
    readBody r q = .ok a ↔ (∃ header ∈ q.contentType, isJsonType header) ∧
      q.body.bytes.length ≤ bodyLimit ∧ r q.body.draft = .ok a := by
  have hannounced : (q.contentType.map isJsonType).getD false = true ↔
      ∃ header ∈ q.contentType, isJsonType header := by
    cases q.contentType <;> simp
  rw [← hannounced, readBody]
  split
  · split
    · next hsize =>
      have hover : ¬ q.body.bytes.length ≤ bodyLimit := Nat.not_le.mpr hsize
      simp [*]
    · next hsize =>
      have hfits : q.body.bytes.length ≤ bodyLimit := Nat.le_of_not_lt hsize
      split <;> simp [*]
  · simp [*]

/-- Whoever sends a body that is of no use is told what is wrong with it, not that nothing is there. -/
theorem status_of_readBody {α : Type} {r : Reader α} {q : Request} {status : Nat} (h : readBody r q = .error status) :
    status ∈ [400, 413, 415, 422] := by
  unfold readBody at h
  split at h
  · split at h
    · cases h
      decide
    · split at h <;> cases h <;> decide
  · cases h
    decide

theorem changedPart?_eq_some_iff {q : Request} {person : String} :
    q.changedPart? = some person ↔ q.ToChange person := by
  rw [toChange_iff]
  unfold changedPart?
  cases Route.ofPath? q.path with
  | none => simp
  | some route =>
    cases route with
    | change part => by_cases hmethod : q.method = "POST" <;> simp [hmethod]
    | _ => simp

theorem readBody_changedFields_eq_ok_iff {q : Request} {fields : List (String × Json)} :
    readBody changedFields q = .ok fields ↔ (∃ header ∈ q.contentType, isJsonType header) ∧
      q.body.bytes.length ≤ bodyLimit ∧ q.body.draft.json? = .ok (.record fields) := by
  rw [readBody_eq_ok_iff, changedFields_eq_ok_iff q.body.distinct_draft]

theorem change?_eq_some_iff {q : Request} {c : Change} : q.change? = some c ↔ q.Brings c := by
  obtain ⟨id, fields⟩ := c
  have hread {fields : List (String × Json)} :
      (readBody changedFields q).toOption = some fields ↔ readBody changedFields q = .ok fields := by
    cases readBody changedFields q <;> simp [Except.toOption]
  unfold change?
  simp only [Option.bind_eq_bind, Option.bind_eq_some_iff, changedPart?_eq_some_iff, hread,
    readBody_changedFields_eq_ok_iff]
  constructor
  · rintro ⟨person, hperson, id', hid, fields', ⟨hannounced, hfits, hholds⟩, hc⟩
    cases hc
    exact ⟨⟨person, hperson, hid⟩, hannounced, hfits, hholds⟩
  · rintro ⟨⟨person, hperson, hid⟩, hannounced, hfits, hholds⟩
    exact ⟨person, hperson, id, hid, fields, ⟨hannounced, hfits, hholds⟩, rfl⟩

/-- A request brings one change at most. -/
theorem Brings.unique {q : Request} {c c' : Change} (h : q.Brings c) (h' : q.Brings c') : c = c' :=
  Option.some.inj ((change?_eq_some_iff.mpr h).symm.trans (change?_eq_some_iff.mpr h'))

end Request

end RetreatDesk.Web
