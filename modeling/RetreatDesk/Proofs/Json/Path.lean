import RetreatDesk.Proofs.Json.Overlay

/-!
# What a change leaves of a value

* `Json.at?`: what stands at the end of a path of names.
* `Json.Leaves`: a path along which a change ends before the path does, by not naming the next step.
* `Json.Spared`: whatever a change leaves is as it was.
* `spared_settle`: a record of changes spares whatever it is laid over.
* `at?_settle_of_at?`: what a change holds at the end of a path is settled on what stands there.
-/

namespace RetreatDesk.Json

/-- What stands at the end of a path of names. -/
def at? (v : Json) : List String → Option Json
  | [] => some v
  | k :: rest => (v.get? k).bind fun w => w.at? rest

/-- At some name along the path the change has a record that does not hold it. -/
def Leaves (changes : List (String × Json)) : List String → Prop
  | [] => False
  | k :: rest =>
    match changes.lookup k with
    | none => True
    | some (.record inner) => Leaves inner rest
    | some _ => False

/-- Whatever a change leaves is as it was. -/
def Spared (changes : List (String × Json)) (v w : Json) : Prop :=
  ∀ path, Leaves changes path → w.at? path = v.at? path

theorem at?_cons (v : Json) (k : String) (rest : List String) : v.at? (k :: rest) = (v.get? k).bind (·.at? rest) := rfl

theorem at?_append (v : Json) (path rest : List String) : v.at? (path ++ rest) = (v.at? path).bind (·.at? rest) := by
  induction path generalizing v with
  | nil => rfl
  | cons k path ih =>
    rw [List.cons_append, at?_cons, at?_cons, Option.bind_assoc]
    exact congrArg _ (funext ih)

theorem Distinct.at? {v w : Json} (h : v.Distinct) {path : List String} (hw : v.at? path = some w) : w.Distinct := by
  induction path generalizing v with
  | nil =>
    cases hw
    exact h
  | cons k rest ih =>
    obtain ⟨u, hu, hrest⟩ := Option.bind_eq_some_iff.mp hw
    cases v with
    | record fs => exact ih (h.values hu) hrest
    | _ => cases hu

theorem at?_pair_eq_some {v u : Json} {j k : String} :
    v.at? [j, k] = some u ↔ ∃ w, v.get? j = some w ∧ w.get? k = some u := by
  simp [at?, Option.bind_eq_some_iff]

/-- An entry of a container stands under the name of the container and its own. -/
theorem at?_entry {α : Type} {write : α → Json} {entries : List (String × α)} {v : Json} {name : String}
    (h : v.get? name = some (.record (entries.map fun e => (e.1, write e.2)))) (k : String) :
    v.at? [name, k] = (entries.lookup k).map write := by
  have hentry : (Json.record (entries.map fun e => (e.1, write e.2))).get? k = (entries.lookup k).map write :=
    lookup_map write k entries
  rw [at?_cons, h, Option.bind_some, at?_cons, hentry]
  cases entries.lookup k <;> rfl

theorem exists_at?_iff {v : Json} {refused : List String → Json → Prop} :
    (∃ path w, v.at? path = some w ∧ refused path w) ↔
      refused [] v ∨ ∃ k u, v.get? k = some u ∧ ∃ path w, u.at? path = some w ∧ refused (k :: path) w := by
  constructor
  · rintro ⟨- | ⟨k, rest⟩, w, hw, h⟩
    · cases hw
      exact .inl h
    · obtain ⟨u, hu, hw⟩ := Option.bind_eq_some_iff.mp hw
      exact .inr ⟨k, u, hu, rest, w, hw, h⟩
  · rintro (h | ⟨k, u, hu, path, w, hw, h⟩)
    · exact ⟨[], v, rfl, h⟩
    · exact ⟨k :: path, w, Option.bind_eq_some_iff.mpr ⟨u, hu, hw⟩, h⟩

/-- A record laid over a value of any kind is laid over its fields. -/
theorem settle_some_record {changes : List (String × Json)} (hchanges : (keysOf changes).Nodup) (v : Json) :
    settle (some v) (.record changes) = v.overlay changes := settle_eq_record hchanges (some v)

theorem get?_overlay {changes : List (String × Json)} (hchanges : (keysOf changes).Nodup) (v : Json) (k : String) :
    (v.overlay changes).get? k = settled (v.get? k) (changes.lookup k) :=
  lookup_overlayFields hchanges k v.fields

/-- The induction is along the path: as long as both go on with records, the change is laid over what stands there. -/
theorem at?_settle {changes : List (String × Json)} (h : Distinct (.record changes)) {path : List String}
    (hpath : Leaves changes path) (v : Json) : (settle (some v) (.record changes)).at? path = v.at? path := by
  induction path generalizing changes v with
  | nil => cases hpath
  | cons k rest ih =>
    rw [settle_some_record h.names, at?_cons, at?_cons, get?_overlay h.names]
    unfold Leaves at hpath
    cases hk : changes.lookup k with
    | none => rfl
    | some w =>
      rw [hk] at hpath
      cases w with
      | record inner =>
        have hinner : Distinct (.record inner) := h.values hk
        rw [settled_some, Option.bind_some]
        cases v.get? k with
        | some u => exact ih hinner hpath u
        | none =>
          -- A record that comes new is as good as laid over `null`, in which nothing stands.
          have hnull : settle none (.record inner) = settle (some .null) (.record inner) := rfl
          rw [hnull, ih hinner hpath, Option.bind_none]
          cases rest with
          | nil => cases hpath
          | cons j rest => rfl
      | _ => cases hpath

/-- What a change holds at the end of a path is settled on what stands there. -/
theorem at?_settle_of_at? {v w : Json} (hv : v.Distinct) {path : List String} (hw : v.at? path = some w)
    (t : Option Json) : (settle t v).at? path = some (settle (t.bind (·.at? path)) w) := by
  induction path generalizing v t with
  | nil =>
    cases hw
    cases t <;> rfl
  | cons k rest ih =>
    obtain ⟨u, hu, hrest⟩ := Option.bind_eq_some_iff.mp hw
    cases v with
    | record changes =>
      have hk : changes.lookup k = some u := hu
      rcases record_or_scalar t with ⟨fs, rfl⟩ | hscalar
      · have hget : (settle (some (.record fs)) (.record changes)).get? k = some (settle (fs.lookup k) u) := by
          rw [settle_record]
          exact (lookup_overlayFields hv.names k fs).trans (congrArg _ hk)
        rw [at?_cons, hget, Option.bind_some]
        exact ih (hv.values hk) hrest _
      · have hnone : (t.bind fun v => v.at? (k :: rest)) = none := by
          cases t with
          | none => rfl
          | some x => simp [at?, get?, fields_of_not_record (hscalar x rfl)]
        rw [settle_on_scalar hscalar, hw, hnone, settle_on_scalar fun x hx => by cases hx]
    | _ => cases hu

/-- A record of changes spares whatever it is laid over. -/
theorem spared_settle {changes : List (String × Json)} (h : Distinct (.record changes)) (v : Json) :
    Spared changes v (settle (some v) (.record changes)) := fun _ hpath => at?_settle h hpath v

end RetreatDesk.Json
