import RetreatDesk.Proofs.Json.Path

/-!
# What an overlay is, path by path

* `Json.Merged`: what a record of changes makes of a record, told for every path of names.
* `Merged.unique`: there is at most one such value.
* `eq_overlay_iff_merged`: it is the overlay.
-/

namespace RetreatDesk.Json

/-- What a record of changes makes of the fields of a record, told for every path of names. -/
structure Merged (fields changes : List (String × Json)) (r : Json) : Prop where
  isRecord : r.isRecord = true
  /-- Anything but a record takes the place of what was there. -/
  replaced : ∀ path v, (record changes).at? path = some v → v.isRecord = false → r.at? path = some v
  /-- What comes where no record was comes as it is. -/
  brought : ∀ path v, (record changes).at? path = some v →
    (∀ w, (record fields).at? path = some w → w.isRecord = false) → r.at? path = some v
  /-- What the change leaves is as it was, or missing as it was. -/
  left : ∀ path, Leaves changes path → r.at? path = (record fields).at? path
  /-- Where records meet, the old names stay in front and each name stands once. -/
  names : ∀ path olds news, (record fields).at? path = some (.record olds) →
    (record changes).at? path = some (.record news) →
      ∃ both, r.at? path = some (.record both) ∧ keysOf both = overlayNames (keysOf olds) (keysOf news) ∧
        (keysOf both).Nodup

variable {fields changes : List (String × Json)}

theorem at?_record_cons {k : String} {v : Json} (h : fields.lookup k = some v) (path : List String) :
    (record fields).at? (k :: path) = v.at? path := by
  have hk : (record fields).get? k = some v := h
  rw [at?_cons, hk, Option.bind_some]

theorem at?_singleton (v : Json) (k : String) : v.at? [k] = v.get? k := by
  rw [at?_cons]
  cases v.get? k <;> rfl

/-! ## The overlay -/

theorem merged_overlay {target : Json} (ht : target.Distinct) (hc : (record changes).Distinct) :
    Merged target.fields changes (target.overlay changes) := by
  have hover : settle (some (record target.fields)) (.record changes) = target.overlay changes := settle_record _ _
  have hfields : (record target.fields).Distinct := by
    cases ht with
    | record hnames hvalues => exact .record hnames hvalues
    | _ => exact .record List.nodup_nil (by simp [Json.fields])
  have hat : ∀ path v, (record changes).at? path = some v →
      (target.overlay changes).at? path = some (settle ((record target.fields).at? path) v) := by
    intro path v hv
    rw [← hover]
    exact at?_settle_of_at? hc hv _
  refine ⟨rfl, fun path v hv hscalar => ?_, fun path v hv hnone => ?_, fun path hpath => ?_, ?_⟩
  · rw [hat path v hv, settle_of_not_record hscalar]
  · rw [hat path v hv, settle_on_scalar hnone]
  · rw [← hover]
    exact at?_settle hc hpath _
  · intro path olds news holds hnews
    refine ⟨overlayFields olds news, ?_, ?_, ?_⟩
    · rw [hat path _ hnews, holds, settle_record]
    · exact keysOf_overlayFields olds (hc.at? hnews).names
    · exact nodup_overlayFields (hfields.at? holds).names news

/-! ## Nothing else -/

namespace Merged

variable {r r' : Json}

theorem exists_fields (h : Merged fields changes r) : ∃ both, r = .record both ∧
    keysOf both = overlayNames (keysOf fields) (keysOf changes) ∧ (keysOf both).Nodup := by
  obtain ⟨both, hboth, hkeys⟩ := h.names [] fields changes rfl rfl
  exact ⟨both, Option.some.inj hboth, hkeys⟩

/-- Under a name on which both sides have records the same holds of these. -/
theorem under (h : Merged fields changes r) {k : String} {olds news : List (String × Json)}
    (holds : fields.lookup k = some (.record olds)) (hnews : changes.lookup k = some (.record news)) :
    ∃ s, r.get? k = some s ∧ Merged olds news s := by
  have hold : ∀ path, (record fields).at? (k :: path) = (record olds).at? path := at?_record_cons holds
  have hnew : ∀ path, (record changes).at? (k :: path) = (record news).at? path := at?_record_cons hnews
  obtain ⟨both, hboth, -⟩ := h.names [k] olds news (hold []) (hnew [])
  rw [at?_singleton] at hboth
  have hat : ∀ path, r.at? (k :: path) = (record both).at? path := by
    intro path
    rw [at?_cons, hboth, Option.bind_some]
  refine ⟨_, hboth, rfl, fun path v hv => ?_, fun path v hv => ?_, fun path hpath => ?_, fun path => ?_⟩
  · rw [← hat]
    exact h.replaced _ v ((hnew path).trans hv)
  · rw [← hat, ← hold]
    exact h.brought _ v ((hnew path).trans hv)
  · rw [← hat, ← hold]
    refine h.left _ ?_
    unfold Leaves
    rwa [hnews]
  · rw [← hold, ← hnew, ← hat]
    exact h.names _

/-- Where not both sides have records under a name, the value is told outright. -/
theorem get?_congr (h : Merged fields changes r) (h' : Merged fields changes r') {k : String}
    (hk : ∀ olds news, fields.lookup k = some (.record olds) → changes.lookup k ≠ some (.record news)) :
    r.get? k = r'.get? k := by
  have hnew : (record changes).at? [k] = changes.lookup k := at?_singleton _ _
  have hold : (record fields).at? [k] = fields.lookup k := at?_singleton _ _
  rw [← at?_singleton, ← at?_singleton]
  cases hv : changes.lookup k with
  | none =>
    have hleaves : Leaves changes [k] := by
      unfold Leaves
      rw [hv]
      trivial
    rw [h.left _ hleaves, h'.left _ hleaves]
  | some v =>
    rw [hv] at hnew
    cases hrecord : v.isRecord with
    | false => rw [h.replaced _ v hnew hrecord, h'.replaced _ v hnew hrecord]
    | true =>
      have hscalar : ∀ w, (record fields).at? [k] = some w → w.isRecord = false := by
        rw [hold]
        rcases record_or_scalar (fields.lookup k) with ⟨olds, holds⟩ | hscalar
        · cases v with
          | record news => exact absurd hv (hk olds news holds)
          | _ => cases hrecord
        · exact hscalar
      rw [h.brought _ v hnew hscalar, h'.brought _ v hnew hscalar]

/-- The induction is on the change: where both sides have records under a name, the change says less there. -/
theorem unique (hc : (record changes).Distinct) (h : Merged fields changes r) (h' : Merged fields changes r') :
    r = r' := by
  generalize hv : record changes = v at hc
  induction hc generalizing changes fields r r' with
  | @record entries _ _ ih =>
    cases hv
    have hget : ∀ k, r.get? k = r'.get? k := by
      intro k
      by_cases hk : ∃ olds news, fields.lookup k = some (.record olds) ∧ entries.lookup k = some (.record news)
      · obtain ⟨olds, news, holds, hnews⟩ := hk
        obtain ⟨s, hs, hmerged⟩ := h.under holds hnews
        obtain ⟨s', hs', hmerged'⟩ := h'.under holds hnews
        rw [hs, hs', ih _ (mem_of_lookup hnews) hmerged hmerged' rfl]
      · exact h.get?_congr h' fun olds news holds hnews => hk ⟨olds, news, holds, hnews⟩
    obtain ⟨both, rfl, hkeys, hboth⟩ := h.exists_fields
    obtain ⟨both', rfl, hkeys', hboth'⟩ := h'.exists_fields
    have hlisted : (⟨both, hboth⟩ : Listed Json) = ⟨both', hboth'⟩ :=
      Listed.ext_get? (hkeys.trans hkeys'.symm) fun k _ => hget k
    exact congrArg (fun m : Listed Json => record m.entries) hlisted
  | _ => cases hv

end Merged

/-- What a record of changes makes of a value of any kind, a value that is no record counting as an empty one, is told by
what stands at the end of every path and by the order of the names. -/
theorem eq_overlay_iff_merged {target r : Json} (ht : target.Distinct) (hc : (record changes).Distinct) :
    r = target.overlay changes ↔ Merged target.fields changes r := by
  constructor
  · rintro rfl
    exact merged_overlay ht hc
  · intro h
    exact h.unique hc (merged_overlay ht hc)

/-- Fields of somebody who was asked again. -/
def noted : Json :=
  .record [("tags", .list [.text "driver"]),
    ("languages", .record [("spoken", .text "Tibetan"), ("written", .text "English")]), ("phone", .text "555"),
    ("room", .record [("floor", .text "2")])]

/-- The answers: an empty record for a list, a record for a text, a text for a record, and names in another order. -/
def revision : List (String × Json) :=
  [("car", .bool true), ("room", .text "none"), ("phone", .record [("home", .text "556")]),
    ("languages", .record [("read", .text "Spanish"), ("written", .text "Spanish")]), ("tags", .record [])]

def revised : Json :=
  .record [("tags", .record []),
    ("languages", .record [("spoken", .text "Tibetan"), ("written", .text "Spanish"), ("read", .text "Spanish")]),
    ("phone", .record [("home", .text "556")]), ("room", .text "none"), ("car", .bool true)]

/-- All answers are in, the language that nobody asked about is still there, and the new names go last. -/
theorem eq_overlay_iff_merged_revision :
    noted.Distinct ∧ (record revision).Distinct ∧ Merged noted.fields revision revised := by
  have hnoted : noted.Distinct := by
    refine .record (by decide) ?_
    simp only [List.forall_mem_cons]
    refine ⟨.list (by simp [Distinct.text]), .record (by decide) ?_, .text _, .singleton (.text _), by simp⟩
    simp [Distinct.text]
  have hrevision : (record revision).Distinct := by
    refine .record (by decide) ?_
    simp only [revision, List.forall_mem_cons]
    refine ⟨.bool _, .text _, .singleton (.text _), .record (by decide) ?_, .record List.nodup_nil (by simp), by simp⟩
    simp [Distinct.text]
  exact ⟨hnoted, hrevision, (eq_overlay_iff_merged hnoted hrevision).mp rfl⟩

end RetreatDesk.Json
