import RetreatDesk.Proofs.Reading.Layout

/-!
# Reading tagged records

* `read_invariant`: what holds at the start and after each field under every tag holds of whatever is read.
* `read_record_iff`: a record is read as the tag says, off all its other fields.
-/

namespace RetreatDesk.Tagged

open Json

variable {α : Type} (t : Tagged α)

/-- What holds at the start and after each field under every tag holds of whatever is read. The tag is taken out first,
so what its layout meets are values that have been read already. -/
theorem read_invariant {P : α → Prop} (hblank : ∀ tag, P (t.layout tag).blank)
    (htake : ∀ tag a b k v, P a → (t.layout tag).take a k (.value v) = .ok b → P b) {d : Draft} {x : α}
    (h : t.read d = .ok x) : P x := by
  have hvalues : ∀ tag, ∀ {a b : α} {k : String} {d : Draft}, (∃ v, d = .value v) → P a →
      (t.layout tag).take a k d = .ok b → P b := by
    rintro tag a b k - ⟨v, rfl⟩ ha hb
    exact htake tag a b k v ha hb
  unfold read at h
  split at h
  · obtain ⟨⟨tag, others⟩, -, h⟩ := bind_eq_ok.mp h
    obtain ⟨-, -, h⟩ := bind_eq_ok.mp h
    split at h
    · cases h
    · next tag _ =>
      refine (t.layout tag).readRecord_invariant (hvalues tag) (fun e he => ?_) (hblank tag) h
      obtain ⟨f, -, rfl⟩ := List.mem_map.mp he
      exact ⟨f.2, rfl⟩
  · unfold readList at h
    split at h
    · obtain ⟨-, -, h⟩ := bind_eq_ok.mp h
      cases h
    · obtain ⟨tag, -, h⟩ := bind_eq_ok.mp h
      obtain ⟨others, -, h⟩ := bind_eq_ok.mp h
      obtain ⟨-, -, h⟩ := bind_eq_ok.mp h
      refine (t.layout tag).readList_invariant (hvalues tag) (fun d hd => ?_) (hblank tag) h
      obtain ⟨v, -, rfl⟩ := List.mem_map.mp hd
      exact ⟨v, rfl⟩
  · cases h

/-! ## Records -/

/-- The fields of a record without the tag. -/
def untagged (fs : List (String × Json)) : List (String × Json) := fs.filter fun e => decide (e.1 ≠ t.tag)

theorem lookup_untagged {k : String} (hk : k ≠ t.tag) (fs : List (String × Json)) :
    (t.untagged fs).lookup k = fs.lookup k :=
  @lookup_filter (fun n => decide (n ≠ t.tag)) k (decide_eq_true hk) fs

theorem keysOf_untagged (fs : List (String × Json)) : (keysOf (t.untagged fs)).Sublist (keysOf fs) :=
  List.filter_sublist.map _

/-- Under distinct names the tag is found wherever it stands, and the other fields keep their order. -/
theorem splitFields_ofFields {fs : List (String × Json)} (hfs : (keysOf fs).Nodup) {tag : Option String}
    (htag : tag ≠ none → t.tag ∉ keysOf fs) (others : List (String × Json)) :
    t.splitFields tag others (Draft.ofFields fs) =
      match fs.lookup t.tag with
      | none => .ok (tag, others.reverse ++ t.untagged fs)
      | some v => (fun s => (some s, others.reverse ++ t.untagged fs)) <$> Reader.text .tag (.value v) := by
  induction fs generalizing tag others with
  | nil =>
    change Except.ok (tag, others.reverse) = Except.ok (tag, others.reverse ++ [])
    rw [List.append_nil]
  | cons e rest ih =>
    obtain ⟨k, v⟩ := e
    obtain ⟨hfresh, hrest⟩ := List.nodup_cons.mp hfs
    rw [Draft.ofFields_cons, splitFields]
    by_cases hk : k = t.tag
    · subst hk
      have hnone : tag = none := by
        by_contra hsome
        exact htag hsome List.mem_cons_self
      have hcut : t.untagged ((t.tag, v) :: rest) = t.untagged rest := List.filter_cons_of_neg (by simp)
      rw [if_pos rfl, hnone, if_neg (by simp), List.lookup_cons_self, hcut]
      dsimp only
      cases Reader.text .tag (.value v) with
      | error problem => rfl
      | ok s =>
        refine (ih hrest (fun _ => hfresh) others).trans ?_
        rw [lookup_eq_none_of_not_mem hfresh]
        rfl
    · have hkeep : t.untagged ((k, v) :: rest) = (k, v) :: t.untagged rest := List.filter_cons_of_pos (by simpa using hk)
      have hfree : tag ≠ none → t.tag ∉ keysOf rest := fun hsome hmem => htag hsome (List.mem_cons_of_mem _ hmem)
      rw [if_neg hk, lookup_cons_of_ne (Ne.symm hk), hkeep]
      refine (ih hrest hfree ((k, v) :: others)).trans ?_
      rw [List.reverse_cons, List.append_assoc, List.singleton_append]

/-- A record is read as the tag says, off all its other fields. -/
theorem read_record_iff {fs : List (String × Json)} (hfs : (keysOf fs).Nodup) {x : α} :
    t.read (.value (.record fs)) = .ok x ↔
      ∃ s, fs.lookup t.tag = some (.text s) ∧ (t.layout s).read (.value (.record (t.untagged fs))) = .ok x := by
  change (t.splitFields none [] (Draft.ofFields fs) >>= _) = .ok x ↔ _
  rw [t.splitFields_ofFields hfs (fun h => absurd rfl h)]
  cases hlookup : fs.lookup t.tag with
  | none => simp [passGap, bind, Except.bind]
  | some v =>
    cases v with
    | text s =>
      constructor
      · exact fun h => ⟨s, rfl, h⟩
      · rintro ⟨s', heq, h⟩
        cases heq
        exact h
    | _ => simp [Reader.text, bind, Except.bind, Functor.map, Except.map]

end RetreatDesk.Tagged
