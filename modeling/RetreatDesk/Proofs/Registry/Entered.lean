import RetreatDesk.Proofs.Pool.Rules
import RetreatDesk.Proofs.Reading.Part
import RetreatDesk.Proofs.Registry.FilterEntry
import RetreatDesk.Proofs.Registry.RuleEntry
import RetreatDesk.View.Output
import Mathlib.Data.List.Forall2

/-!
# Lists of rules and of conditions as they are entered

Each entry of a list is read apart from the others, and an entry that does not fit leaves a gap that nobody notices.

* `PoolRule.Entered`, `ViewFilter.Entered`: what becomes of one entry.
* `Pool.hasField`, `View.hasField`: the rules of a pool and the conditions of a view are those of their lists.
* `member_eraseIdx`, `View.shows_eraseIdx`: an entry that is incomplete makes no difference.
* `read_as_entered`: what becomes of the lists of any pool and of any view.
-/

namespace RetreatDesk

open Json

/-! ## Entries -/

/-- What becomes of an entry of a list of rules. A record tells a rule if it is complete, and then the one that it spells.
What is neither a record nor a list tells none. -/
def PoolRule.Entered : Json → PoolRule → Prop
  | .record fs, r => (r ≠ .unknown ↔ Complete fs) ∧ ∀ r', r' ≠ .unknown → (r = r' ↔ SpelledBy fs r')
  | .list _, _ => True
  | _, r => r = .unknown

/-- What becomes of an entry of a list of conditions, in the same way. -/
def ViewFilter.Entered : Json → ViewFilter → Prop
  | .record fs, f => (f ≠ .unknown ↔ Complete fs) ∧ ∀ fact value, f = .expect fact value ↔ SpelledBy fs fact value
  | .list _, _ => True
  | _, f => f = .unknown

/-- An entry that is no rule in full. -/
def PoolRule.Incomplete : Json → Prop
  | .record fs => ¬ Complete fs
  | .list _ => False
  | _ => True

/-- An entry that is no condition in full. -/
def ViewFilter.Incomplete : Json → Prop
  | .record fs => ¬ Complete fs
  | .list _ => False
  | _ => True

namespace Reader

variable {α : Type} {standIn : α} {r : Reader α}

/-- Whatever is read of an entry is the entry's or the stand-in. -/
theorem getD_eq_iff {v : Json} {x : α} (hx : x ≠ standIn) :
    (ofJson? r v).getD standIn = x ↔ r (.value v) = .ok x := by
  rw [← ofJson?_eq_some]
  cases ofJson? r v with
  | none => exact ⟨fun h => absurd h.symm hx, fun h => by cases h⟩
  | some y => exact ⟨fun h => congrArg some h, fun h => Option.some.inj h⟩

theorem getD_ne_iff {v : Json} : (ofJson? r v).getD standIn ≠ standIn ↔ ∃ x, x ≠ standIn ∧ r (.value v) = .ok x := by
  constructor
  · exact fun h => ⟨_, h, (getD_eq_iff h).mp rfl⟩
  · rintro ⟨x, hx, hread⟩
    rw [(getD_eq_iff hx).mpr hread]
    exact hx

theorem each_of_values {d : Draft} {items : List Json} (h : values d = .ok items) :
    each standIn r d = .ok (items.map fun v => (ofJson? r v).getD standIn) := by
  rw [each, h]
  rfl

end Reader

theorem PoolRule.entered {v : Json} (hv : v.Distinct) :
    Entered v ((Reader.ofJson? tagged.read v).getD unknown) := by
  cases v with
  | record fs =>
    refine ⟨Reader.getD_ne_iff.trans (exists_read_iff_complete hv.names), fun r' hr' => ?_⟩
    exact (Reader.getD_eq_iff hr').trans (read_iff_spelledBy hv.names hr')
  | list items => trivial
  | _ => rfl

theorem ViewFilter.entered {v : Json} (hv : v.Distinct) :
    Entered v ((Reader.ofJson? tagged.read v).getD unknown) := by
  cases v with
  | record fs =>
    refine ⟨Reader.getD_ne_iff.trans (exists_read_iff_complete hv.names), fun fact value => ?_⟩
    exact (Reader.getD_eq_iff fun h => by cases h).trans (read_iff_spelledBy hv.names)
  | list items => trivial
  | _ => rfl

theorem PoolRule.Entered.eq_unknown {v : Json} {r : PoolRule} (h : Entered v r) (hv : Incomplete v) : r = .unknown := by
  cases v with
  | record fs => exact not_not.mp fun hr => hv (h.1.mp hr)
  | list items => exact hv.elim
  | _ => exact h

theorem ViewFilter.Entered.eq_unknown {v : Json} {f : ViewFilter} (h : Entered v f) (hv : Incomplete v) :
    f = .unknown := by
  cases v with
  | record fs => exact not_not.mp fun hf => hv (h.1.mp hf)
  | list items => exact hv.elim
  | _ => exact h

/-! ## Lists -/

namespace Pool

theorem hasField : layout.HasField "attributes" (Reader.each .unknown PoolRule.tagged.read) (·.rules) where
  declared := by decide
  keep_eq := rfl
  of_set {d p q} h := by
    obtain ⟨rules, hrules, h⟩ := bind_eq_ok.mp h
    cases h
    exact hrules
  of_set_ne {k d p q} hk hne h := by
    simp only [layout, List.mem_cons, List.not_mem_nil, or_false] at hk
    rcases hk with rfl | rfl | rfl
    · obtain ⟨_, -, h⟩ := bind_eq_ok.mp h
      cases h
      rfl
    · obtain ⟨_, -, h⟩ := bind_eq_ok.mp h
      cases h
      rfl
    · exact absurd rfl hne

end Pool

namespace View

theorem hasField : layout.HasField "viewConditions" (Reader.each .unknown ViewFilter.tagged.read) (·.filters) where
  declared := by decide
  keep_eq := rfl
  of_set {d v w} h := by
    obtain ⟨filters, hfilters, h⟩ := bind_eq_ok.mp h
    cases h
    exact hfilters
  of_set_ne {k d v w} hk hne h := by
    simp only [layout, List.mem_cons, List.not_mem_nil, or_false] at hk
    rcases hk with rfl | rfl | rfl
    · obtain ⟨_, -, h⟩ := bind_eq_ok.mp h
      cases h
      rfl
    · obtain ⟨_, -, h⟩ := bind_eq_ok.mp h
      cases h
      rfl
    · exact absurd rfl hne

end View

/-- A list under the name of a field is read entry by entry. -/
theorem Layout.HasField.entries_of_read {α β : Type} {l : Layout α} {name : String} {standIn : β} {r : Reader β}
    {get : α → List β} (f : l.HasField name (Reader.each standIn r) get) (hfields : l.fields.Nodup)
    {Entered : Json → β → Prop} (hentry : ∀ {v : Json}, v.Distinct → Entered v ((Reader.ofJson? r v).getD standIn))
    {doc d : Draft} (hdoc : doc.Distinct) {x : α} (h : l.read doc = .ok x) (hpart : doc.part? l.fields name = some d) :
    ∃ items, Reader.values d = .ok items ∧ List.Forall₂ Entered items (get x) := by
  have htaken := f.taken_of_read hfields h
  rw [hpart] at htaken
  obtain ⟨items, hitems, hget⟩ := bind_eq_ok.mp htaken
  refine ⟨items, hitems, ?_⟩
  have hdistinct := Reader.distinct_values (Draft.distinct_part? hdoc hpart) hitems
  rw [← Except.ok.inj hget, List.forall₂_map_right_iff, List.forall₂_same]
  exact fun v hv => hentry (hdistinct v hv)

/-! ## Entries that make no difference -/

theorem exists_getElem?_of_forall₂ {α β : Type} {R : α → β → Prop} {l : List α} {l' : List β} (h : List.Forall₂ R l l')
    {i : Nat} {a : α} (hi : l[i]? = some a) : ∃ b, l'[i]? = some b ∧ R a b := by
  induction h generalizing i with
  | nil => simp at hi
  | cons hfirst _ ih =>
    cases i with
    | zero =>
      cases hi
      exact ⟨_, rfl, hfirst⟩
    | succ i => exact ih hi

theorem mem_eraseIdx_iff {α : Type} {l : List α} {i : Nat} {a b : α} (hi : l[i]? = some b) (hab : a ≠ b) :
    a ∈ l.eraseIdx i ↔ a ∈ l := by
  refine ⟨List.mem_of_mem_eraseIdx, fun h => ?_⟩
  obtain ⟨j, hj⟩ := List.mem_iff_getElem?.mp h
  refine List.mem_eraseIdx_iff_getElem?.mpr ⟨j, ?_, hj⟩
  rintro rfl
  exact hab (Option.some.inj (hj.symm.trans hi))

/-- An entry that nobody meets has no part in anybody's membership in any pool. -/
theorem member_eraseIdx {p : Pool} {i : Nat} (hi : p.rules[i]? = some .unknown) (pools : Sorted Pool)
    (person : Participant) (aid name : String) :
    member (pools.insert p.name { p with rules := p.rules.eraseIdx i }) person aid name =
      member (pools.insert p.name p) person aid name := by
  have hsame : ∀ n, SameRules (pools.insert p.name p)
      ((pools.insert p.name p).insert p.name { p with rules := p.rules.eraseIdx i }) n := by
    refine sameRules_insert fun r hr => ?_
    rw [rulesOf_of_get? (Sorted.get?_insert_self pools p.name p)]
    exact (mem_eraseIdx_iff hi hr).symm
  rw [Sorted.insert_insert_self] at hsame
  exact (memberAlong_congr_rules person aid fun n _ => hsame n).symm

/-- A condition that asks for nothing has no part in who is shown. -/
theorem View.shows_eraseIdx {v : View} {i : Nat} (hi : v.filters[i]? = some .unknown) (s : Scope)
    (term : Option String) (person : Participant) :
    View.shows { v with filters := v.filters.eraseIdx i } s term person = v.shows s term person := by
  have hpasses : passesAll s (v.filters.eraseIdx i) person = passesAll s v.filters person := by
    rw [passesAll, passesAll, Bool.eq_iff_iff, List.all_eq_true, List.all_eq_true]
    constructor
    · intro h f hf
      by_cases hf' : f = .unknown
      · rw [hf']
        rfl
      · exact h f ((mem_eraseIdx_iff hi hf').mpr hf)
    · exact fun h f hf => h f (List.mem_of_mem_eraseIdx hf)
  simp only [shows, hpasses]

/-! ## Pools and views -/

/-- A list of rules or of conditions is read whatever its entries are, each entry in its place and apart from the others,
and so are the list of any pool and that of any view. A record is read as the rule or the condition that it spells if it
is complete. An entry that is incomplete lets nobody into a pool and keeps nobody out of a view: without it everything is
the same. -/
theorem read_as_entered :
    (∀ items : List Json, (∀ v ∈ items, v.Distinct) →
      (∃ rules, Reader.each .unknown PoolRule.tagged.read (.value (.list items)) = .ok rules ∧
        List.Forall₂ PoolRule.Entered items rules) ∧
      ∃ filters, Reader.each .unknown ViewFilter.tagged.read (.value (.list items)) = .ok filters ∧
        List.Forall₂ ViewFilter.Entered items filters) ∧
    (∀ {doc d : Draft} {p : Pool}, doc.Distinct → Pool.layout.read doc = .ok p →
      doc.part? Pool.layout.fields "attributes" = some d →
      ∃ items, Reader.values d = .ok items ∧ List.Forall₂ PoolRule.Entered items p.rules ∧
        ∀ i v, items[i]? = some v → PoolRule.Incomplete v → ∀ (pools : Sorted Pool) person aid name,
          member (pools.insert p.name { p with rules := p.rules.eraseIdx i }) person aid name =
            member (pools.insert p.name p) person aid name) ∧
    ∀ {doc d : Draft} {v : View}, doc.Distinct → View.layout.read doc = .ok v →
      doc.part? View.layout.fields "viewConditions" = some d →
      ∃ items, Reader.values d = .ok items ∧ List.Forall₂ ViewFilter.Entered items v.filters ∧
        ∀ i w, items[i]? = some w → ViewFilter.Incomplete w → ∀ s term person,
          View.shows { v with filters := v.filters.eraseIdx i } s term person = v.shows s term person := by
  refine ⟨fun items hitems => ⟨⟨_, Reader.each_of_values (Reader.values_list items), ?_⟩,
    ⟨_, Reader.each_of_values (Reader.values_list items), ?_⟩⟩, fun hdoc h hpart => ?_, fun hdoc h hpart => ?_⟩
  · rw [List.forall₂_map_right_iff, List.forall₂_same]
    exact fun v hv => PoolRule.entered (hitems v hv)
  · rw [List.forall₂_map_right_iff, List.forall₂_same]
    exact fun v hv => ViewFilter.entered (hitems v hv)
  · obtain ⟨items, hitems, hrules⟩ := Pool.hasField.entries_of_read (by decide) PoolRule.entered hdoc h hpart
    refine ⟨items, hitems, hrules, fun i v hi hv => ?_⟩
    obtain ⟨r, hr, hentered⟩ := exists_getElem?_of_forall₂ hrules hi
    rw [hentered.eq_unknown hv] at hr
    exact member_eraseIdx hr
  · obtain ⟨items, hitems, hfilters⟩ := View.hasField.entries_of_read (by decide) ViewFilter.entered hdoc h hpart
    refine ⟨items, hitems, hfilters, fun i w hi hw => ?_⟩
    obtain ⟨f, hf, hentered⟩ := exists_getElem?_of_forall₂ hfilters hi
    rw [hentered.eq_unknown hw] at hf
    exact View.shows_eraseIdx hf

/-- Rules that lack what they need, something that is no rule, and a rule with more than it needs. -/
def halfRules : List Json :=
  [.record [("type", .text "pool")], .record [("type", .text "currenteventnotoffering"), ("subevent", .null)], .bool true,
   .record [("field", .text "sits"), ("type", .text "practice"), ("since", .number (.whole 2019))]]

/-- A condition that expects a no, and one that lacks the pool. -/
def halfFilters : List Json :=
  [.record [("name", .text "baseBool"), ("boolValue", .text ""), ("boolName", .text "unsubscribe")],
   .record [("name", .text "poolMember")]]

theorem distinct_halfRules : ∀ v ∈ halfRules, v.Distinct := by
  simp only [halfRules, List.forall_mem_cons]
  refine ⟨.singleton (.text _), .record (by decide) ?_, .bool _, .record (by decide) ?_, by simp⟩
  · simp [Distinct.text, Distinct.null]
  · simp [Distinct.text, Distinct.number]

theorem distinct_halfFilters : ∀ v ∈ halfFilters, v.Distinct := by
  simp only [halfFilters, List.forall_mem_cons]
  refine ⟨.record (by decide) ?_, .singleton (.text _), by simp⟩
  simp [Distinct.text]

/-- The second rule, which would admit whoever has not booked, admits nobody. The last one and the first condition are
read as they are spelled. -/
theorem read_as_entered_half : ∃ p v,
    Pool.layout.read (.value (.record [("attributes", .list halfRules), ("name", .text "half")])) = .ok p ∧
    View.layout.read (.value (.record [("name", .text "half"), ("viewConditions", .list halfFilters)])) = .ok v ∧
    (∀ (pools : Sorted Pool) person aid name,
      member (pools.insert p.name { p with rules := p.rules.eraseIdx 1 }) person aid name =
        member (pools.insert p.name p) person aid name) ∧
    p.rules[3]? = some (.practice "sits") ∧ v.filters[0]? = some (.expect (.baseField "unsubscribe") false) ∧
    ∀ s term person, View.shows { v with filters := v.filters.eraseIdx 1 } s term person = v.shows s term person := by
  have hpool : (Json.record [("attributes", .list halfRules), ("name", .text "half")]).Distinct := by
    refine .record (by decide) ?_
    simp only [List.forall_mem_cons]
    exact ⟨.list distinct_halfRules, .text _, by simp⟩
  have hview : (Json.record [("name", .text "half"), ("viewConditions", .list halfFilters)]).Distinct := by
    refine .record (by decide) ?_
    simp only [List.forall_mem_cons]
    exact ⟨.text _, .list distinct_halfFilters, by simp⟩
  obtain ⟨-, hpools, hviews⟩ := read_as_entered
  have hp : Pool.layout.read (.value (.record [("attributes", .list halfRules), ("name", .text "half")])) = .ok _ := rfl
  have hv : View.layout.read (.value (.record [("name", .text "half"), ("viewConditions", .list halfFilters)])) = .ok _ :=
    rfl
  obtain ⟨items, hitems, hrules, hidle⟩ := hpools (.value hpool) hp rfl
  obtain ⟨items', hitems', hfilters, hidle'⟩ := hviews (.value hview) hv rfl
  cases (Reader.values_list halfRules).symm.trans hitems
  cases (Reader.values_list halfFilters).symm.trans hitems'
  refine ⟨_, _, hp, hv, hidle 1 _ rfl ?_, ?_, ?_, hidle' 1 _ rfl ?_⟩
  · rintro ⟨kind, ⟨needed, hkind, htag, htexts⟩, -⟩
    cases htag
    have hneeded : needed = ["subevent"] := by simpa [PoolRule.kinds] using hkind
    obtain ⟨s, hs⟩ := htexts "subevent" (hneeded ▸ List.mem_cons_self)
    cases hs
  · obtain ⟨r, hr, -, hspelled⟩ := exists_getElem?_of_forall₂ hrules (i := 3) rfl
    rw [hr, (hspelled (.practice "sits") (by simp)).mpr ⟨rfl, fun n w hw => ?_⟩]
    cases List.mem_singleton.mp hw
    exact .inl rfl
  · obtain ⟨f, hf, -, hspelled⟩ := exists_getElem?_of_forall₂ hfilters (i := 0) rfl
    rw [hf, (hspelled (.baseField "unsubscribe") false).mpr ⟨rfl, fun n hn _ => ?_, fun hsub => ?_, rfl⟩]
    · cases List.mem_singleton.mp hn
      rfl
    · exact absurd hsub (by decide)
  · rintro ⟨kind, needed, hkind, htag, htexts⟩
    cases htag
    have hneeded : needed = ["pool"] := by simpa [ViewFilter.kinds] using hkind
    obtain ⟨s, hs⟩ := htexts "pool" (hneeded ▸ List.mem_cons_self)
    cases hs

end RetreatDesk
