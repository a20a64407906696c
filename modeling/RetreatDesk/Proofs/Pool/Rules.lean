import RetreatDesk.Proofs.Keyed.Entries
import RetreatDesk.Proofs.Pool.Difference

/-!
# What the rules of a pool decide

A question that comes back to a pool on its own path is answered without a look at the rules of that pool. So other
rules for a pool change no answer that its rules ask for, and the pool stays the union of what its rules admit, even if
they lead back to it. Besides, no rules are looked at but those of pools that can be reached.

* `rulesOf`: the rules registered under a name.
* `memberAlong_eq`: the equation of membership for every name and every path.
* `member_insert_self`: the members of a pool that is put into a registry.
* `member_insert_append`: a pool with the rules of two has the members of both.
* `SameRules`: the rules under a name are the same in two registries, as a set and save rules that nobody meets.
* `member_congr_rules`: membership depends on the rules of the pools that can be reached and on nothing else.
-/

namespace RetreatDesk

section
variable {pools : Sorted Pool} (p : Participant) (aid : String)

/-! ## A pool as a union -/

theorem vacated_insert (name : String) (pool : Pool) : vacated (pools.insert name pool) name = vacated pools name :=
  Sorted.insert_insert_self pools name pool _

/-- The members of a pool that is put into a registry are those whom its rules admit, where every question that comes
back to the pool is answered as if the pool admitted nobody. Its own rules have no part in those answers. -/
theorem member_insert_self (name : String) (pool : Pool) :
    member (pools.insert name pool) p aid name = pool.admits (member (vacated pools name) p aid) p aid := by
  have hreg : (pools.insert name pool).get? name = some pool := Sorted.get?_insert_self pools name pool
  rw [member, memberAlong_registered hreg List.not_mem_nil]
  refine Pool.admits_congr (fun _ _ n _ => ?_) p aid
  rw [memberAlong_cons_eq_vacated, vacated_insert, member]

/-- A pool with the rules of two has the members of both, whatever the rules lead to. In particular no rule that is
added to a pool takes a member from it. -/
theorem member_insert_append {name : String} {pool : Pool} (hreg : pools.get? name = some pool)
    (rules rules' : List PoolRule) :
    member (pools.insert name { pool with rules := rules ++ rules' }) p aid name =
        (member (pools.insert name { pool with rules := rules }) p aid name ||
          member (pools.insert name { pool with rules := rules' }) p aid name) ∧
      (pool.rules ⊆ rules → member pools p aid name = true →
        member (pools.insert name { pool with rules := rules }) p aid name = true) := by
  constructor
  · rw [member_insert_self, member_insert_self, member_insert_self]
    exact List.any_append
  · intro hmore hmember
    have hsame : member (pools.insert name pool) p aid name = true := by
      rw [Sorted.insert_of_get? hreg]
      exact hmember
    rw [member_insert_self] at hsame ⊢
    obtain ⟨r, hr, hold⟩ := List.any_eq_true.mp hsame
    exact List.any_eq_true.mpr ⟨r, hmore hr, hold⟩

/-- The knot with other rules for the difference in it. -/
def retied (rules : List PoolRule) : Sorted Pool := knot.insert "others" { name := "others", rules := rules }

/-- The difference in the knot keeps its members when it takes in those who take them back. -/
theorem member_insert_append_knot :
    knot.get? "others" = some { name := "others", rules := [.difference "everyone" "takers"] } ∧
      member (retied [.difference "everyone" "takers", .pool "takers"]) {} "aid" "others" =
        (member (retied [.difference "everyone" "takers"]) {} "aid" "others" ||
          member (retied [.pool "takers"]) {} "aid" "others") ∧
      member (retied [.pool "takers", .difference "everyone" "takers"]) {} "aid" "others" = true := by
  have hreg : knot.get? "others" = some { name := "others", rules := [.difference "everyone" "takers"] } := rfl
  have hin : member knot {} "aid" "everyone" = true := (memberAlong_registered rfl List.not_mem_nil _ _).trans rfl
  have hout : member (vacated knot "others") {} "aid" "takers" = false := by
    refine (memberAlong_registered rfl List.not_mem_nil _ _).trans ?_
    simp [Pool.admits, PoolRule.holds, memberAlong_vacated_self]
  have hmember : member knot {} "aid" "others" = true := by
    rw [member_difference_eq {} "aid" hreg rfl, hin, hout]
    rfl
  have hunion := member_insert_append {} "aid" hreg
  exact ⟨hreg, (hunion [.difference "everyone" "takers"] [.pool "takers"]).1, (hunion _ []).2 (by simp) hmember⟩

/-! ## The rules that count -/

/-- The rules registered under a name. A name without a pool has none. -/
def rulesOf (pools : Sorted Pool) (name : String) : List PoolRule := ((pools.get? name).map (·.rules)).getD []

theorem rulesOf_of_get? {name : String} {pool : Pool} (hreg : pools.get? name = some pool) :
    rulesOf pools name = pool.rules := by
  rw [rulesOf, hreg]
  rfl

theorem rulesOf_of_none {name : String} (hreg : pools.get? name = none) : rulesOf pools name = [] := by
  rw [rulesOf, hreg]
  rfl

/-- The equation of membership for every name and every path: a pool that stands on the path admits nobody, and a name
without a pool is like one of a pool without rules. -/
theorem memberAlong_eq (path : List String) (name : String) :
    memberAlong pools p aid path name =
      (decide (name ∉ path) && (rulesOf pools name).any (·.holds (memberAlong pools p aid (name :: path)) p aid)) := by
  by_cases hmem : name ∈ path
  · rw [memberAlong_of_mem p aid hmem, decide_eq_false (not_not.mpr hmem), Bool.false_and]
  · rw [decide_eq_true hmem, Bool.true_and]
    cases hreg : pools.get? name with
    | none => rw [memberAlong_unregistered hreg, rulesOf_of_none hreg, List.any_nil]
    | some pool => rw [memberAlong_registered hreg hmem, rulesOf_of_get? hreg, Pool.admits]

/-- Under a name two registries have the same rules, whatever their order and however often they occur. Rules that
nobody meets do not count. -/
def SameRules (pools pools' : Sorted Pool) (name : String) : Prop :=
  ∀ r, r ≠ .unknown → (r ∈ rulesOf pools name ↔ r ∈ rulesOf pools' name)

theorem SameRules.any_holds_eq {pools' : Sorted Pool} {name : String} (h : SameRules pools pools' name)
    {f g : String → Bool} (hfg : ∀ r ∈ rulesOf pools name, ∀ n ∈ r.mentions, f n = g n) :
    (rulesOf pools name).any (·.holds f p aid) = (rulesOf pools' name).any (·.holds g p aid) := by
  have hunknown : ∀ {r : PoolRule} {f : String → Bool}, r.holds f p aid = true → r ≠ .unknown := by
    rintro _ _ hold rfl
    cases hold
  rw [Bool.eq_iff_iff, List.any_eq_true, List.any_eq_true]
  constructor
  · rintro ⟨r, hr, hold⟩
    refine ⟨r, (h r (hunknown hold)).mp hr, ?_⟩
    rw [← PoolRule.holds_congr (hfg r hr) p aid]
    exact hold
  · rintro ⟨r, hr', hold⟩
    have hr : r ∈ rulesOf pools name := (h r (hunknown hold)).mpr hr'
    refine ⟨r, hr, ?_⟩
    rw [PoolRule.holds_congr (hfg r hr) p aid]
    exact hold

/-- Two registries answer alike along every path when they have the same rules under all names that can be reached. The
induction follows the questions in the first registry, and there are no others in the second one. -/
theorem memberAlong_congr_rules {pools' : Sorted Pool} {path : List String} {name : String}
    (h : ∀ n, Reaches pools name n → SameRules pools pools' n) :
    memberAlong pools p aid path name = memberAlong pools' p aid path name := by
  induction path, name using memberAlong.induct pools with
  | case1 path name hreg =>
    rw [memberAlong_eq, memberAlong_eq, (h name .refl).any_holds_eq p aid]
    intro r hr
    rw [rulesOf_of_none hreg] at hr
    cases hr
  | case2 path name _ _ hmem => rw [memberAlong_of_mem p aid hmem, memberAlong_of_mem p aid hmem]
  | case3 path name pool hreg hnew ih =>
    rw [memberAlong_eq, memberAlong_eq, (h name .refl).any_holds_eq p aid]
    intro r hr n hn
    rw [rulesOf_of_get? hreg] at hr
    exact ih n fun m hm => h m ((reaches_of_mention hreg hr hn).trans hm)

/-! ### Pools put into a registry -/

theorem rulesOf_insert_of_ne {name other : String} (hne : other ≠ name) (pool : Pool) :
    rulesOf (pools.insert name pool) other = rulesOf pools other := by
  rw [rulesOf, rulesOf, Sorted.get?_insert_of_ne pools hne]

/-- A pool may be replaced by one with the same rules, and a name without a pool may get one without rules. -/
theorem sameRules_insert {name : String} {pool : Pool}
    (h : ∀ r, r ≠ .unknown → (r ∈ rulesOf pools name ↔ r ∈ pool.rules)) (n : String) :
    SameRules pools (pools.insert name pool) n := by
  intro r hr
  by_cases hn : n = name
  · rw [hn, rulesOf_of_get? (Sorted.get?_insert_self pools name pool)]
    exact h r hr
  · rw [rulesOf_insert_of_ne hn]

/-- A pool that cannot be reached may be put in or replaced. -/
theorem sameRules_insert_of_not_reaches {name other : String} (h : ¬ Reaches pools name other) (pool : Pool)
    {n : String} (hn : Reaches pools name n) : SameRules pools (pools.insert other pool) n := by
  intro r _
  have hne : n ≠ other := fun heq => h (heq ▸ hn)
  rw [rulesOf_insert_of_ne hne]

/-! ### Membership in two registries -/

/-- Membership depends on the rules of the pools that can be reached, as sets, and on nothing else. So it makes no
difference to put a pool in, or to replace it, that has the rules registered before or that cannot be reached. -/
theorem member_congr_rules (pools : Sorted Pool) (name : String) :
    (∀ pools', (∀ n, Reaches pools name n → SameRules pools pools' n) →
        member pools p aid name = member pools' p aid name) ∧
      ∀ other (pool : Pool),
        (∀ r, r ≠ .unknown → (r ∈ rulesOf pools other ↔ r ∈ pool.rules)) ∨ ¬ Reaches pools name other →
          member (pools.insert other pool) p aid name = member pools p aid name := by
  constructor
  · intro pools' h
    exact memberAlong_congr_rules p aid h
  · rintro other pool (hrules | hfar)
    · exact (memberAlong_congr_rules p aid fun n _ => sameRules_insert hrules n).symm
    · exact (memberAlong_congr_rules p aid fun n hn => sameRules_insert_of_not_reaches hfar pool hn).symm

/-- A rule of the knot written twice and one that nobody meets make no difference, nor does a pool that the knot does
not mention. -/
theorem member_congr_rules_knot :
    (∀ n, Reaches knot "takers" n → SameRules knot
        (retied [.unknown, .difference "everyone" "takers", .difference "everyone" "takers"]) n) ∧
      ¬ Reaches knot "takers" "strangers" ∧
      member knot {} "aid" "takers" = member
        (retied [.unknown, .difference "everyone" "takers", .difference "everyone" "takers"]) {} "aid" "takers" ∧
      member (knot.insert "strangers" { name := "strangers", rules := [.everyone] }) {} "aid" "takers" =
        member knot {} "aid" "takers" := by
  have hrules : rulesOf knot "others" = [.difference "everyone" "takers"] := rfl
  have hsame : ∀ n, Reaches knot "takers" n → SameRules knot
      (retied [.unknown, .difference "everyone" "takers", .difference "everyone" "takers"]) n := by
    refine fun n _ => sameRules_insert (fun r hr => ?_) n
    rw [hrules]
    simp [hr]
  have hunmentioned : ∀ e ∈ knot.entries, ∀ r ∈ e.2.rules, "strangers" ∉ r.mentions := by decide
  have hfar : ¬ Reaches knot "takers" "strangers" := by
    intro hreach
    rcases hreach.cases_tail with heq | ⟨n, -, pool, hreg, r, hr, hmention⟩
    · exact absurd heq (by decide)
    · exact hunmentioned (n, pool) (mem_of_lookup hreg) r hr hmention
  obtain ⟨hcongr, hinsert⟩ := member_congr_rules {} "aid" knot "takers"
  exact ⟨hsame, hfar, hcongr _ hsame, hinsert "strangers" _ (.inr hfar)⟩

end

end RetreatDesk
