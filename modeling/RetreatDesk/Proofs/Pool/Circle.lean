import RetreatDesk.Desk.Basic
import RetreatDesk.Proofs.Pool.Rules
import Mathlib.Data.Set.Insert

/-!
# Pools that only justify each other

A pool may take its members from pools that take them from the pool itself. If there is no other way into any pool of
such a circle, nobody can be the first to come in, and the circle is empty.

* `PoolRule.LeansOn`: a rule that holds of nobody outside the pools of a set.
* `SelfSupporting`: a set of pools whose rules all lean on the set.
* `PoolRule.holds_of_leansOn`: what one rule asks for.
* `members_of_selfSupporting`: a self-supporting set of pools admits nobody.
-/

namespace RetreatDesk

/-- Whoever meets the rule is in a pool of the set. A difference leans on the pool to be in, whatever it leaves out. -/
def PoolRule.LeansOn (S : Set String) : PoolRule → Prop
  | .pool name => name ∈ S
  | .difference inPool _ => inPool ∈ S
  | .both pool₁ pool₂ => pool₁ ∈ S ∨ pool₂ ∈ S
  | .offeringAndPools _ _ pools => ∀ name ∈ pools, name ∈ S
  | .unknown => True
  | _ => False

/-- All rules of the pools in the set lean on the set. Names without a pool may be in it. -/
def SelfSupporting (pools : Sorted Pool) (S : Set String) : Prop :=
  ∀ name ∈ S, ∀ pool, pools.get? name = some pool → ∀ r ∈ pool.rules, r.LeansOn S

section
variable {pools : Sorted Pool} {S : Set String}

theorem PoolRule.holds_of_leansOn {r : PoolRule} (h : r.LeansOn S) {f : String → Bool} (hf : ∀ n ∈ S, f n = false)
    (p : Participant) (aid : String) : r.holds f p aid = false := by
  cases r with
  | pool name => exact hf name h
  | difference inPool outPool => rw [holds, hf inPool h, Bool.false_and]
  | both pool₁ pool₂ =>
    rcases h with h | h
    · rw [holds, hf pool₁ h, Bool.false_and]
    · rw [holds, hf pool₂ h, Bool.and_false]
  | offeringAndPools a subEvent pools =>
    have hnone : pools.any f = false := by
      rw [List.any_eq_false]
      intro n hn
      rw [hf n (h n hn)]
      exact Bool.false_ne_true
    rw [holds, hnone, Bool.and_false]
  | unknown => rfl
  | _ => exact h.elim

/-- The induction follows the questions: whoever meets a rule that leans on the set is in a pool of the set that is
asked about with one pool less to visit. -/
theorem memberAlong_of_selfSupporting (h : SelfSupporting pools S) (p : Participant) (aid : String)
    {path : List String} {name : String} (hname : name ∈ S) : memberAlong pools p aid path name = false := by
  induction path, name using memberAlong.induct pools with
  | case1 path name hreg => exact memberAlong_unregistered hreg p aid path
  | case2 path name pool hreg hmem => exact memberAlong_of_mem p aid hmem
  | case3 path name pool hreg hnew ih =>
    rw [memberAlong_registered hreg hnew, Pool.admits, List.any_eq_false]
    intro r hr
    have hrule : r.LeansOn S := h name hname pool hreg r hr
    rw [PoolRule.holds_of_leansOn hrule (fun n hn => ih n hn) p aid]
    exact Bool.false_ne_true

/-- Pools that only justify each other, in circles of any shape or through names without a pool, admit nobody. -/
theorem members_of_selfSupporting (h : SelfSupporting pools S) {name : String} (hname : name ∈ S) :
    (∀ p aid, member pools p aid name = false) ∧
      ∀ d : Desk, d.pools = pools → ∀ aid, d.members name aid = [] := by
  have hnobody : ∀ p aid, member pools p aid name = false :=
    fun p aid => memberAlong_of_selfSupporting h p aid hname
  refine ⟨hnobody, ?_⟩
  rintro d rfl aid
  rw [Desk.members, List.map_eq_nil_iff, List.filter_eq_nil_iff]
  intro p _
  rw [hnobody p aid]
  exact Bool.false_ne_true

/-- Three pools that hand their members round, one of them with a look at a pool for everyone and at one that nobody
registered. -/
def roundabout : Sorted Pool := .ofList
  [("everyone", { name := "everyone", rules := [.everyone] }),
   ("first", { name := "first", rules := [.difference "second" "missing", .both "everyone" "third"] }),
   ("second", { name := "second", rules := [.offeringAndPools "aid" "any" ["third", "missing"], .pool "second"] }),
   ("third", { name := "third", rules := [.pool "first", .unknown, .difference "missing" "first"] })]

theorem members_of_selfSupporting_roundabout :
    SelfSupporting roundabout {"first", "second", "third", "missing"} ∧
      ∀ p aid, member roundabout p aid "first" = false := by
  have hself : SelfSupporting roundabout {"first", "second", "third", "missing"} := by
    rintro name (rfl | rfl | rfl | rfl) pool hreg <;> cases hreg <;> simp [PoolRule.LeansOn]
  exact ⟨hself, (members_of_selfSupporting hself (by simp)).1⟩

end

end RetreatDesk
