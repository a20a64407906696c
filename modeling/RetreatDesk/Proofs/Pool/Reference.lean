import RetreatDesk.Pool.Membership
import Mathlib.Logic.Relation

/-!
# References between pools

A question about one pool leads to questions about the pools that its rules mention. The answer found along a path
of pools depends only on those pools of the path that the questions can come back to.

* `PoolRule.mentions`: the pools that a rule asks about.
* `Refers`, `Reaches`: one question leads to another at once, or in the end.
* `memberAlong_congr_path`: pools on a path that cannot be reached do not matter.
-/

namespace RetreatDesk

/-! ## The pools that a rule asks about -/

/-- The pools that a rule asks about. -/
def PoolRule.mentions : PoolRule → List String
  | .pool name => [name]
  | .difference inPool outPool => [inPool, outPool]
  | .both pool₁ pool₂ => [pool₁, pool₂]
  | .offeringAndPools _ _ pools => pools
  | _ => []

theorem any_congr_of_mem {α : Type} {l : List α} {f g : α → Bool} (h : ∀ a ∈ l, f a = g a) :
    l.any f = l.any g := by
  rw [Bool.eq_iff_iff, List.any_eq_true, List.any_eq_true]
  constructor
  · rintro ⟨a, ha, hf⟩
    exact ⟨a, ha, h a ha ▸ hf⟩
  · rintro ⟨a, ha, hg⟩
    exact ⟨a, ha, (h a ha).symm ▸ hg⟩

theorem PoolRule.holds_congr {r : PoolRule} {f g : String → Bool} (h : ∀ n ∈ r.mentions, f n = g n)
    (p : Participant) (aid : String) : r.holds f p aid = r.holds g p aid := by
  cases r with
  | pool name => exact h name (by simp [mentions])
  | difference inPool outPool =>
    have hin : f inPool = g inPool := h inPool (by simp [mentions])
    have hout : f outPool = g outPool := h outPool (by simp [mentions])
    rw [holds, holds, hin, hout]
  | both pool₁ pool₂ =>
    have h₁ : f pool₁ = g pool₁ := h pool₁ (by simp [mentions])
    have h₂ : f pool₂ = g pool₂ := h pool₂ (by simp [mentions])
    rw [holds, holds, h₁, h₂]
  | offeringAndPools a subEvent pools =>
    have hany : pools.any f = pools.any g := any_congr_of_mem h
    rw [holds, holds, hany]
  | _ => rfl

theorem Pool.admits_congr {pool : Pool} {f g : String → Bool}
    (h : ∀ r ∈ pool.rules, ∀ n ∈ r.mentions, f n = g n) (p : Participant) (aid : String) :
    pool.admits f p aid = pool.admits g p aid :=
  any_congr_of_mem fun r hr => PoolRule.holds_congr (h r hr) p aid

/-! ## Reaching one pool from another -/

/-- A rule of the registered pool `a` asks about `b`. -/
def Refers (pools : Sorted Pool) (a b : String) : Prop :=
  ∃ pool, pools.get? a = some pool ∧ ∃ r ∈ pool.rules, b ∈ r.mentions

/-- A question about `a` can lead to one about `b`. -/
def Reaches (pools : Sorted Pool) : String → String → Prop :=
  Relation.ReflTransGen (Refers pools)

section
variable {pools : Sorted Pool}

theorem reaches_of_mention {a b : String} {pool : Pool} (hreg : pools.get? a = some pool) {r : PoolRule}
    (hr : r ∈ pool.rules) (hb : b ∈ r.mentions) : Reaches pools a b :=
  Relation.ReflTransGen.single ⟨pool, hreg, r, hr, hb⟩

/-! ## Paths -/

variable (p : Participant) (aid : String)

theorem memberAlong_of_mem {path : List String} {name : String} (h : name ∈ path) :
    memberAlong pools p aid path name = false := by
  rw [memberAlong]
  split
  · rfl
  · simp [h]

/-- Two paths answer alike when they agree on the pools that can be reached. -/
theorem memberAlong_congr_path {path path' : List String} {name : String}
    (h : ∀ q, Reaches pools name q → (q ∈ path ↔ q ∈ path')) :
    memberAlong pools p aid path name = memberAlong pools p aid path' name := by
  induction path, name using memberAlong.induct pools generalizing path' with
  | case1 path name hreg =>
    rw [memberAlong_unregistered hreg, memberAlong_unregistered hreg]
  | case2 path name pool hreg hmem =>
    have hmem' : name ∈ path' := (h name .refl).mp hmem
    rw [memberAlong_of_mem p aid hmem, memberAlong_of_mem p aid hmem']
  | case3 path name pool hreg hnew ih =>
    have hnew' : name ∉ path' := fun hmem => hnew ((h name .refl).mpr hmem)
    rw [memberAlong_registered hreg hnew, memberAlong_registered hreg hnew']
    refine Pool.admits_congr (fun r hr n hn => ih n fun q hq => ?_) p aid
    have hreach : Reaches pools name q := (reaches_of_mention hreg hr hn).trans hq
    rw [List.mem_cons, List.mem_cons, h q hreach]

/-- The order of a path does not matter, nor how often a pool occurs on it. -/
theorem memberAlong_congr_mem {path path' : List String} (h : ∀ q, q ∈ path ↔ q ∈ path') (name : String) :
    memberAlong pools p aid path name = memberAlong pools p aid path' name :=
  memberAlong_congr_path p aid fun q _ => h q

/-- A path that cannot be reached is as good as none. -/
theorem memberAlong_eq_member {path : List String} {name : String} (h : ∀ q ∈ path, ¬ Reaches pools name q) :
    memberAlong pools p aid path name = member pools p aid name := by
  refine memberAlong_congr_path p aid fun q hq => ?_
  constructor
  · intro hmem
    exact absurd hq (h q hmem)
  · intro hmem
    cases hmem

end

end RetreatDesk
