import RetreatDesk.Proofs.Pool.Reference

/-!
# Differences of pools

A pool whose only rule is the difference of two pools asks about both while it stands on the path itself. For the
pool to be in this changes nothing. For the pool to be out of it means that the answer is given as if the difference
admitted nobody, which is not always the answer to the question on its own.

* `vacated`: the registry in which a pool admits nobody.
* `memberAlong_cons_eq_vacated`: asking along a path with a pool on it is asking in the registry where the pool is
  vacated.
* `member_difference_eq`: the members of a difference are the members of the one pool who would not be in the other
  if the difference admitted nobody.
* `difference_law_iff`: who breaks the law that a member of a difference is in the one pool and out of the other;
  nobody does unless the pool to be out of leads back to the difference.
-/

namespace RetreatDesk

/-! ## A pool that admits nobody -/

/-- The registry in which a pool admits nobody. -/
def vacated (pools : Sorted Pool) (name : String) : Sorted Pool := pools.insert name { name := name }

theorem get?_vacated_self (pools : Sorted Pool) (name : String) :
    (vacated pools name).get? name = some { name := name } := Sorted.get?_insert_self pools name _

theorem get?_vacated_of_ne (pools : Sorted Pool) {name other : String} (h : other ≠ name) :
    (vacated pools name).get? other = pools.get? other := Sorted.get?_insert_of_ne pools h _

section
variable {pools : Sorted Pool} (p : Participant) (aid : String)

theorem memberAlong_vacated_self (path : List String) (name : String) :
    memberAlong (vacated pools name) p aid path name = false := by
  by_cases hmem : name ∈ path
  · exact memberAlong_of_mem p aid hmem
  · rw [memberAlong_registered (get?_vacated_self pools name) hmem]
    rfl

theorem mem_cons_comm (a b : String) (l : List String) (q : String) : q ∈ a :: b :: l ↔ q ∈ b :: a :: l := by
  rw [List.mem_cons, List.mem_cons, List.mem_cons, List.mem_cons]
  exact or_left_comm

/-- A pool on the path answers like one that admits nobody. -/
theorem memberAlong_cons_eq_vacated (self : String) (path : List String) (name : String) :
    memberAlong pools p aid (self :: path) name = memberAlong (vacated pools self) p aid path name := by
  induction path, name using memberAlong.induct pools with
  | case1 path name hreg =>
    rw [memberAlong_unregistered hreg]
    by_cases hself : name = self
    · rw [hself, memberAlong_vacated_self]
    · rw [memberAlong_unregistered ((get?_vacated_of_ne pools hself).trans hreg)]
  | case2 path name pool hreg hmem =>
    rw [memberAlong_of_mem p aid hmem, memberAlong_of_mem p aid (List.mem_cons_of_mem _ hmem)]
  | case3 path name pool hreg hnew ih =>
    by_cases hself : name = self
    · rw [hself, memberAlong_vacated_self, memberAlong_of_mem p aid List.mem_cons_self]
    · have hnew' : name ∉ self :: path := by simp [hself, hnew]
      have hreg' : (vacated pools self).get? name = some pool := (get?_vacated_of_ne pools hself).trans hreg
      rw [memberAlong_registered hreg hnew', memberAlong_registered hreg' hnew]
      refine Pool.admits_congr (fun _ _ n _ => ?_) p aid
      rw [← ih n]
      exact memberAlong_congr_mem p aid (mem_cons_comm name self path) n

/-! ## The members of a difference -/

variable {name inPool outPool : String} {pool : Pool}

theorem memberAlong_difference (hreg : pools.get? name = some pool) (hrules : pool.rules = [.difference inPool outPool])
    {path : List String} (hnew : name ∉ path) :
    memberAlong pools p aid path name =
      (memberAlong pools p aid (name :: path) inPool && !memberAlong pools p aid (name :: path) outPool) := by
  rw [memberAlong_registered hreg hnew, Pool.admits, hrules]
  simp [PoolRule.holds]

/-- While the pool to be in stands on the path, the difference admits nobody. -/
theorem memberAlong_difference_of_mem (hreg : pools.get? name = some pool)
    (hrules : pool.rules = [.difference inPool outPool]) {path : List String} (hin : inPool ∈ path) :
    memberAlong pools p aid path name = false := by
  by_cases hmem : name ∈ path
  · exact memberAlong_of_mem p aid hmem
  · rw [memberAlong_difference p aid hreg hrules hmem, memberAlong_of_mem p aid (List.mem_cons_of_mem _ hin)]
    rfl

/-- While the pool to be in stands on the path, it makes no difference whether the difference stands there too: it
admits nobody either way. -/
theorem memberAlong_cons_difference (hreg : pools.get? name = some pool)
    (hrules : pool.rules = [.difference inPool outPool]) {path : List String} (hin : inPool ∈ path) (other : String) :
    memberAlong pools p aid (name :: path) other = memberAlong pools p aid path other := by
  induction path, other using memberAlong.induct pools with
  | case1 path other hother => rw [memberAlong_unregistered hother, memberAlong_unregistered hother]
  | case2 path other _ _ hmem =>
    rw [memberAlong_of_mem p aid hmem, memberAlong_of_mem p aid (List.mem_cons_of_mem _ hmem)]
  | case3 path other _ hother hnew ih =>
    by_cases hself : other = name
    · subst hself
      rw [memberAlong_of_mem p aid List.mem_cons_self, memberAlong_difference_of_mem p aid hreg hrules hin]
    · have hnew' : other ∉ name :: path := by simp [hself, hnew]
      rw [memberAlong_registered hother hnew, memberAlong_registered hother hnew']
      refine Pool.admits_congr (fun _ _ n _ => ?_) p aid
      rw [← ih n (List.mem_cons_of_mem _ hin)]
      exact memberAlong_congr_mem p aid (mem_cons_comm other name path) n

/-- The question about the pool to be in has the same answer as on its own. -/
theorem memberAlong_inPool (hreg : pools.get? name = some pool) (hrules : pool.rules = [.difference inPool outPool]) :
    memberAlong pools p aid [name] inPool = member pools p aid inPool := by
  by_cases hself : inPool = name
  · subst hself
    rw [memberAlong_of_mem p aid List.mem_cons_self, member,
      memberAlong_difference p aid hreg hrules List.not_mem_nil, memberAlong_of_mem p aid List.mem_cons_self]
    rfl
  · cases hin : pools.get? inPool with
    | none => rw [member, memberAlong_unregistered hin, memberAlong_unregistered hin]
    | some other =>
      have hnew : inPool ∉ [name] := by simp [hself]
      rw [member, memberAlong_registered hin hnew, memberAlong_registered hin List.not_mem_nil]
      refine Pool.admits_congr (fun _ _ n _ => ?_) p aid
      have hdrop : memberAlong pools p aid [name, inPool] n = memberAlong pools p aid [inPool] n :=
        memberAlong_cons_difference p aid hreg hrules List.mem_cons_self n
      rw [← hdrop]
      exact memberAlong_congr_mem p aid (mem_cons_comm inPool name []) n

/-- The members of a difference are the members of the one pool who would not be in the other if the difference
admitted nobody. -/
theorem member_difference_eq (hreg : pools.get? name = some pool)
    (hrules : pool.rules = [.difference inPool outPool]) :
    member pools p aid name = (member pools p aid inPool && !member (vacated pools name) p aid outPool) := by
  rw [member, memberAlong_difference p aid hreg hrules List.not_mem_nil, memberAlong_inPool p aid hreg hrules,
    memberAlong_cons_eq_vacated, member, member]

/-- A pool that cannot be reached may be vacated. -/
theorem member_vacated_of_not_reaches {other : String} (h : ¬ Reaches pools other name) :
    member (vacated pools name) p aid other = member pools p aid other := by
  rw [member, ← memberAlong_cons_eq_vacated]
  refine memberAlong_eq_member p aid fun q hq => ?_
  rw [List.mem_singleton.mp hq]
  exact h

/-- The law of differences: a member of a difference is in the one pool and out of the other. It is broken exactly by
those who are in both pools, but in the pool to be out of only by way of the difference. So it holds of everybody
unless the pool to be out of leads back to the difference, and then it determines the members. -/
theorem difference_law_iff (hreg : pools.get? name = some pool) (hrules : pool.rules = [.difference inPool outPool]) :
    ((member pools p aid name = true → member pools p aid inPool = true ∧ member pools p aid outPool = false) ↔
      ¬ (member pools p aid inPool = true ∧ member pools p aid outPool = true ∧
        member (vacated pools name) p aid outPool = false)) ∧
    (member pools p aid name = true → member pools p aid inPool = true) ∧
    (¬ Reaches pools outPool name →
      (member pools p aid name = true ↔ member pools p aid inPool = true ∧ member pools p aid outPool = false)) := by
  have heq := member_difference_eq p aid hreg hrules
  have hiff : member pools p aid name = true ↔
      member pools p aid inPool = true ∧ member (vacated pools name) p aid outPool = false := by
    rw [heq, Bool.and_eq_true, Bool.not_eq_true']
  refine ⟨?_, fun h => (hiff.mp h).1, fun hback => ?_⟩
  · constructor
    · rintro hlaw ⟨hin, hout, hvacated⟩
      rw [(hlaw (hiff.mpr ⟨hin, hvacated⟩)).2] at hout
      cases hout
    · intro hnone h
      obtain ⟨hin, hvacated⟩ := hiff.mp h
      refine ⟨hin, ?_⟩
      cases hout : member pools p aid outPool with
      | false => rfl
      | true => exact absurd ⟨hin, hout, hvacated⟩ hnone
  · rw [hiff, member_vacated_of_not_reaches p aid hback]

/-- A difference of everyone and a pool that takes the members of the difference back. -/
def knot : Sorted Pool := .ofList
  [("everyone", { name := "everyone", rules := [.everyone] }),
   ("others", { name := "others", rules := [.difference "everyone" "takers"] }),
   ("takers", { name := "takers", rules := [.pool "others"] })]

theorem difference_law_iff_knot :
    knot.get? "others" = some { name := "others", rules := [.difference "everyone" "takers"] } ∧
      ((member knot {} "aid" "others" = true →
          member knot {} "aid" "everyone" = true ∧ member knot {} "aid" "takers" = false) ↔
        ¬ (member knot {} "aid" "everyone" = true ∧ member knot {} "aid" "takers" = true ∧
          member (vacated knot "others") {} "aid" "takers" = false)) := by
  have hreg : knot.get? "others" = some { name := "others", rules := [.difference "everyone" "takers"] } := rfl
  exact ⟨hreg, (difference_law_iff {} "aid" hreg rfl).1⟩

/-- Everybody is in both the difference and the pool to be out of. -/
theorem not_difference_law :
    ¬ ∀ (pools : Sorted Pool) (p : Participant) (aid name inPool outPool : String) (pool : Pool),
      pools.get? name = some pool → pool.rules = [.difference inPool outPool] →
      member pools p aid name = true → member pools p aid inPool = true ∧ member pools p aid outPool = false := by
  intro h
  have heveryone : knot.get? "everyone" = some { name := "everyone", rules := [.everyone] } := rfl
  have hothers : knot.get? "others" = some { name := "others", rules := [.difference "everyone" "takers"] } := rfl
  have htakers : knot.get? "takers" = some { name := "takers", rules := [.pool "others"] } := rfl
  have hin : ∀ {path : List String}, "everyone" ∉ path → memberAlong knot {} "aid" path "everyone" = true := by
    intro path hpath
    rw [memberAlong_registered heveryone hpath]
    rfl
  have hask : ∀ path : List String, "takers" ∉ path →
      memberAlong knot {} "aid" path "takers" = memberAlong knot {} "aid" ("takers" :: path) "others" := by
    intro path hpath
    rw [memberAlong_registered htakers hpath]
    simp [Pool.admits, PoolRule.holds]
  have hmember : member knot {} "aid" "others" = true := by
    rw [member, memberAlong_difference {} "aid" hothers rfl (by simp), hin (by simp), hask _ (by simp),
      memberAlong_of_mem {} "aid" (by simp)]
    rfl
  have hback : member knot {} "aid" "takers" = true := by
    rw [member, hask _ (by simp), memberAlong_difference {} "aid" hothers rfl (by simp), hin (by simp),
      memberAlong_of_mem {} "aid" (by simp)]
    rfl
  have hout := (h knot {} "aid" "others" "everyone" "takers" _ hothers rfl hmember).2
  rw [hback] at hout
  cases hout

end

end RetreatDesk
