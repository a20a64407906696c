import RetreatDesk.Proofs.Pool.Reference

/-!
# Membership by stages

A difference of pools asks two kinds of questions: the people have to be in one pool and must not be in the other.
With the answers to the second kind held fixed, more answers to the first kind admit more people, and membership
grows by stages: a person is in a pool at a stage if one of its rules holds by the stage before.

* `PoolRule.holdsApart`: a rule under separate answers to the two kinds of questions.
* `stage`: the pools found after so many rounds.
* `Stratified`: no pool can be reached from a pool that it leaves out.
* `memberAlong_of_stage`: what a stage finds is found along every path that the stage has not found itself. Such a
  path stands for a shortest derivation, which never comes back to a pool.
* `stage_of_memberAlong`: what is found along a path is found by a stage.
* `member_eq_stage`: membership is the stage after as many rounds as there are pools.
-/

namespace RetreatDesk

/-! ## The two kinds of questions -/

namespace PoolRule

/-- The pool whose members a rule leaves out. -/
def leavesOut : PoolRule → Option String
  | .difference _ outPool => some outPool
  | _ => none

/-- Whether a rule holds when `isOut` answers the questions about the pools left out. -/
def holdsApart (isMember isOut : String → Bool) (p : Participant) (aid : String) : PoolRule → Bool
  | .difference inPool outPool => isMember inPool && !isOut outPool
  | r => r.holds isMember p aid

theorem holdsApart_self (f : String → Bool) (p : Participant) (aid : String) (r : PoolRule) :
    r.holdsApart f f p aid = r.holds f p aid := by
  cases r <;> rfl

/-- Only the pool left out is asked about by the second kind of question. -/
theorem holdsApart_congr_out {r : PoolRule} {f out out' : String → Bool}
    (h : ∀ o, r.leavesOut = some o → out o = out' o) (p : Participant) (aid : String) :
    r.holdsApart f out p aid = r.holdsApart f out' p aid := by
  cases r with
  | difference inPool outPool => rw [holdsApart, holdsApart, h outPool rfl]
  | _ => rfl

/-- More answers to the first kind of question make more rules hold. -/
theorem holdsApart_mono {r : PoolRule} {f g : String → Bool}
    (h : ∀ n ∈ r.mentions, f n = true → g n = true) {out : String → Bool} {p : Participant} {aid : String}
    (hf : r.holdsApart f out p aid = true) : r.holdsApart g out p aid = true := by
  cases r with
  | pool name => exact h name (by simp [mentions]) hf
  | difference inPool outPool =>
    simp only [holdsApart, Bool.and_eq_true] at hf ⊢
    exact ⟨h inPool (by simp [mentions]) hf.1, hf.2⟩
  | both pool₁ pool₂ =>
    simp only [holdsApart, holds, Bool.and_eq_true] at hf ⊢
    exact ⟨h pool₁ (by simp [mentions]) hf.1, h pool₂ (by simp [mentions]) hf.2⟩
  | offeringAndPools a subEvent pools =>
    simp only [holdsApart, holds, Bool.and_eq_true, List.any_eq_true] at hf ⊢
    obtain ⟨hmade, n, hn, hfn⟩ := hf
    exact ⟨hmade, n, hn, h n hn hfn⟩
  | _ => exact hf

end PoolRule

/-- Whether a pool admits a person when `isOut` answers the questions about the pools left out. -/
def Pool.admitsApart (isMember isOut : String → Bool) (p : Participant) (aid : String) (pool : Pool) : Bool :=
  pool.rules.any (·.holdsApart isMember isOut p aid)

namespace Pool

theorem admitsApart_self (f : String → Bool) (p : Participant) (aid : String) (pool : Pool) :
    pool.admitsApart f f p aid = pool.admits f p aid :=
  any_congr_of_mem fun r _ => r.holdsApart_self f p aid

theorem admitsApart_congr_out {pool : Pool} {f out out' : String → Bool}
    (h : ∀ r ∈ pool.rules, ∀ o, r.leavesOut = some o → out o = out' o) (p : Participant) (aid : String) :
    pool.admitsApart f out p aid = pool.admitsApart f out' p aid :=
  any_congr_of_mem fun r hr => PoolRule.holdsApart_congr_out (h r hr) p aid

theorem admitsApart_mono {pool : Pool} {f g : String → Bool}
    (h : ∀ r ∈ pool.rules, ∀ n ∈ r.mentions, f n = true → g n = true) {out : String → Bool} {p : Participant}
    {aid : String} (hf : pool.admitsApart f out p aid = true) : pool.admitsApart g out p aid = true := by
  obtain ⟨r, hr, hold⟩ := List.any_eq_true.mp hf
  exact List.any_eq_true.mpr ⟨r, hr, PoolRule.holdsApart_mono (h r hr) hold⟩

end Pool

/-! ## Stages -/

section
variable (pools : Sorted Pool) (isOut : String → Bool) (p : Participant) (aid : String)

/-- The pools found to have a person as a member after so many rounds. -/
def stage : Nat → String → Bool
  | 0, _ => false
  | k + 1, name => (pools.get? name).any (Pool.admitsApart (stage k) isOut p aid)

/-- The registry has no pool that can be reached from a pool it leaves out. -/
def Stratified : Prop :=
  ∀ name pool, pools.get? name = some pool → ∀ r ∈ pool.rules, ∀ o, r.leavesOut = some o → ¬ Reaches pools o name

end

section
variable {pools : Sorted Pool} {isOut : String → Bool} {p : Participant} {aid : String}

theorem stage_succ_iff {k : Nat} {name : String} :
    stage pools isOut p aid (k + 1) name = true ↔
      ∃ pool, pools.get? name = some pool ∧ pool.admitsApart (stage pools isOut p aid k) isOut p aid = true := by
  rw [stage, Option.any_eq_true]

theorem stage_succ_of_stage {k : Nat} {name : String} (h : stage pools isOut p aid k name = true) :
    stage pools isOut p aid (k + 1) name = true := by
  induction k generalizing name with
  | zero => cases h
  | succ k ih =>
    obtain ⟨pool, hreg, hadm⟩ := stage_succ_iff.mp h
    exact stage_succ_iff.mpr ⟨pool, hreg, Pool.admitsApart_mono (fun _ _ n _ hn => ih hn) hadm⟩

theorem stage_mono {k l : Nat} (hkl : k ≤ l) {name : String} (h : stage pools isOut p aid k name = true) :
    stage pools isOut p aid l name = true := by
  induction hkl with
  | refl => exact h
  | step _ ih => exact stage_succ_of_stage ih

/-! ## Paths of questions -/

/-- A path as questions make it: the pool asked about can be reached from every pool on it. -/
def Leads (pools : Sorted Pool) (path : List String) (name : String) : Prop := ∀ q ∈ path, Reaches pools q name

theorem Leads.step {path : List String} {name next : String} (h : Leads pools path name)
    (hnext : Reaches pools name next) : Leads pools (name :: path) next := by
  intro q hq
  rcases List.mem_cons.mp hq with rfl | hq
  · exact hnext
  · exact (h q hq).trans hnext

/-- A pool that is left out is not reached by its own path, so the question about it is a question of its own. -/
theorem memberAlong_leavesOut (hstrat : Stratified pools) {path : List String} {name : String}
    (hpath : Leads pools path name) {pool : Pool} (hreg : pools.get? name = some pool) {r : PoolRule}
    (hr : r ∈ pool.rules) {o : String} (ho : r.leavesOut = some o) :
    memberAlong pools p aid (name :: path) o = member pools p aid o := by
  refine memberAlong_eq_member p aid fun q hq hback => ?_
  have hname : Reaches pools q name := by
    rcases List.mem_cons.mp hq with rfl | hq
    · exact .refl
    · exact hpath q hq
  exact hstrat name pool hreg r hr o ho (hback.trans hname)

/-- The defining equation along a path, with the pools left out asked about on their own. -/
theorem memberAlong_eq_admitsApart (hstrat : Stratified pools) {path : List String} {name : String}
    (hpath : Leads pools path name) {pool : Pool} (hreg : pools.get? name = some pool) (hnew : name ∉ path) :
    memberAlong pools p aid path name =
      pool.admitsApart (memberAlong pools p aid (name :: path)) (member pools p aid) p aid := by
  rw [memberAlong_registered hreg hnew, ← Pool.admitsApart_self]
  exact Pool.admitsApart_congr_out
    (fun r hr o ho => memberAlong_leavesOut hstrat hpath hreg hr ho) p aid

/-! ## Stages and paths -/

/-- What a stage finds is found along every path on which the stage finds nothing. The induction is on the stage: at
the first stage that finds a pool, neither the pool nor its path is found yet, so the path may be prolonged. -/
theorem memberAlong_of_stage (hstrat : Stratified pools) {k : Nat} {path : List String} {name : String}
    (hpath : Leads pools path name) (hfresh : ∀ q ∈ path, stage pools (member pools p aid) p aid k q = false)
    (h : stage pools (member pools p aid) p aid k name = true) :
    memberAlong pools p aid path name = true := by
  induction k generalizing path name with
  | zero => cases h
  | succ k ih =>
    have hearlier : ∀ q, stage pools (member pools p aid) p aid (k + 1) q = false →
        stage pools (member pools p aid) p aid k q = false := by
      intro q hq
      cases hk : stage pools (member pools p aid) p aid k q with
      | false => rfl
      | true =>
        rw [stage_succ_of_stage hk] at hq
        cases hq
    have hfresh' : ∀ q ∈ path, stage pools (member pools p aid) p aid k q = false :=
      fun q hq => hearlier q (hfresh q hq)
    by_cases hname : stage pools (member pools p aid) p aid k name = true
    · exact ih hpath hfresh' hname
    · have hnew : name ∉ path := by
        intro hmem
        rw [hfresh name hmem] at h
        cases h
      obtain ⟨pool, hreg, hadm⟩ := stage_succ_iff.mp h
      rw [memberAlong_eq_admitsApart hstrat hpath hreg hnew]
      refine Pool.admitsApart_mono (fun r hr n hn hstage => ?_) hadm
      refine ih (hpath.step (reaches_of_mention hreg hr hn)) (fun q hq => ?_) hstage
      rcases List.mem_cons.mp hq with rfl | hq
      · simpa using hname
      · exact hfresh' q hq

/-- What is found along a path is found by the stage of as many rounds as there are pools left to visit. -/
theorem stage_of_memberAlong (hstrat : Stratified pools) {path : List String} {name : String}
    (hpath : Leads pools path name) (h : memberAlong pools p aid path name = true) :
    stage pools (member pools p aid) p aid (unvisited pools path).length name = true := by
  induction path, name using memberAlong.induct pools with
  | case1 path name hreg =>
    rw [memberAlong_unregistered hreg] at h
    cases h
  | case2 path name pool hreg hmem =>
    rw [memberAlong_of_mem p aid hmem] at h
    cases h
  | case3 path name pool hreg hnew ih =>
    have hless := unvisited_cons_lt (Sorted.mem_keys_of_get? hreg) hnew
    rw [memberAlong_eq_admitsApart hstrat hpath hreg hnew] at h
    refine stage_mono (Nat.succ_le_of_lt hless) (stage_succ_iff.mpr ⟨pool, hreg, ?_⟩)
    exact Pool.admitsApart_mono
      (fun r hr n hn hfound => ih n (hpath.step (reaches_of_mention hreg hr hn)) hfound) h

theorem leads_nil (name : String) : Leads pools [] name := fun _ hq => absurd hq List.not_mem_nil

theorem member_of_stage (hstrat : Stratified pools) {k : Nat} {name : String}
    (h : stage pools (member pools p aid) p aid k name = true) : member pools p aid name = true :=
  memberAlong_of_stage hstrat (leads_nil name) (fun _ hq => absurd hq List.not_mem_nil) h

/-- Membership is what the stages have found after as many rounds as there are pools. -/
theorem member_eq_stage (hstrat : Stratified pools) :
    member pools p aid = stage pools (member pools p aid) p aid (unvisited pools []).length := by
  funext name
  rw [Bool.eq_iff_iff]
  exact ⟨stage_of_memberAlong hstrat (leads_nil name), member_of_stage hstrat⟩

/-! ## The equation of membership -/

/-- A registered pool has as members those whom one of its rules admits, every other pool being asked about on its
own. -/
theorem member_eq_admits (hstrat : Stratified pools) {name : String} {pool : Pool}
    (hreg : pools.get? name = some pool) :
    member pools p aid name = pool.admits (member pools p aid) p aid := by
  have hnext : stage pools (member pools p aid) p aid ((unvisited pools []).length + 1) name =
      pool.admits (member pools p aid) p aid := by
    rw [stage, hreg, Option.any_some, ← member_eq_stage hstrat, Pool.admitsApart_self]
  rw [← hnext, Bool.eq_iff_iff]
  constructor
  · intro h
    exact stage_succ_of_stage (stage_of_memberAlong hstrat (leads_nil name) h)
  · exact member_of_stage hstrat

/-- Nothing smaller solves the equation: membership lies within every family of pools that is closed under the
rules, the pools left out being answered as they are. -/
theorem member_of_closed (hstrat : Stratified pools) {f : String → Bool}
    (hclosed : ∀ name pool, pools.get? name = some pool →
      pool.admitsApart f (member pools p aid) p aid = true → f name = true)
    {name : String} (h : member pools p aid name = true) : f name = true := by
  have hstage : ∀ k n, stage pools (member pools p aid) p aid k n = true → f n = true := by
    intro k
    induction k with
    | zero => intro n hn; cases hn
    | succ k ih =>
      intro n hn
      obtain ⟨pool, hreg, hadm⟩ := stage_succ_iff.mp hn
      exact hclosed n pool hreg (Pool.admitsApart_mono (fun _ _ m _ hm => ih m hm) hadm)
  exact hstage _ name (stage_of_memberAlong hstrat (leads_nil name) h)

end

end RetreatDesk
