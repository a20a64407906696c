import RetreatDesk.Proofs.Pool.Reference
import Mathlib.Data.Finset.Dedup
import Mathlib.Data.Finset.Basic

/-!
# Resolving pools with one set for all questions

Whether a person belongs to a pool can be found out with a single set of the pools that are being resolved, which all
questions share: a pool is put into it before its rules are asked and taken out of it afterwards.

* `PoolRule.ask`: a rule asks its questions one after another, and no more of them than it has to.
* `resolve`: a question about a pool, with the shared set and a bound on how deep questions may be nested.
* `Settles`: a question gets its answer and leaves the shared set as it was.
* `resolve_settles`: what one question does, by induction on how deep it is nested.
* `resolve_answers`: the shared set is as good as handing every question the path that leads to it.
-/

namespace RetreatDesk

/-! ## Questions -/

/-- Whether a rule holds for a person while `aid` is the current event. The questions about other pools are asked in
order, and the rest of them is left out once the answer is known. -/
def PoolRule.ask {m : Type → Type} [Monad m] (isMember : String → m Bool) (p : Participant) (aid : String) :
    PoolRule → m Bool
  | .pool name => isMember name
  | .difference inPool outPool => do
    if ← isMember inPool then
      let out ← isMember outPool
      return !out
    else return false
  | .both pool₁ pool₂ => do
    if ← isMember pool₁ then isMember pool₂ else return false
  | .offeringAndPools event subEvent pools =>
    if offeringMade (p.program? event) subEvent then pools.anyM isMember else return false
  | r => return r.holds (fun _ => false) p aid

/-- Whether one of some rules holds, asked in order up to the first one that does. -/
def askRules {m : Type → Type} [Monad m] (isMember : String → m Bool) (p : Participant) (aid : String)
    (rules : List PoolRule) : m Bool := rules.anyM (·.ask isMember p aid)

/-- What is kept while pools are being resolved. -/
structure Resolution where
  /-- The pools that are being resolved. -/
  resolving : Finset String
  /-- For each question that came past the guard, the pools entered on the way to it, the last one first. No question
  looks at this record. -/
  chains : List (List String)

/-- A question that may change the shared set and may be nested too deep. -/
abbrev Resolving := StateT Resolution Option

/-- Whether a person belongs to a pool. No more than `depth` questions may be nested, this one included; `chain` has the
pools entered on the way here. -/
def resolve (pools : Sorted Pool) (p : Participant) (aid : String) : Nat → List String → String → Resolving Bool
  | 0, _, _ => failure
  | depth + 1, chain, name =>
    match pools.get? name with
    | none => return false
    | some pool => do
      let s ← get
      if name ∈ s.resolving then return false
      else
        set (⟨insert name s.resolving, s.chains ++ [name :: chain]⟩ : Resolution)
        let answer ← askRules (resolve pools p aid depth (name :: chain)) p aid pool.rules
        modify fun s => { s with resolving := s.resolving.erase name }
        return answer

/-! ## Questions that leave the shared set as it was -/

/-- Asked while the pools in `R` are being resolved, the question gets the answer and leaves the set as it was. The
chains of pools entered meanwhile all have a property. -/
def Settles (R : Finset String) (Entered : List String → Prop) (question : Resolving Bool) (answer : Bool) : Prop :=
  ∀ chains, ∃ more, question.run ⟨R, chains⟩ = some (answer, ⟨R, chains ++ more⟩) ∧ ∀ chain ∈ more, Entered chain

namespace Settles

variable {R : Finset String} {Entered : List String → Prop}

theorem pure (answer : Bool) : Settles R Entered (pure answer) answer :=
  fun chains => ⟨[], by rw [List.append_nil]; rfl, fun _ h => absurd h List.not_mem_nil⟩

theorem bind {first : Resolving Bool} {next : Bool → Resolving Bool} {a b : Bool} (hfirst : Settles R Entered first a)
    (hnext : Settles R Entered (next a) b) : Settles R Entered (first >>= next) b := by
  intro chains
  obtain ⟨entered, hrun, hentered⟩ := hfirst chains
  obtain ⟨more, hrun', hmore⟩ := hnext (chains ++ entered)
  refine ⟨entered ++ more, ?_, fun chain h => ?_⟩
  · rw [StateT.run_bind, hrun, ← List.append_assoc]
    exact hrun'
  · exact (List.mem_append.mp h).elim (hentered chain) (hmore chain)

/-- Asked one after another up to the first one answered with yes, the questions have the answers that each of them has
on its own. -/
theorem anyM {α : Type} {l : List α} {ask : α → Resolving Bool} {holds : α → Bool}
    (h : ∀ a ∈ l, Settles R Entered (ask a) (holds a)) : Settles R Entered (l.anyM ask) (l.any holds) := by
  induction l with
  | nil => exact pure false
  | cons a rest ih =>
    obtain ⟨hfirst, hrest⟩ := List.forall_mem_cons.mp h
    refine bind hfirst ?_
    cases ha : holds a with
    | true =>
      rw [List.any_cons, ha]
      exact pure true
    | false =>
      rw [List.any_cons, ha, Bool.false_or]
      exact ih hrest

/-- A rule whose questions are settled is settled, however many of them it leaves out. -/
theorem ask {question : String → Resolving Bool} {isMember : String → Bool}
    (h : ∀ name, Settles R Entered (question name) (isMember name)) (p : Participant) (aid : String) (r : PoolRule) :
    Settles R Entered (r.ask question p aid) (r.holds isMember p aid) := by
  cases r with
  | pool name => exact h name
  | difference inPool outPool =>
    refine bind (h inPool) ?_
    rw [PoolRule.holds]
    cases isMember inPool with
    | true => exact bind (h outPool) (pure _)
    | false => exact pure false
  | both pool₁ pool₂ =>
    refine bind (h pool₁) ?_
    rw [PoolRule.holds]
    cases isMember pool₁ with
    | true => exact h pool₂
    | false => exact pure false
  | offeringAndPools event subEvent pools =>
    rw [PoolRule.ask, PoolRule.holds]
    cases offeringMade (p.program? event) subEvent with
    | true => exact anyM fun name _ => h name
    | false => exact pure false
  | _ => exact pure _

end Settles

/-! ## One question -/

/-- Registered pools that are none of `R`, each once, put in front of the chain so far. -/
def Fresh (pools : Sorted Pool) (R : Finset String) (chain entered : List String) : Prop :=
  ∃ names, entered = names ++ chain ∧ names.Nodup ∧ ∀ n ∈ names, n ∈ pools.keys ∧ n ∉ R

section
variable {pools : Sorted Pool} {R : Finset String} {name : String} {chain : List String}

theorem Fresh.singleton (hreg : name ∈ pools.keys) (hnew : name ∉ R) : Fresh pools R chain (name :: chain) :=
  ⟨[name], rfl, List.nodup_singleton name, by simpa using ⟨hreg, hnew⟩⟩

/-- What is fresh behind a pool that was entered is fresh together with it. -/
theorem Fresh.enter (hreg : name ∈ pools.keys) (hnew : name ∉ R) {entered : List String}
    (h : Fresh pools (insert name R) (name :: chain) entered) : Fresh pools R chain entered := by
  obtain ⟨names, rfl, hnodup, hnames⟩ := h
  refine ⟨names ++ [name], by simp, ?_, fun n hn => ?_⟩
  · refine hnodup.append (List.nodup_singleton name) fun n hn hname => ?_
    exact (hnames n hn).2 (List.mem_singleton.mp hname ▸ Finset.mem_insert_self name R)
  · rcases List.mem_append.mp hn with hn | hn
    · exact ⟨(hnames n hn).1, fun hR => (hnames n hn).2 (Finset.mem_insert_of_mem hR)⟩
    · exact List.mem_singleton.mp hn ▸ ⟨hreg, hnew⟩

/-- The number of registered pools that are not being resolved. -/
def unresolved (pools : Sorted Pool) (R : Finset String) : Nat := (pools.keys.filter (· ∉ R)).length

theorem unresolved_eq {path : List String} (h : ∀ n, n ∈ path ↔ n ∈ R) :
    unresolved pools R = (unvisited pools path).length := by
  simp only [unresolved, unvisited, h]

theorem unresolved_insert_lt (hreg : name ∈ pools.keys) (hnew : name ∉ R) :
    unresolved pools (insert name R) < unresolved pools R := by
  have hwith : unresolved pools (insert name R) = (unvisited pools (name :: R.toList)).length := unresolved_eq (by simp)
  have hwithout : unresolved pools R = (unvisited pools R.toList).length := unresolved_eq fun _ => Finset.mem_toList
  rw [hwith, hwithout]
  exact unvisited_cons_lt hreg fun h => hnew (Finset.mem_toList.mp h)

variable (p : Participant) (aid : String)

theorem memberAlong_toList_insert (other : String) :
    memberAlong pools p aid (insert name R).toList other = memberAlong pools p aid (name :: R.toList) other :=
  memberAlong_congr_mem p aid (by simp) other

theorem settles_unregistered (hreg : pools.get? name = none) (depth : Nat) (Entered : List String → Prop) :
    Settles R Entered (resolve pools p aid (depth + 1) chain name) false := by
  rw [resolve, hreg]
  exact .pure false

theorem settles_of_mem {pool : Pool} (hreg : pools.get? name = some pool) (hmem : name ∈ R) (depth : Nat)
    (Entered : List String → Prop) : Settles R Entered (resolve pools p aid (depth + 1) chain name) false := by
  intro chains
  refine ⟨[], ?_, fun _ h => absurd h List.not_mem_nil⟩
  simp [resolve, hreg, hmem]

/-- A pool that comes past the guard is taken out of the set again after its rules, whatever they answer. -/
theorem settles_of_not_mem {pool : Pool} (hreg : pools.get? name = some pool) (hnew : name ∉ R) {depth : Nat}
    {answer : Bool} (hrules : Settles (insert name R) (Fresh pools (insert name R) (name :: chain))
      (askRules (resolve pools p aid depth (name :: chain)) p aid pool.rules) answer) :
    Settles R (Fresh pools R chain) (resolve pools p aid (depth + 1) chain name) answer := by
  have hkey : name ∈ pools.keys := Sorted.mem_keys_of_get? hreg
  intro chains
  obtain ⟨more, hrun, hmore⟩ := hrules (chains ++ [name :: chain])
  refine ⟨(name :: chain) :: more, ?_, fun entered h => ?_⟩
  · simp [resolve, hreg, hnew, hrun]
  · rcases List.mem_cons.mp h with rfl | h
    · exact .singleton hkey hnew
    · exact (hmore entered h).enter hkey hnew

/-- A question is settled with the answer found along a path of the pools that are being resolved, provided it may be
nested deeper than there are pools left. The induction is on how deep it may be nested. -/
theorem resolve_settles {depth : Nat} (hdepth : unresolved pools R < depth) (chain : List String) (name : String) :
    Settles R (Fresh pools R chain) (resolve pools p aid depth chain name) (memberAlong pools p aid R.toList name) := by
  induction depth generalizing R chain name with
  | zero => exact absurd hdepth (Nat.not_lt_zero _)
  | succ depth ih =>
    cases hreg : pools.get? name with
    | none =>
      rw [memberAlong_unregistered hreg]
      exact settles_unregistered p aid hreg depth _
    | some pool =>
      by_cases hmem : name ∈ R
      · rw [memberAlong_of_mem p aid (Finset.mem_toList.mpr hmem)]
        exact settles_of_mem p aid hreg hmem depth _
      · have hless : unresolved pools (insert name R) < depth :=
          Nat.lt_of_lt_of_le (unresolved_insert_lt (Sorted.mem_keys_of_get? hreg) hmem) (Nat.le_of_lt_succ hdepth)
        rw [memberAlong_registered hreg fun h => hmem (Finset.mem_toList.mp h)]
        refine settles_of_not_mem p aid hreg hmem (.anyM fun r _ => .ask (fun other => ?_) p aid r)
        rw [← memberAlong_toList_insert]
        exact ih hless (name :: chain) other

/-- Distinct registered pools that are none of `R` are no more than there are. -/
theorem length_le_unresolved {names : List String} (hnodup : names.Nodup)
    (hnames : ∀ n ∈ names, n ∈ pools.keys ∧ n ∉ R) : names.length ≤ unresolved pools R := by
  refine (hnodup.subperm fun n hn => ?_).length_le
  simpa using hnames n hn

/-- Asked while the pools in `R` are being resolved, a question about a pool has the answer that is found when each
question is handed the pools that lead to it, and the set is `R` again in the end. The pools entered on the way to any
question are registered, distinct and none of `R`, so questions are never nested deeper than there are such pools and
one. Of the rules of a pool that is entered, every one is asked with the same set, so it has the answer that it has
on its own, whatever rules were asked before. -/
theorem resolve_answers (pools : Sorted Pool) (p : Participant) (aid : String) (R : Finset String) (name : String)
    (spare : Nat) :
    (∃ chains, (resolve pools p aid (unresolved pools R + 1 + spare) [] name).run ⟨R, []⟩ =
        some (memberAlong pools p aid R.toList name, ⟨R, chains⟩) ∧
      ∀ chain ∈ chains, chain.Nodup ∧ (∀ n ∈ chain, n ∈ pools.keys ∧ n ∉ R) ∧
        chain.length ≤ unresolved pools R) ∧
    ∀ pool, pools.get? name = some pool → name ∉ R → ∀ (rules : List PoolRule) (before : List (List String)),
      ∃ after, (askRules (resolve pools p aid (unresolved pools R + spare) [name]) p aid rules).run
          ⟨insert name R, before⟩ =
        some (rules.any (·.holds (memberAlong pools p aid (name :: R.toList)) p aid), ⟨insert name R, after⟩) := by
  refine ⟨?_, fun pool hreg hnew rules before => ?_⟩
  · have hdepth : unresolved pools R < unresolved pools R + 1 + spare := by omega
    obtain ⟨chains, hrun, hchains⟩ := resolve_settles p aid hdepth [] name []
    refine ⟨chains, hrun, fun chain h => ?_⟩
    obtain ⟨names, hnames, hnodup, hfresh⟩ := hchains chain h
    rw [List.append_nil] at hnames
    subst hnames
    exact ⟨hnodup, hfresh, length_le_unresolved hnodup hfresh⟩
  · have hdepth : unresolved pools (insert name R) < unresolved pools R + spare :=
      Nat.lt_of_lt_of_le (unresolved_insert_lt (Sorted.mem_keys_of_get? hreg) hnew) (Nat.le_add_right _ _)
    have hrules : Settles (insert name R) (Fresh pools (insert name R) [name])
        (askRules (resolve pools p aid (unresolved pools R + spare) [name]) p aid rules)
        (rules.any (·.holds (memberAlong pools p aid (name :: R.toList)) p aid)) := by
      refine .anyM fun r _ => .ask (fun other => ?_) p aid r
      rw [← memberAlong_toList_insert]
      exact resolve_settles p aid hdepth [name] other
    obtain ⟨more, hrun, -⟩ := hrules before
    exact ⟨_, hrun⟩

/-- Two pools that take each other's members, the one of them open to everyone besides. -/
def neighbours : Sorted Pool := .ofList
  [("guests", { name := "guests", rules := [.both "helpers" "guests", .pool "helpers", .everyone] }),
   ("helpers", { name := "helpers", rules := [.pool "guests", .pool "strangers"] })]

/-- The question about the helpers is asked twice for the first two rules of the guests and comes back to the guests
each time. It leaves no trace, so the last rule still lets everybody in, and a fourth level of questions is not
needed. -/
theorem resolve_answers_neighbours :
    (resolve neighbours {} "aid" 3 [] "guests").run ⟨{"strangers"}, []⟩ =
        some (true, ⟨{"strangers"}, [["guests"], ["helpers", "guests"], ["helpers", "guests"]]⟩) ∧
      memberAlong neighbours {} "aid" ({"strangers"} : Finset String).toList "guests" = true := by
  obtain ⟨⟨chains, hrun, -⟩, -⟩ := resolve_answers neighbours {} "aid" {"strangers"} "guests" 0
  have hthree : (resolve neighbours {} "aid" 3 [] "guests").run ⟨{"strangers"}, []⟩ =
      some (true, ⟨{"strangers"}, [["guests"], ["helpers", "guests"], ["helpers", "guests"]]⟩) := rfl
  have hsame := hrun.symm.trans hthree
  exact ⟨hthree, by injection hsame with h; exact congrArg Prod.fst h⟩

end

end RetreatDesk
