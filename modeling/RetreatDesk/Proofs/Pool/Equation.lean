import RetreatDesk.Proofs.Keyed.Entries
import RetreatDesk.Proofs.Pool.Stage
import Mathlib.Order.Bounds.Defs
import Mathlib.Data.Set.Defs
import Mathlib.Order.Lattice

/-!
# The equation of membership

Membership is found along paths, and a pool met again on its own path admits nobody. These theorems say what is
found without speaking of paths.

* `member_iff_rule_holds`: in a stratified registry the people in a pool are those whom one of its rules admits, every
  question about another pool being answered on its own.
* `member_isLeast_of_positive`: when no pool is left out anywhere, membership is the least solution of that equation.
* `stratified_of_levels`: a registry is stratified when its pools can be put on levels.
-/

namespace RetreatDesk

section
variable {pools : Sorted Pool}

/-! ## Stratified registries -/

/-- A registry is stratified when every pool has a level, none below the pools it mentions and all above those it
leaves out. -/
theorem stratified_of_levels (level : String → Nat)
    (h : ∀ e ∈ pools.entries, ∀ r ∈ e.2.rules,
      (∀ n ∈ r.mentions, level n ≤ level e.1) ∧ ∀ o ∈ r.leavesOut, level o < level e.1) :
    Stratified pools := by
  have hreach : ∀ a b, Reaches pools a b → level b ≤ level a := by
    intro a b hab
    induction hab with
    | refl => exact Nat.le_refl _
    | tail _ hrefers ih =>
      obtain ⟨pool, hreg, r, hr, hn⟩ := hrefers
      exact Nat.le_trans ((h _ (mem_of_lookup hreg) r hr).1 _ hn) ih
  intro name pool hreg r hr o ho hback
  have hbelow : level o < level name := (h _ (mem_of_lookup hreg) r hr).2 o ho
  exact absurd (hreach o name hback) (Nat.not_le_of_lt hbelow)

/-- No rule of the registry leaves out a pool. -/
def Positive (pools : Sorted Pool) : Prop :=
  ∀ pool ∈ pools.values, ∀ r ∈ pool.rules, r.leavesOut = none

instance : Decidable (Positive pools) :=
  inferInstanceAs (Decidable (∀ pool ∈ pools.values, ∀ r ∈ pool.rules, r.leavesOut = none))

theorem Positive.leavesOut_eq_none (hpos : Positive pools) {name : String} {pool : Pool}
    (hreg : pools.get? name = some pool) {r : PoolRule} (hr : r ∈ pool.rules) : r.leavesOut = none :=
  hpos pool (List.mem_map.mpr ⟨(name, pool), mem_of_lookup hreg, rfl⟩) r hr

theorem Positive.stratified (hpos : Positive pools) : Stratified pools := by
  intro name pool hreg r hr o ho
  rw [hpos.leavesOut_eq_none hreg hr] at ho
  cases ho

/-- In a stratified registry a registered pool has as members those for whom one of its rules holds, with every
question about another pool answered by membership in that pool. -/
theorem member_iff_rule_holds (hstrat : Stratified pools) (p : Participant) (aid : String) (name : String)
    (pool : Pool) (hreg : pools.get? name = some pool) :
    member pools p aid name = true ↔ ∃ r ∈ pool.rules, r.holds (member pools p aid) p aid = true := by
  rw [member_eq_admits hstrat hreg, Pool.admits, List.any_eq_true]

/-- Two pools that take each other's members, one of them less the staff. -/
def borrowers : Sorted Pool := .ofList
  [("guests", { name := "guests", rules := [.difference "helpers" "staff"] }),
   ("helpers", { name := "helpers", rules := [.pool "guests", .practice "cooking"] }),
   ("staff", { name := "staff", rules := [.practice "teaching"] })]

/-- Somebody who practises one thing. -/
def practising (field : String) : Participant := { practice := .ofList [(field, .bool true)] }

theorem member_iff_rule_holds_borrowers :
    Stratified borrowers ∧
      borrowers.get? "guests" = some { name := "guests", rules := [.difference "helpers" "staff"] } ∧
      (member borrowers (practising "cooking") "aid" "guests" = true ↔
        ∃ r ∈ [PoolRule.difference "helpers" "staff"],
          r.holds (member borrowers (practising "cooking") "aid") (practising "cooking") "aid" = true) := by
  have hstrat : Stratified borrowers := stratified_of_levels (fun n => if n = "staff" then 0 else 1) (by decide)
  exact ⟨hstrat, rfl, member_iff_rule_holds hstrat (practising "cooking") "aid" "guests" _ rfl⟩

/-! ## The least solution -/

open Classical in
/-- A registered pool has a rule that holds when membership in the other pools is read off a set of pools. -/
def Justified (pools : Sorted Pool) (p : Participant) (aid : String) (X : Set String) (name : String) : Prop :=
  ∃ pool, pools.get? name = some pool ∧ ∃ r ∈ pool.rules, r.holds (fun n => decide (n ∈ X)) p aid = true

open Classical in
/-- Justification by a set, in terms of the answers that the set gives. -/
theorem justified_iff {p : Participant} {aid : String} {X : Set String} {f : String → Bool}
    (hf : ∀ n, n ∈ X ↔ f n = true) {name : String} :
    Justified pools p aid X name ↔ ∃ pool, pools.get? name = some pool ∧ pool.admits f p aid = true := by
  have hread : (fun n => decide (n ∈ X)) = f := by
    funext n
    rw [Bool.eq_iff_iff, decide_eq_true_iff, hf]
  simp only [Justified, hread, Pool.admits, List.any_eq_true]

theorem justified_members_iff (hpos : Positive pools) (p : Participant) (aid : String) (name : String) :
    Justified pools p aid {n | member pools p aid n = true} name ↔ member pools p aid name = true := by
  have hread : ∀ n, n ∈ {n | member pools p aid n = true} ↔ member pools p aid n = true := fun _ => Iff.rfl
  rw [justified_iff hread]
  constructor
  · rintro ⟨pool, hreg, hadm⟩
    rw [member_eq_admits hpos.stratified hreg]
    exact hadm
  · intro h
    cases hreg : pools.get? name with
    | none =>
      rw [member, memberAlong_unregistered hreg] at h
      cases h
    | some pool =>
      rw [member_eq_admits hpos.stratified hreg] at h
      exact ⟨pool, rfl, h⟩

open Classical in
/-- Where nothing is left out, every set of pools that is closed under the rules holds the pools that a person is
found to be in. -/
theorem mem_of_closed (hpos : Positive pools) {p : Participant} {aid : String} {X : Set String}
    (hclosed : ∀ n, Justified pools p aid X n → n ∈ X) {name : String} (h : member pools p aid name = true) :
    name ∈ X := by
  refine of_decide_eq_true (member_of_closed (f := fun n => decide (n ∈ X)) hpos.stratified ?_ h)
  intro n pool hreg hadm
  have hnone : ∀ r ∈ pool.rules, ∀ o, r.leavesOut = some o → member pools p aid o = decide (o ∈ X) := by
    intro r hr o ho
    rw [hpos.leavesOut_eq_none hreg hr] at ho
    cases ho
  rw [Pool.admitsApart_congr_out hnone, Pool.admitsApart_self] at hadm
  refine decide_eq_true (hclosed n ((justified_iff fun m => ?_).mpr ⟨pool, hreg, hadm⟩))
  rw [decide_eq_true_iff]

/-- Where nothing is left out, the pools that a person is in are the least set closed under the rules, and so the
least solution of the equation of membership, whatever circles the references run in. -/
theorem member_isLeast_of_positive (hpos : Positive pools) (p : Participant) (aid : String) :
    IsLeast {X : Set String | ∀ n, Justified pools p aid X n → n ∈ X} {n | member pools p aid n = true} ∧
      IsLeast {X : Set String | ∀ n, n ∈ X ↔ Justified pools p aid X n} {n | member pools p aid n = true} := by
  have hsolves := justified_members_iff hpos p aid
  refine ⟨⟨fun n hn => (hsolves n).mp hn, ?_⟩, ⟨fun n => (hsolves n).symm, ?_⟩⟩
  · intro X hclosed n hn
    exact mem_of_closed hpos hclosed hn
  · intro X hX n hn
    exact mem_of_closed hpos (fun m hm => (hX m).mpr hm) hn

/-- Two pools that stand for each other, and one that asks for both. -/
def circle : Sorted Pool := .ofList
  [("left", { name := "left", rules := [.pool "right", .practice "sitting"] }),
   ("middle", { name := "middle", rules := [.both "left" "right", .offeringAndPools "aid" "any" ["middle"]] }),
   ("right", { name := "right", rules := [.pool "left"] })]

theorem member_isLeast_of_positive_circle :
    Positive circle ∧
      IsLeast {X : Set String | ∀ n, Justified circle (practising "sitting") "aid" X n → n ∈ X}
        {n | member circle (practising "sitting") "aid" n = true} ∧
      IsLeast {X : Set String | ∀ n, n ∈ X ↔ Justified circle (practising "sitting") "aid" X n}
        {n | member circle (practising "sitting") "aid" n = true} :=
  ⟨by decide, member_isLeast_of_positive (by decide) (practising "sitting") "aid"⟩

end

end RetreatDesk
