import RetreatDesk.Proofs.Keyed.Entries
import RetreatDesk.Proofs.Pool.Reference

/-!
# What membership goes by

The rules of pools look at what a person practises and, in a program, at eight flags, at the picks and at the articles
that were booked. Names, addresses, languages, payments and all fields without a meaning have no part in membership.

* `Participant.standing`: a person with nothing left but what rules look at.
* `PoolRule.holds_standing`: no rule tells the difference.
* `member_standing`: nor does any pool.
-/

namespace RetreatDesk

/-! ## Programs -/

/-- The article alone. -/
def Offering.standing (o : Offering) : Offering := { sku := o.sku }

namespace Program

/-- The program with nothing left but what rules look at. -/
def standing (r : Program) : Program :=
  { join := r.join, accepted := r.accepted, withdrawn := r.withdrawn, attended := r.attended, oath := r.oath
    eligible := r.eligible, manualInclude := r.manualInclude, test := r.test
    whichRetreats := r.whichRetreats
    offeringHistory := r.offeringHistory.map Offering.standing }

theorem offering?_standing (r : Program) (subEvent : String) :
    r.standing.offering? subEvent = (r.offering? subEvent).map Offering.standing := Sorted.get?_map _ _ _

theorem any_offering?_standing (r : Program) (subEvent : String) :
    (r.standing.offering? subEvent).any Offering.booked = (r.offering? subEvent).any Offering.booked := by
  rw [offering?_standing]
  cases r.offering? subEvent with
  | none => rfl
  | some o => rfl

theorem hasOffering_standing (r : Program) (subEvent : String) :
    r.standing.hasOffering subEvent = r.hasOffering subEvent := by
  have hvalues : r.standing.offeringHistory.values = r.offeringHistory.values.map Offering.standing :=
    Sorted.values_map _ _
  rw [hasOffering, hasOffering, any_offering?_standing, hvalues, List.any_map]
  rfl

theorem hasOfferingFrom_standing (r : Program) (start : String) :
    r.standing.hasOfferingFrom start = r.hasOfferingFrom start := by
  change (List.map _ _).any _ = _
  rw [List.any_map]
  rfl

end Program

/-! ## People -/

/-- The person with nothing left but the key and what rules look at. -/
def Participant.standing (p : Participant) : Participant :=
  { id := p.id, programs := p.programs.map Program.standing, practice := p.practice }

section
variable (p : Participant) (aid : String)

theorem Participant.program?_standing : p.standing.program? aid = (p.program? aid).map Program.standing :=
  Sorted.get?_map _ _ _

theorem Participant.any_program?_standing {asked : Program → Bool} (h : ∀ r : Program, asked r.standing = asked r) :
    (p.standing.program? aid).any asked = (p.program? aid).any asked := by
  rw [program?_standing]
  cases p.program? aid with
  | none => rfl
  | some r => exact h r

theorem offeringMade_standing (subEvent : String) :
    offeringMade (p.standing.program? aid) subEvent = offeringMade (p.program? aid) subEvent :=
  p.any_program?_standing aid fun r => r.hasOffering_standing subEvent

theorem PoolRule.holds_standing (rule : PoolRule) (isMember : String → Bool) :
    rule.holds isMember p.standing aid = rule.holds isMember p aid := by
  cases rule with
  | offering event subEvent => exact offeringMade_standing p event subEvent
  | currentNotOffering subEvent => exact congrArg (!·) (offeringMade_standing p aid subEvent)
  | offeringAndPools event subEvent pools => rw [holds, holds, offeringMade_standing]
  | currentOffering subEvent =>
    refine p.any_program?_standing aid fun r => ?_
    rw [r.any_offering?_standing]
    rfl
  | offeringWhich event retreat subEvent =>
    refine p.any_program?_standing event fun r => ?_
    rw [r.hasOfferingFrom_standing]
    rfl
  | oath event | attended event | join event => exact p.any_program?_standing event fun _ => rfl
  | joinWhich event retreat => exact p.any_program?_standing event fun _ => rfl
  | currentTest | currentJoin | currentManualInclude | currentAccepted | eligible =>
    exact p.any_program?_standing aid fun _ => rfl
  | currentNotJoin => exact congrArg (!·) (p.any_program?_standing aid fun _ => rfl)
  | everyone | pool _ | difference _ _ | both _ _ | practice _ | unknown => rfl

theorem memberAlong_standing {pools : Sorted Pool} (path : List String) (name : String) :
    memberAlong pools p.standing aid path name = memberAlong pools p aid path name := by
  -- The walk itself depends on the pools alone, so both sides take the same steps.
  induction path, name using memberAlong.induct pools with
  | case1 path name hreg => rw [memberAlong_unregistered hreg, memberAlong_unregistered hreg]
  | case2 path name pool hreg hmem => rw [memberAlong_of_mem _ aid hmem, memberAlong_of_mem p aid hmem]
  | case3 path name pool hreg hnew ih =>
    rw [memberAlong_registered hreg hnew, memberAlong_registered hreg hnew]
    refine any_congr_of_mem fun rule _ => ?_
    rw [rule.holds_standing]
    exact PoolRule.holds_congr (fun n _ => ih n) p aid

theorem member_standing (pools : Sorted Pool) (name : String) :
    member pools p.standing aid name = member pools p aid name := memberAlong_standing p aid [] name

end

end RetreatDesk
