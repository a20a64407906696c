import RetreatDesk.Registry.Participant
import RetreatDesk.Registry.Pool

/-!
# Membership in pools

* `PoolRule.holds`: whether a rule holds, given the answers to questions about other pools.
* `memberAlong`: membership found along a path of pools; a pool met again on its own path admits nobody.
* `member`: membership in a pool.
* `memberAlong_registered`: the defining equation of membership for a registered pool off the path.
-/

namespace RetreatDesk

/-- A booking for a sub-event in a program, if there is a program. -/
def offeringMade (program : Option Program) (subEvent : String) : Bool :=
  program.any (·.hasOffering subEvent)

/-- Whether a rule holds for a person while `aid` is the current event. `isMember` answers the questions about
other pools. -/
def PoolRule.holds (isMember : String → Bool) (p : Participant) (aid : String) : PoolRule → Bool
  | .everyone => true
  | .pool name => isMember name
  | .difference inPool outPool => isMember inPool && !isMember outPool
  | .both pool₁ pool₂ => isMember pool₁ && isMember pool₂
  | .practice field => p.practises field
  | .offering aid subEvent => offeringMade (p.program? aid) subEvent
  | .currentOffering subEvent =>
    (p.program? aid).any fun r => (r.offering? subEvent).any Offering.booked && !r.withdrawn
  | .currentTest => (p.program? aid).any (·.test)
  | .currentNotOffering subEvent => !offeringMade (p.program? aid) subEvent
  | .offeringAndPools aid subEvent pools => offeringMade (p.program? aid) subEvent && pools.any isMember
  | .oath aid => (p.program? aid).any (·.oath)
  | .attended aid => (p.program? aid).any (·.attended)
  | .join aid => (p.program? aid).any (·.join)
  | .currentJoin => (p.program? aid).any (·.join)
  | .currentManualInclude => (p.program? aid).any (·.manualInclude)
  | .currentAccepted => (p.program? aid).any fun r => r.accepted && !r.withdrawn
  | .currentNotJoin => !(p.program? aid).any (·.join)
  | .joinWhich aid retreat => (p.program? aid).any fun r => r.active && r.pickedFrom retreat
  | .offeringWhich aid retreat subEvent =>
    (p.program? aid).any fun r => r.active && r.pickedFrom retreat && r.hasOfferingFrom subEvent
  | .eligible => (p.program? aid).any (·.eligible)
  | .unknown => false

/-- Whether a person meets one of the rules of a pool. -/
def Pool.admits (isMember : String → Bool) (p : Participant) (aid : String) (pool : Pool) : Bool :=
  pool.rules.any (·.holds isMember p aid)

/-- The registered pools that are not on a path. -/
def unvisited (pools : Sorted Pool) (path : List String) : List String :=
  pools.keys.filter (· ∉ path)

/-- A name with a value is one of the names. -/
theorem Sorted.mem_keys_of_get? {α : Type} {m : Sorted α} {k : String} {v : α} (h : m.get? k = some v) :
    k ∈ m.keys := by
  obtain ⟨entries, _⟩ := m
  simp only [Sorted.get?] at h
  simp only [Sorted.keys]
  induction entries with
  | nil => simp at h
  | cons e rest ih =>
    obtain ⟨k', v'⟩ := e
    by_cases hk : k = k'
    · simp [hk]
    · have hb : (k == k') = false := beq_eq_false_iff_ne.mpr hk
      rw [List.lookup_cons, hb] at h
      exact List.mem_cons_of_mem _ (ih (by simp_all [List.pairwise_cons, Increasing]) h)

/-- Going on to a registered pool off the path leaves fewer pools to visit. -/
theorem unvisited_cons_lt {pools : Sorted Pool} {path : List String} {name : String}
    (hreg : name ∈ pools.keys) (hnew : name ∉ path) :
    (unvisited pools (name :: path)).length < (unvisited pools path).length := by
  have hsub : unvisited pools (name :: path) = (unvisited pools path).filter (· ≠ name) := by
    simp only [unvisited, List.filter_filter]
    congr 1
    funext k
    simp [List.mem_cons, not_or]
  rw [hsub]
  refine List.length_filter_lt_length_iff_exists.mpr ⟨name, ?_, by simp⟩
  simp [unvisited, hreg, hnew]

/-- Membership in a pool that is reached along a path of pools. -/
def memberAlong (pools : Sorted Pool) (p : Participant) (aid : String) (path : List String) (name : String) :
    Bool :=
  match _h : pools.get? name with
  | none => false
  | some pool =>
    if _hnew : name ∈ path then false
    else pool.admits (fun other => memberAlong pools p aid (name :: path) other) p aid
termination_by (unvisited pools path).length
decreasing_by exact unvisited_cons_lt (Sorted.mem_keys_of_get? _h) _hnew

/-- Whether a person belongs to a pool while `aid` is the current event. -/
def member (pools : Sorted Pool) (p : Participant) (aid : String) (name : String) : Bool :=
  memberAlong pools p aid [] name

theorem memberAlong_unregistered {pools : Sorted Pool} {name : String} (h : pools.get? name = none)
    (p : Participant) (aid : String) (path : List String) : memberAlong pools p aid path name = false := by
  rw [memberAlong]
  split
  · rfl
  · next h' => simp [h] at h'

theorem memberAlong_registered {pools : Sorted Pool} {name : String} {pool : Pool}
    (h : pools.get? name = some pool) {path : List String} (hnew : name ∉ path) (p : Participant) (aid : String) :
    memberAlong pools p aid path name = pool.admits (memberAlong pools p aid (name :: path)) p aid := by
  rw [memberAlong]
  split
  · next h' => simp [h] at h'
  · next pool' h' =>
    rw [h] at h'
    cases h'
    simp [hnew]

end RetreatDesk
