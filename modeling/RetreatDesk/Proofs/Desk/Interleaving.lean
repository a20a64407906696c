import RetreatDesk.Proofs.Desk.Reached

/-!
# Changes of several people

A change reads and writes the record of one person, so what becomes of a person is a matter of the changes that are
about the person, and of their order. Changes of other people may come in between as they like.

* `Participant.changedAll`, `Participant.answers`: one person under changes one after another, without a desk.
* `Desk.answers`: what a desk answers to changes one after another.
* `get?_updated`: what one change leaves under a key.
* `get?_updateAll`, `answers_about`: a run of changes as seen by one person.
* `run_splits`: a run is made of what the people see of it, and a rejected change has no part in it.
-/

namespace RetreatDesk

namespace Participant

/-! ## One person -/

/-- The person after a change, or as before if the change is rejected. -/
def changedOrKept (current : Option Participant) (c : Change) : Option Participant :=
  match changed current c with
  | .ok p => some p
  | .error _ => current

/-- The person after changes one after another. -/
def changedAll (current : Option Participant) (changes : List Change) : Option Participant :=
  changes.foldl changedOrKept current

/-- Changes one after another, each with its answer: the person as changed, or why the change is rejected. -/
def answers (current : Option Participant) : List Change → List (Change × Except DeskError Participant)
  | [] => []
  | c :: rest => (c, changed current c) :: answers (changedOrKept current c) rest

end Participant

/-- The changes of a list that are about one person. -/
def changesOf (id : String) (changes : List Change) : List Change := changes.filter (·.participantId = id)

/-- The answers to the changes that are about one person. -/
def answersOf {α : Type} (id : String) (answered : List (Change × α)) : List (Change × α) :=
  answered.filter (·.1.participantId = id)

namespace Desk

/-- What a desk answers to a change. -/
def answer (d : Desk) (c : Change) : Except DeskError Participant :=
  Participant.changed (d.people.get? c.participantId) c

/-- Changes one after another, each with what the desk answers. -/
def answers (d : Desk) : List Change → List (Change × Except DeskError Participant)
  | [] => []
  | c :: rest => (c, d.answer c) :: answers (d.updated c) rest

/-! ## One change -/

/-- A change leaves under the key of its person what it makes of that person, and what was there under any other. -/
theorem get?_updated (d : Desk) (c : Change) (id : String) : (d.updated c).people.get? id =
    if c.participantId = id then Participant.changedOrKept (d.people.get? id) c else d.people.get? id := by
  unfold Participant.changedOrKept
  cases hupdate : d.update c with
  | error problem =>
    have hchanged := update_eq_error.mp hupdate
    rw [updated_of_error hupdate]
    split
    · next hid =>
      subst hid
      rw [hchanged]
    · rfl
  | ok e =>
    obtain ⟨p, hchanged, rfl⟩ := update_eq_ok.mp hupdate
    rw [updated_of_ok hupdate]
    split
    · next hid =>
      subst hid
      rw [hchanged, Sorted.get?_insert_self]
    · next hid => rw [Sorted.get?_insert_of_ne _ (Ne.symm hid)]

/-! ## Runs -/

theorem updateAll_cons (d : Desk) (c : Change) (rest : List Change) :
    d.updateAll (c :: rest) = (d.updated c).updateAll rest := rfl

theorem updateAll_append (d : Desk) (before after : List Change) :
    d.updateAll (before ++ after) = (d.updateAll before).updateAll after := List.foldl_append

theorem answers_append (d : Desk) (before after : List Change) :
    d.answers (before ++ after) = d.answers before ++ (d.updateAll before).answers after := by
  induction before generalizing d with
  | nil => rfl
  | cons c rest ih => rw [List.cons_append, answers, ih, answers, updateAll_cons, List.cons_append]

/-- Changes touch nobody but people. -/
theorem updateAll_eq (d : Desk) (changes : List Change) :
    d.updateAll changes = { d with people := (d.updateAll changes).people } := by
  induction changes generalizing d with
  | nil => rfl
  | cons c rest ih =>
    rw [updateAll_cons, ih, updated_eq]

/-- What a run leaves under a key is what the changes of that person make of the person. -/
theorem get?_updateAll (d : Desk) (changes : List Change) (id : String) : (d.updateAll changes).people.get? id =
    Participant.changedAll (d.people.get? id) (changesOf id changes) := by
  induction changes generalizing d with
  | nil => rfl
  | cons c rest ih =>
    rw [updateAll_cons, ih, get?_updated, changesOf, changesOf, List.filter_cons]
    by_cases hid : c.participantId = id
    · rw [if_pos hid, if_pos (decide_eq_true hid)]
      rfl
    · rw [if_neg hid, if_neg (by simpa using hid)]

/-- The changes of a person are answered in a run as they are answered for that person alone. -/
theorem answers_about (d : Desk) (changes : List Change) (id : String) :
    answersOf id (d.answers changes) = Participant.answers (d.people.get? id) (changesOf id changes) := by
  induction changes generalizing d with
  | nil => rfl
  | cons c rest ih =>
    rw [answers, answersOf, changesOf, List.filter_cons, List.filter_cons]
    by_cases hid : c.participantId = id
    · have hnext : (d.updated c).people.get? id = Participant.changedOrKept (d.people.get? id) c := by
        rw [get?_updated, if_pos hid]
      have hanswer : d.answer c = Participant.changed (d.people.get? id) c := by rw [answer, hid]
      rw [if_pos (decide_eq_true hid), if_pos (decide_eq_true hid), Participant.answers, ← hnext, ← hanswer]
      exact congrArg _ (ih (d.updated c))
    · have hnext : (d.updated c).people.get? id = d.people.get? id := by rw [get?_updated, if_neg hid]
      rw [if_neg (by simpa using hid), if_neg (by simpa using hid), ← hnext]
      exact ih (d.updated c)

/-- Two runs in which everybody sees the same changes in the same order leave the same desk. -/
theorem updateAll_congr (d : Desk) {changes changes' : List Change}
    (h : ∀ id, changesOf id changes' = changesOf id changes) : d.updateAll changes' = d.updateAll changes := by
  have hpeople : (d.updateAll changes').people = (d.updateAll changes).people := by
    refine Sorted.ext_get? fun id => ?_
    rw [get?_updateAll, get?_updateAll, h id]
  rw [updateAll_eq d changes', updateAll_eq d changes, hpeople]

/-- In a run everybody fares as under the own changes alone, and these are answered alike. So the changes of different
people may be interleaved in any way, and a rejected change might as well not have come. -/
theorem run_splits (d : Desk) (changes : List Change) :
    (∀ id, (d.updateAll changes).people.get? id =
          Participant.changedAll (d.people.get? id) (changesOf id changes) ∧
        answersOf id (d.answers changes) = Participant.answers (d.people.get? id) (changesOf id changes)) ∧
    (∀ changes', (∀ id, changesOf id changes' = changesOf id changes) →
      d.updateAll changes' = d.updateAll changes ∧
        ∀ id, answersOf id (d.answers changes') = answersOf id (d.answers changes)) ∧
    ∀ before c after problem, changes = before ++ c :: after → (d.updateAll before).update c = .error problem →
      d.updateAll changes = d.updateAll (before ++ after) ∧
        d.answers changes = d.answers before ++ (c, .error problem) :: (d.updateAll before).answers after ∧
        d.answers (before ++ after) = d.answers before ++ (d.updateAll before).answers after := by
  refine ⟨fun id => ⟨get?_updateAll d changes id, answers_about d changes id⟩, fun changes' h => ?_, ?_⟩
  · refine ⟨updateAll_congr d h, fun id => ?_⟩
    rw [answers_about, answers_about, h id]
  · rintro before c after problem rfl hproblem
    have hstays := updated_of_error hproblem
    have hanswer : (d.updateAll before).answer c = .error problem := update_eq_error.mp hproblem
    refine ⟨?_, ?_, answers_append d before after⟩
    · rw [updateAll_append, updateAll_append, updateAll_cons, hstays]
    · rw [answers_append, answers, hstays, hanswer]

/-- Two people, one of them new, whose changes come in turn. -/
def inTurn : List Change :=
  [⟨"p-001", [("first", .text "Ada")]⟩, ⟨"p-002", [("programs", .text "closed")]⟩,
    ⟨"p-001", [("first", .text "Augusta")]⟩, ⟨"p-002", [("first", .text "Barbara")]⟩]

/-- The same changes, those of the one after those of the other. -/
def inBlocks : List Change :=
  [⟨"p-002", [("programs", .text "closed")]⟩, ⟨"p-002", [("first", .text "Barbara")]⟩,
    ⟨"p-001", [("first", .text "Ada")]⟩, ⟨"p-001", [("first", .text "Augusta")]⟩]

/-- Both lists leave the same desk, and so does the first one without the change that is rejected. -/
theorem run_splits_inTurn :
    (∀ id, changesOf id inBlocks = changesOf id inTurn) ∧
      (ofSnapshot { participants := [{ id := "p-001" }] }).updateAll inBlocks =
        (ofSnapshot { participants := [{ id := "p-001" }] }).updateAll inTurn ∧
      (ofSnapshot { participants := [{ id := "p-001" }] }).updateAll inTurn =
        (ofSnapshot { participants := [{ id := "p-001" }] }).updateAll
          ([⟨"p-001", [("first", .text "Ada")]⟩] ++
            [⟨"p-001", [("first", .text "Augusta")]⟩, ⟨"p-002", [("first", .text "Barbara")]⟩]) := by
  have hsame : ∀ id, changesOf id inBlocks = changesOf id inTurn := by
    intro id
    by_cases h : "p-001" = id
    · subst h
      rfl
    · by_cases h' : "p-002" = id
      · subst h'
        rfl
      · simp [changesOf, inBlocks, inTurn, h, h']
  obtain ⟨-, hshuffle, hrejected⟩ := run_splits (ofSnapshot { participants := [{ id := "p-001" }] }) inTurn
  exact ⟨hsame, (hshuffle inBlocks hsame).1, (hrejected _ _ _ _ rfl rfl).1⟩

end Desk

end RetreatDesk
