import RetreatDesk.Text.Blank
import Mathlib.Data.List.TakeWhile

/-!
# What is left of a text without the white space around it

* `Text.Tidy`: a text with no white space at either end.
* `Text.IsCore`: what stands in a text between the white space at its ends.
* `Text.trim_eq_iff`: that is what trimming leaves.
-/

namespace RetreatDesk.Text

/-- No white space at either end. -/
def Tidy (s : String) : Prop :=
  (∀ c ∈ s.toList.head?, isBlank c = false) ∧ ∀ c ∈ s.toList.getLast?, isBlank c = false

/-- What stands in a text between the white space at its ends. -/
structure IsCore (s core : String) : Prop where
  around : ∃ before after, s = before ++ core ++ after ∧ allBlank before = true ∧ allBlank after = true
  tidy : Tidy core

/-! ## The front -/

theorem head?_dropBlanks (cs : List Char) : ∀ c ∈ (dropBlanks cs).head?, isBlank c = false := by
  intro c hc
  have hfirst := List.head?_dropWhile_not isBlank cs
  rw [← dropBlanks, hc] at hfirst
  exact hfirst

theorem exists_dropBlanks (cs : List Char) : ∃ before, cs = before ++ dropBlanks cs ∧ ∀ c ∈ before, isBlank c = true :=
  ⟨cs.takeWhile isBlank, List.takeWhile_append_dropWhile.symm, fun _ hc => List.mem_takeWhile_imp hc⟩

theorem dropBlanks_append {before : List Char} (h : ∀ c ∈ before, isBlank c = true) (cs : List Char) :
    dropBlanks (before ++ cs) = dropBlanks cs := List.dropWhile_append_of_pos h

theorem dropBlanks_of_head {cs : List Char} (h : ∀ c ∈ cs.head?, isBlank c = false) : dropBlanks cs = cs := by
  cases cs with
  | nil => rfl
  | cons c rest => rw [dropBlanks_cons, h c rfl, if_neg Bool.false_ne_true]

/-! ## The back -/

theorem getLast?_dropBlanksEnd (cs : List Char) : ∀ c ∈ (dropBlanksEnd cs).getLast?, isBlank c = false := by
  rw [dropBlanksEnd, List.getLast?_reverse]
  exact head?_dropBlanks cs.reverse

theorem exists_dropBlanksEnd (cs : List Char) :
    ∃ after, cs = dropBlanksEnd cs ++ after ∧ ∀ c ∈ after, isBlank c = true := by
  obtain ⟨before, hsplit, hblank⟩ := exists_dropBlanks cs.reverse
  refine ⟨before.reverse, ?_, fun c hc => hblank c (List.mem_reverse.mp hc)⟩
  rw [dropBlanksEnd, ← List.reverse_append, ← hsplit, List.reverse_reverse]

theorem dropBlanksEnd_append {after : List Char} (h : ∀ c ∈ after, isBlank c = true) (cs : List Char) :
    dropBlanksEnd (cs ++ after) = dropBlanksEnd cs := by
  rw [dropBlanksEnd, List.reverse_append, dropBlanks_append fun c hc => h c (List.mem_reverse.mp hc), ← dropBlanksEnd]

theorem dropBlanksEnd_of_getLast {cs : List Char} (h : ∀ c ∈ cs.getLast?, isBlank c = false) :
    dropBlanksEnd cs = cs := by
  have hfirst : ∀ c ∈ cs.reverse.head?, isBlank c = false := by
    rw [List.head?_reverse]
    exact h
  rw [dropBlanksEnd, dropBlanks_of_head hfirst, List.reverse_reverse]

/-! ## Both ends -/

theorem toList_trim (s : String) : (trim s).toList = dropBlanksEnd (dropBlanks s.toList) := String.toList_ofList

theorem tidy_trim (s : String) : Tidy (trim s) := by
  unfold Tidy
  rw [toList_trim]
  refine ⟨fun c hc => ?_, getLast?_dropBlanksEnd _⟩
  -- What is first after both ends are cut was first after the front was cut.
  obtain ⟨after, hsplit, -⟩ := exists_dropBlanksEnd (dropBlanks s.toList)
  apply head?_dropBlanks s.toList c
  rw [hsplit, List.head?_append, hc]
  rfl

theorem isCore_trim (s : String) : IsCore s (trim s) := by
  obtain ⟨before, hfront, hbefore⟩ := exists_dropBlanks s.toList
  obtain ⟨after, hback, hafter⟩ := exists_dropBlanksEnd (dropBlanks s.toList)
  refine ⟨⟨String.ofList before, String.ofList after, ?_, ?_, ?_⟩, tidy_trim s⟩
  · apply String.ext
    rw [String.toList_append, String.toList_append, toList_trim, String.toList_ofList, String.toList_ofList,
      List.append_assoc, ← hback, ← hfront]
  · simpa [allBlank] using hbefore
  · simpa [allBlank] using hafter

/-- Trimming leaves what stands between the white space at the ends, and there is one such text alone. -/
theorem trim_eq_iff {s core : String} : trim s = core ↔ IsCore s core := by
  constructor
  · rintro rfl
    exact isCore_trim s
  · rintro ⟨⟨before, after, rfl, hbefore, hafter⟩, hhead, hlast⟩
    rw [allBlank, List.all_eq_true] at hbefore hafter
    apply String.ext
    rw [toList_trim, String.toList_append, String.toList_append, List.append_assoc, dropBlanks_append hbefore]
    cases hcore : core.toList with
    | nil =>
      rw [List.nil_append, dropBlanks_eq_nil_iff.mpr hafter]
      rfl
    | cons c rest =>
      rw [hcore] at hhead hlast
      rw [dropBlanks_of_head (by simpa using hhead), dropBlanksEnd_append hafter, dropBlanksEnd_of_getLast hlast]

end RetreatDesk.Text
