/-!
# White space

* `isBlank`: the characters that count as white space, in all scripts.
* `trim`, `trimEnd`: a text without the white space around it, or at its end.
* `trim_eq_empty_iff`: a text trims to nothing exactly when it holds white space alone.
* `trim_eq_self`: a text without white space trims to itself.
-/

namespace RetreatDesk.Text

/-- White space: the ASCII blanks and line breaks, and the spaces and separators of other scripts. -/
def isBlank (c : Char) : Bool :=
  let n := c.toNat
  (0x9 ≤ n && n ≤ 0xd) || n = 0x20 || n = 0x85 || n = 0xa0 || n = 0x1680 ||
    (0x2000 ≤ n && n ≤ 0x200a) || n = 0x2028 || n = 0x2029 || n = 0x202f || n = 0x205f || n = 0x3000

/-- The characters without blanks at the front. -/
def dropBlanks (cs : List Char) : List Char := cs.dropWhile isBlank

/-- The characters without blanks at the back. -/
def dropBlanksEnd (cs : List Char) : List Char := (dropBlanks cs.reverse).reverse

/-- The text without white space at its end. -/
def trimEnd (s : String) : String := String.ofList (dropBlanksEnd s.toList)

/-- The text without white space at either end. -/
def trim (s : String) : String := String.ofList (dropBlanksEnd (dropBlanks s.toList))

/-- Nothing but white space. -/
def allBlank (s : String) : Bool := s.toList.all isBlank

theorem dropBlanks_cons (c : Char) (cs : List Char) :
    dropBlanks (c :: cs) = if isBlank c then dropBlanks cs else c :: cs := by
  cases h : isBlank c <;> simp [dropBlanks, h]

/-- What is left after dropping is blank only if everything was. -/
theorem blank_of_dropBlanks {cs : List Char} (h : ∀ c ∈ dropBlanks cs, isBlank c = true) :
    ∀ c ∈ cs, isBlank c = true := by
  induction cs with
  | nil => simp
  | cons c rest ih =>
    rw [dropBlanks_cons] at h
    cases hc : isBlank c with
    | true =>
      simp only [hc, if_true] at h
      simpa [hc] using ih h
    | false => simp [hc] at h

theorem dropBlanks_eq_nil_iff {cs : List Char} : dropBlanks cs = [] ↔ ∀ c ∈ cs, isBlank c = true := by
  constructor
  · intro h
    exact blank_of_dropBlanks (by simp [h])
  · intro h
    induction cs with
    | nil => rfl
    | cons c rest ih =>
      rw [dropBlanks_cons, if_pos (h c List.mem_cons_self)]
      exact ih fun d hd => h d (List.mem_cons_of_mem _ hd)

theorem dropBlanksEnd_eq_nil_iff {cs : List Char} :
    dropBlanksEnd cs = [] ↔ ∀ c ∈ cs, isBlank c = true := by
  simp [dropBlanksEnd, dropBlanks_eq_nil_iff]

theorem trim_eq_empty_iff {s : String} : trim s = "" ↔ allBlank s = true := by
  have hnil : trim s = "" ↔ dropBlanksEnd (dropBlanks s.toList) = [] := by
    simp [trim]
  rw [hnil, dropBlanksEnd_eq_nil_iff]
  simp only [allBlank, List.all_eq_true]
  constructor
  · exact blank_of_dropBlanks
  · intro h c hc
    exact h c ((List.dropWhile_suffix _).subset hc)

/-! ## Texts without white space -/

theorem dropBlanks_eq_self {cs : List Char} (h : ∀ c ∈ cs, isBlank c = false) : dropBlanks cs = cs := by
  cases cs with
  | nil => rfl
  | cons c rest => rw [dropBlanks_cons, h c List.mem_cons_self, if_neg Bool.false_ne_true]

theorem trim_eq_self {s : String} (h : ∀ c ∈ s.toList, isBlank c = false) : trim s = s := by
  have hreverse : ∀ c ∈ s.toList.reverse, isBlank c = false := fun c hc => h c (List.mem_reverse.mp hc)
  rw [trim, dropBlanks_eq_self h, dropBlanksEnd, dropBlanks_eq_self hreverse, List.reverse_reverse,
    String.ofList_toList]

end RetreatDesk.Text
