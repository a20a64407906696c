import RetreatDesk.Command.Run
import Mathlib.Data.List.TakeWhile

/-!
# Options on a command line

* `IsOption`: an argument that is the option of a name.
* `Options.Accepts`: rows of arguments that are accepted, one option after the other.
* `Options.accepts_of_ok`: every row that is accepted is accepted in this way.
* `Options.Accepts.value_of_given`: an option on an accepted command line has a value, and the value fits.
-/

namespace RetreatDesk

/-! ## Arguments -/

/-- The argument is the option of a name; its value may be attached. -/
def IsOption (name arg : String) : Prop := arg = "--" ++ name ∨ ∃ value, arg = "--" ++ name ++ "=" ++ value

/-- One of the arguments is the option of a name. -/
def Gives (name : String) (args : List String) : Prop := ∃ arg ∈ args, IsOption name arg

/-- What stands behind the two dashes of an option: its name, and its value if it is attached. -/
def optionParts (arg : String) : String × Option String := Web.cut '=' (String.ofList (arg.toList.drop 2))

section
variable {name arg : String}

theorem cut_of_not_mem {mark : Char} {s : String} (h : mark ∉ s.toList) : Web.cut mark s = (s, none) := by
  have hall : ∀ c ∈ s.toList, decide (c ≠ mark) = true := fun c hc => decide_eq_true fun heq => h (heq ▸ hc)
  have hnothing : s.toList.dropWhile (· ≠ mark) = [] := List.dropWhile_eq_nil_iff.mpr hall
  simp only [Web.cut, hnothing]

theorem cut_append {mark : Char} {front : String} (h : mark ∉ front.toList) (back : List Char) :
    Web.cut mark (String.ofList (front.toList ++ mark :: back)) = (front, some (String.ofList back)) := by
  have hall : ∀ c ∈ front.toList, decide (c ≠ mark) = true := fun c hc => decide_eq_true fun heq => h (heq ▸ hc)
  simp only [Web.cut, String.toList_ofList, List.dropWhile_append_of_pos hall, List.takeWhile_append_of_pos hall]
  simp

theorem IsOption.parts (hname : '=' ∉ name.toList) (h : IsOption name arg) :
    optionParts arg = (name, none) ∨ ∃ value, optionParts arg = (name, some value) := by
  rcases h with rfl | ⟨value, rfl⟩
  · have hbare : ("--" ++ name).toList.drop 2 = name.toList := by simp
    rw [optionParts, hbare, String.ofList_toList]
    exact .inl (cut_of_not_mem hname)
  · have hbare : ("--" ++ name ++ "=" ++ value).toList.drop 2 = name.toList ++ '=' :: value.toList := by simp
    rw [optionParts, hbare]
    exact .inr ⟨_, cut_append hname value.toList⟩

theorem IsOption.name_eq (hname : '=' ∉ name.toList) (h : IsOption name arg) : (optionParts arg).1 = name := by
  rcases h.parts hname with hparts | ⟨value, hparts⟩
  · rw [hparts]
  · rw [hparts]

theorem IsOption.ne_separator (hne : name ≠ "") (h : IsOption name arg) : arg ≠ "--" := by
  have hname : 0 < name.length := Nat.pos_of_ne_zero fun hzero => hne (String.length_eq_zero_iff.mp hzero)
  rintro rfl
  rcases h with h | ⟨value, h⟩
  · have hlength := congrArg String.length h
    rw [String.length_append] at hlength
    omega
  · have hlength := congrArg String.length h
    rw [String.length_append, String.length_append, String.length_append] at hlength
    omega

/-- No option is taken for a value that stands alone. -/
theorem IsOption.looksLikeOption (h : IsOption name arg) : Options.looksLikeOption arg = true := by
  have hdashes : ∃ rest, arg.toList = '-' :: '-' :: rest := by
    rcases h with rfl | ⟨value, rfl⟩
    · exact ⟨name.toList, by simp⟩
    · exact ⟨name.toList ++ '=' :: value.toList, by simp⟩
  obtain ⟨rest, hrest⟩ := hdashes
  have hne : arg ≠ "-" := by
    rintro rfl
    simp at hrest
  simp [Options.looksLikeOption, hne, String.startsWith_string_iff, hrest]

end

/-! ## Rows of options -/

namespace Options

section
variable (valued : List (String × (String → Bool))) (flags : List String)

/-- The row of arguments is accepted after the options read before it, and these are then all options. -/
inductive Accepts : Options → List String → Options → Prop
  | nothing (o : Options) : Accepts o [] o
  | separator (o : Options) : Accepts o ["--"] o
  | attached {o all : Options} {arg name value : String} {fits : String → Bool} {args : List String}
    (hparts : optionParts arg = (name, some value)) (hnew : o.given name = false)
    (hvalued : valued.lookup name = some fits) (hfits : fits value = true)
    (hrest : Accepts { o with values := (name, value) :: o.values } args all) : Accepts o (arg :: args) all
  | apart {o all : Options} {arg name value : String} {fits : String → Bool} {args : List String}
    (hparts : optionParts arg = (name, none)) (hnew : o.given name = false)
    (hvalued : valued.lookup name = some fits) (hfits : fits value = true) (hplain : looksLikeOption value = false)
    (hrest : Accepts { o with values := (name, value) :: o.values } args all) : Accepts o (arg :: value :: args) all
  | flag {o all : Options} {arg name : String} {args : List String}
    (hparts : optionParts arg = (name, none)) (hnew : o.given name = false) (hvalued : valued.lookup name = none)
    (hflag : flags.contains name = true)
    (hrest : Accepts { o with flags := name :: o.flags } args all) : Accepts o (arg :: args) all

end

variable {valued : List (String × (String → Bool))} {flags : List String} {o all : Options} {args : List String}

theorem accepts_of_ok (h : ofArguments valued flags o args = .ok all) : Accepts valued flags o args all := by
  fun_induction ofArguments valued flags o args with
  | case1 o =>
    cases h
    exact .nothing _
  | case2 o rest hrest =>
    cases h
    rw [List.isEmpty_iff.mp hrest]
    exact .separator _
  | case5 o arg _ _ name hnew fits value rest hvalued hfits hparts ih =>
    exact .attached hparts (Bool.not_eq_true _ ▸ hnew) hvalued hfits (ih h)
  | case7 o arg _ _ name hnew fits value rest hvalued hfits hparts ih =>
    obtain ⟨hplain, hfits⟩ := (Bool.and_eq_true _ _).mp hfits
    exact .apart hparts (Bool.not_eq_true _ ▸ hnew) hvalued hfits (Bool.not_eq_true' _ ▸ hplain) (ih h)
  | case11 o arg _ _ name hnew rest hvalued hflag hparts ih =>
    exact .flag hparts (Bool.not_eq_true _ ▸ hnew) hvalued hflag (ih h)
  | case3 | case4 | case6 | case8 | case9 | case10 | case12 | case13 | case14 | case15 => cases h

theorem value?_cons_of_ne {name other value : String} (h : other ≠ name) :
    ({ o with values := (name, value) :: o.values } : Options).value? other = o.value? other := by
  have hb : (other == name) = false := beq_eq_false_iff_ne.mpr h
  rw [value?, List.lookup_cons, hb]
  rfl

theorem value?_cons_self (name value : String) :
    ({ o with values := (name, value) :: o.values } : Options).value? name = some value := by
  rw [value?, List.lookup_cons, beq_self_eq_true]

namespace Accepts

/-- What was read stays as it is: no option may be given twice. -/
theorem value?_kept (h : Accepts valued flags o args all) {name value : String} (hvalue : o.value? name = some value) :
    all.value? name = some value := by
  have hne : ∀ {o : Options} {other : String}, o.given other = false → o.value? name = some value → name ≠ other := by
    rintro o other hnew hvalue rfl
    simp [given, hvalue] at hnew
  induction h with
  | nothing | separator => exact hvalue
  | attached _ hnew _ _ _ ih | apart _ hnew _ _ _ _ ih => exact ih ((value?_cons_of_ne (hne hnew hvalue)).trans hvalue)
  | flag _ _ _ _ _ ih => exact ih hvalue

/-- Every value fits the option that it belongs to. -/
theorem fits (h : Accepts valued flags o args all)
    (ho : ∀ name value, o.value? name = some value → ∃ fits, valued.lookup name = some fits ∧ fits value = true)
    {name value : String} (hvalue : all.value? name = some value) :
    ∃ fits, valued.lookup name = some fits ∧ fits value = true := by
  have hstep : ∀ {o : Options} {new text : String} {fits : String → Bool}, valued.lookup new = some fits →
      fits text = true →
      (∀ name value, o.value? name = some value → ∃ fits, valued.lookup name = some fits ∧ fits value = true) →
      ∀ name value, ({ o with values := (new, text) :: o.values } : Options).value? name = some value →
        ∃ fits, valued.lookup name = some fits ∧ fits value = true := by
    intro o new text fits hvalued hfits ho name value hvalue
    by_cases hname : name = new
    · subst hname
      rw [value?_cons_self] at hvalue
      cases hvalue
      exact ⟨fits, hvalued, hfits⟩
    · rw [value?_cons_of_ne hname] at hvalue
      exact ho name value hvalue
  induction h with
  | nothing | separator => exact ho name value hvalue
  | attached _ _ hvalued hfits _ ih | apart _ _ hvalued hfits _ _ ih => exact ih (hstep hvalued hfits ho) hvalue
  | flag _ _ _ _ _ ih => exact ih ho hvalue

/-- An option with a value that stands on an accepted command line is read. -/
theorem value_of_given (h : Accepts valued flags o args all) {name : String} (hname : '=' ∉ name.toList)
    (hne : name ≠ "") {fits : String → Bool} (hvalued : valued.lookup name = some fits) (hgives : Gives name args) :
    ∃ value, all.value? name = some value := by
  obtain ⟨arg, harg, hoption⟩ := hgives
  have hparts := hoption.name_eq hname
  induction h with
  | nothing => cases harg
  | separator => exact absurd (List.mem_singleton.mp harg) (hoption.ne_separator hne)
  | attached hparts' _ _ _ hrest ih =>
    rcases List.mem_cons.mp harg with rfl | harg
    · rw [hparts'] at hparts
      subst hparts
      exact ⟨_, hrest.value?_kept (value?_cons_self _ _)⟩
    · exact ih harg
  | apart hparts' _ _ _ hplain hrest ih =>
    rcases List.mem_cons.mp harg with rfl | harg
    · rw [hparts'] at hparts
      subst hparts
      exact ⟨_, hrest.value?_kept (value?_cons_self _ _)⟩
    · rcases List.mem_cons.mp harg with rfl | harg
      · rw [hoption.looksLikeOption] at hplain
        cases hplain
      · exact ih harg
  | flag hparts' _ hunvalued _ _ ih =>
    rcases List.mem_cons.mp harg with rfl | harg
    · rw [hparts'] at hparts
      subst hparts
      rw [hunvalued] at hvalued
      cases hvalued
    · exact ih harg

end Accepts

end Options

end RetreatDesk
