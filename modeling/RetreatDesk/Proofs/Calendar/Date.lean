import Mathlib.Algebra.Group.Nat.Defs
import RetreatDesk.Calendar.Date

/-!
# Dates as texts

* `Date.digitsValue_padded`: noughts in front do not change what digits stand for.
* `Date.number?_append`: digits are read up to the first character that is none.
* `Date.ofText?_text`: a date written as a text is read back.
-/

namespace RetreatDesk

namespace Date

/-! ## Digits -/

theorem toList_padded (width n : Nat) :
    (padded width n).toList = List.replicate (width - (Nat.toDigits 10 n).length) '0' ++ Nat.toDigits 10 n := by
  unfold padded
  rw [String.toList_ofList, Nat.toList_repr]

theorem isDigit_of_mem_padded {width n : Nat} {c : Char} (hc : c ∈ (padded width n).toList) : c.isDigit = true := by
  rw [toList_padded, List.mem_append] at hc
  rcases hc with hc | hc
  · rw [List.eq_of_mem_replicate hc]
    rfl
  · exact Nat.isDigit_of_mem_toDigits (by decide) (by decide) hc

theorem padded_ne_nil (width n : Nat) : (padded width n).toList ≠ [] := by
  rw [toList_padded]
  exact List.append_ne_nil_of_right_ne_nil _ Nat.toDigits_ne_nil

theorem length_padded {width n : Nat} (hwidth : 0 < width) (hn : n < 10 ^ width) :
    (padded width n).toList.length = width := by
  have hlength : (Nat.toDigits 10 n).length ≤ width := (Nat.length_toDigits_le_iff (by decide) hwidth).mpr hn
  rw [toList_padded, List.length_append, List.length_replicate, Nat.sub_add_cancel hlength]

theorem digitsValue_eq_ofDigitChars (ds : List Char) : Decimal.digitsValue ds = Nat.ofDigitChars 10 ds 0 :=
  Nat.ofDigitChars_eq_foldl.symm

/-- Noughts in front do not change what digits stand for. -/
theorem digitsValue_padded (width n : Nat) : Decimal.digitsValue (padded width n).toList = n := by
  rw [digitsValue_eq_ofDigitChars, toList_padded, Nat.ofDigitChars_append, Nat.ofDigitChars_replicate_zero,
    Nat.mul_zero, Nat.ofDigitChars_ten_toDigits]

/-! ## Numbers at the front -/

/-- Digits are read up to the first character that is none. -/
theorem number?_append {ds rest : List Char} (hdigits : ∀ c ∈ ds, c.isDigit = true) (hne : ds ≠ [])
    (hrest : ∀ c ∈ rest.head?, c.isDigit = false) {most : Nat} (hmost : ds.length ≤ most) :
    number? most (ds ++ rest) = some (Decimal.digitsValue ds, rest) := by
  have hstop : ∀ n, (rest.take n).takeWhile Char.isDigit = [] := by
    intro n
    cases rest with
    | nil => rw [List.take_nil, List.takeWhile_nil]
    | cons c rest =>
      cases n with
      | zero => rfl
      | succ n => rw [List.take_succ_cons, List.takeWhile_cons, hrest c rfl, if_neg Bool.false_ne_true]
  have hfront : ((ds ++ rest).take most).takeWhile Char.isDigit = ds := by
    rw [List.take_append, List.take_of_length_le hmost, List.takeWhile_append_of_pos hdigits, hstop, List.append_nil]
  have hsome : ds.isEmpty = false := by simpa using hne
  simp only [number?, hfront, hsome, List.drop_left, if_neg Bool.false_ne_true]

theorem number?_padded {width n most : Nat} {rest : List Char} (hrest : ∀ c ∈ rest.head?, c.isDigit = false)
    (hmost : (padded width n).toList.length ≤ most) :
    number? most ((padded width n).toList ++ rest) = some (n, rest) := by
  rw [number?_append (fun c => isDigit_of_mem_padded) (padded_ne_nil width n) hrest hmost, digitsValue_padded]

theorem longNumber?_padded {width n : Nat} {rest : List Char} (hrest : ∀ c ∈ rest.head?, c.isDigit = false) :
    longNumber? ((padded width n).toList ++ rest) = some (n, rest) := by
  refine number?_padded hrest ?_
  rw [List.length_append]
  exact Nat.le_add_right _ _

theorem isBlank_of_isDigit {c : Char} (hc : c.isDigit = true) : Text.isBlank c = false := by
  have hrange : 48 ≤ c.toNat ∧ c.toNat ≤ 57 := Char.isDigit_iff_toNat.mp hc
  simp only [Text.isBlank, Bool.or_eq_false_iff, Bool.and_eq_false_iff, decide_eq_false_iff_not]
  omega

theorem dropBlanks_padded (width n : Nat) (rest : List Char) :
    Text.dropBlanks ((padded width n).toList ++ rest) = (padded width n).toList ++ rest := by
  obtain ⟨c, ds, hds⟩ := List.exists_cons_of_ne_nil (padded_ne_nil width n)
  have hc : c.isDigit = true := isDigit_of_mem_padded (hds ▸ List.mem_cons_self)
  rw [hds, List.cons_append, Text.dropBlanks_cons, isBlank_of_isDigit hc, if_neg Bool.false_ne_true]

/-! ## Years -/

theorem year?_minus (cs : List Char) : year? ('-' :: cs) = (longNumber? cs).map fun e => (-(e.1 : Int), e.2) := rfl

theorem year?_plus (cs : List Char) : year? ('+' :: cs) = (longNumber? cs).map fun e => ((e.1 : Int), e.2) := rfl

theorem year?_padded {n : Nat} (hn : n < 10 ^ 4) {rest : List Char} (hrest : ∀ c ∈ rest.head?, c.isDigit = false) :
    year? ((padded 4 n).toList ++ rest) = some ((n : Int), rest) := by
  have hnumber : number? 4 ((padded 4 n).toList ++ rest) = some (n, rest) :=
    number?_padded hrest (Nat.le_of_eq (length_padded (by decide) hn))
  -- A digit comes first, so the year is read as one without a sign.
  have hsign : ∀ {c cs}, (padded 4 n).toList ++ rest = c :: cs → c.isDigit = true := by
    intro c cs heq
    obtain ⟨d, ds, hds⟩ := List.exists_cons_of_ne_nil (padded_ne_nil 4 n)
    rw [hds] at heq
    obtain ⟨rfl, -⟩ := List.cons.inj heq
    exact isDigit_of_mem_padded (hds ▸ List.mem_cons_self)
  unfold year?
  rw [dropBlanks_padded]
  split
  · next cs heq => cases hsign heq
  · next cs heq => cases hsign heq
  · rw [hnumber]
    rfl

theorem year?_yearText (year : Int) {rest : List Char} (hrest : ∀ c ∈ rest.head?, c.isDigit = false) :
    year? ((yearText year).toList ++ rest) = some (year, rest) := by
  unfold yearText
  split
  · next hyear =>
    obtain ⟨n, rfl⟩ := Int.eq_ofNat_of_zero_le hyear.1
    exact year?_padded (by omega) hrest
  · split
    · next hneg =>
      have hyear : -(year.natAbs : Int) = year := by omega
      have htext : ("-" ++ padded 4 year.natAbs).toList ++ rest = '-' :: ((padded 4 year.natAbs).toList ++ rest) := by
        simp
      rw [htext, year?_minus, longNumber?_padded hrest, Option.map_some, hyear]
    · next hpos =>
      have hyear : (year.natAbs : Int) = year := by omega
      have htext : ("+" ++ padded 4 year.natAbs).toList ++ rest = '+' :: ((padded 4 year.natAbs).toList ++ rest) := by
        simp
      rw [htext, year?_plus, longNumber?_padded hrest, Option.map_some, hyear]

/-! ## Dates -/

theorem daysInMonth_le (year : Int) (month : Nat) : daysInMonth year month ≤ 31 := by
  unfold daysInMonth
  split
  -- February
  case h_12 => split <;> decide
  all_goals decide

/-- What is no month has no days. -/
theorem daysInMonth_of_lt {year : Int} {month : Nat} (h : 12 < month) : daysInMonth year month = 0 := by
  unfold daysInMonth
  split
  case h_13 => rfl
  all_goals omega

theorem month_and_day_lt (d : Date) : d.month < 10 ^ 2 ∧ d.day < 10 ^ 2 := by
  obtain ⟨-, hday, hdays⟩ := d.exists_day
  have hmonth : d.month ≤ 12 := by
    apply Nat.le_of_not_lt
    intro hlarge
    rw [daysInMonth_of_lt hlarge] at hdays
    omega
  have hmost := daysInMonth_le d.year d.month
  omega

theorem of?_eq_some (d : Date) : of? d.year d.month d.day = some d := dif_pos d.exists_day

theorem toList_text (d : Date) : d.text.toList =
    (yearText d.year).toList ++ '-' :: ((padded 2 d.month).toList ++ '-' :: (padded 2 d.day).toList) := by
  simp [text]

theorem isBlank_of_mem_text {d : Date} {c : Char} (hc : c ∈ d.text.toList) : Text.isBlank c = false := by
  have hyear : ∀ c ∈ (yearText d.year).toList, c = '-' ∨ c = '+' ∨ c.isDigit = true := by
    intro c hc
    unfold yearText at hc
    split at hc
    · exact .inr (.inr (isDigit_of_mem_padded hc))
    · rw [String.toList_append, List.mem_append] at hc
      rcases hc with hc | hc
      · split at hc
        · exact .inl (List.mem_singleton.mp hc)
        · exact .inr (.inl (List.mem_singleton.mp hc))
      · exact .inr (.inr (isDigit_of_mem_padded hc))
  have hmark : c = '-' ∨ c = '+' ∨ c.isDigit = true := by
    rw [toList_text, List.mem_append, List.mem_cons, List.mem_append, List.mem_cons] at hc
    rcases hc with hc | rfl | hc | rfl | hc
    · exact hyear c hc
    · exact .inl rfl
    · exact .inr (.inr (isDigit_of_mem_padded hc))
    · exact .inl rfl
    · exact .inr (.inr (isDigit_of_mem_padded hc))
  rcases hmark with rfl | rfl | hdigit
  · rfl
  · rfl
  · exact isBlank_of_isDigit hdigit

theorem plain?_text (d : Date) : plain? d.text.toList = some d := by
  obtain ⟨hmonth, hday⟩ := d.month_and_day_lt
  have hdash : ∀ cs, ∀ c ∈ ('-' :: cs : List Char).head?, c.isDigit = false := by
    intro cs c hc
    cases hc
    rfl
  have hyear := year?_yearText d.year (hdash ((padded 2 d.month).toList ++ '-' :: (padded 2 d.day).toList))
  have hmonth' : number? 2 ((padded 2 d.month).toList ++ '-' :: (padded 2 d.day).toList) =
      some (d.month, '-' :: (padded 2 d.day).toList) :=
    number?_padded (hdash _) (Nat.le_of_eq (length_padded (by decide) hmonth))
  have hday' : number? 2 ((padded 2 d.day).toList ++ []) = some (d.day, []) :=
    number?_padded (by simp) (Nat.le_of_eq (length_padded (by decide) hday))
  have hblank := dropBlanks_padded 2 d.day []
  rw [List.append_nil] at hday' hblank
  unfold plain?
  simp only [toList_text, hyear, Option.bind_eq_bind, Option.bind_some, char?, if_true, dropBlanks_padded, hmonth',
    hblank, hday', List.isEmpty_nil, of?_eq_some]

/-- A date written as a text is read back. -/
theorem ofText?_text (d : Date) : ofText? d.text = some d := by
  have htrim : Text.trim d.text = d.text := Text.trim_eq_self fun _ hc => isBlank_of_mem_text hc
  simp only [ofText?, htrim, plain?_text, Option.orElse_eq_orElse, Option.orElse_some]

end Date

end RetreatDesk
