/-!
# Parts of texts

* `hasPart`: whether a text stands somewhere in another.
* `hasPart_iff`: it does exactly when the other is the text with something before and after it.
-/

namespace RetreatDesk.Text

/-- Whether `part` stands somewhere in a list of characters. -/
def isPartOf (part : List Char) : List Char → Bool
  | [] => part.isEmpty
  | c :: rest => part.isPrefixOf (c :: rest) || isPartOf part rest

/-- Whether `part` stands somewhere in `s`. -/
def hasPart (s part : String) : Bool := isPartOf part.toList s.toList

theorem isPartOf_iff {part cs : List Char} : isPartOf part cs = true ↔ ∃ a b, cs = a ++ part ++ b := by
  induction cs with
  | nil =>
    simp only [isPartOf, List.isEmpty_iff]
    constructor
    · rintro rfl
      exact ⟨[], [], rfl⟩
    · rintro ⟨a, b, h⟩
      simp_all
  | cons c rest ih =>
    simp only [isPartOf, Bool.or_eq_true, List.isPrefixOf_iff_prefix, ih]
    constructor
    · rintro (⟨b, h⟩ | ⟨a, b, h⟩)
      · exact ⟨[], b, h.symm⟩
      · exact ⟨c :: a, b, by simp [h]⟩
    · rintro ⟨a, b, h⟩
      cases a with
      | nil => exact .inl ⟨b, h.symm⟩
      | cons d a =>
        injection h with _ h
        exact .inr ⟨a, b, h⟩

theorem hasPart_iff {s part : String} :
    hasPart s part = true ↔ ∃ a b, s.toList = a ++ part.toList ++ b := isPartOf_iff

end RetreatDesk.Text
