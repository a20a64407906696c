import RetreatDesk.Text.Utf8
import Mathlib.Data.List.Basic

/-!
# The order of texts is the order of their bytes

Texts are compared character by character. In UTF-8 this is the order of the bytes: the bytes of a smaller character
differ from those of a larger one at some place within both, and are smaller there.

* `encode_append_lt`: characters in order give bytes in order, whatever follows.
* `bytes_lt_bytes`: so do texts.
-/

namespace RetreatDesk.Utf8

/-! ## The bytes of a text -/

theorem toList_loop (bs : ByteArray) (i : Nat) (done : List UInt8) :
    ByteArray.toList.loop bs i done = done.reverse ++ bs.data.toList.drop i := by
  fun_induction ByteArray.toList.loop bs i done with
  | case1 i done h ih =>
    have hi : i < bs.data.toList.length := by simpa using h
    have hget : bs.get! i = bs.data.toList[i] := by simp [ByteArray.get!, h]
    rw [ih, List.drop_eq_getElem_cons hi, hget, List.reverse_cons, List.append_assoc, List.singleton_append]
  | case2 i done h =>
    have hi : bs.data.toList.length ≤ i := by simpa using Nat.le_of_not_lt h
    rw [List.drop_eq_nil_of_le hi, List.append_nil]

theorem bytes_eq_flatMap (s : String) : bytes s = s.toList.flatMap String.utf8EncodeChar := by
  unfold bytes ByteArray.toList
  rw [toList_loop, List.reverse_nil, List.nil_append, List.drop_zero, String.toUTF8_eq_toByteArray,
    ← String.utf8Encode_toList, List.utf8Encode, List.toList_data_toByteArray]

/-! ## Characters -/

theorem ofNat_cons_lt {x y : Nat} (h : x < y) (hy : y < 256) (l m : List UInt8) :
    UInt8.ofNat x :: l < UInt8.ofNat y :: m := by
  refine List.cons_lt_cons_iff.mpr (.inl ?_)
  rw [UInt8.lt_iff_toNat_lt, UInt8.toNat_ofNat_of_lt' (Nat.lt_trans h hy), UInt8.toNat_ofNat_of_lt' hy]
  exact h

theorem ofNat_cons_lt_of_le {x y : Nat} (h : x ≤ y) (hy : y < 256) {l m : List UInt8} (hlm : x = y → l < m) :
    UInt8.ofNat x :: l < UInt8.ofNat y :: m := by
  rcases Nat.lt_or_eq_of_le h with hlt | heq
  · exact ofNat_cons_lt hlt hy l m
  · rw [heq]
    exact List.cons_lt_cons_iff.mpr (.inr ⟨rfl, hlm heq⟩)

/-- Of two characters with as many bytes the payload decides, place by place; of others the first byte does. -/
theorem encode_append_lt {c d : Char} (h : c < d) (l m : List UInt8) :
    String.utf8EncodeChar c ++ l < String.utf8EncodeChar d ++ m := by
  have hcd : c.val.toNat < d.val.toNat := h
  have hd : d.val.toNat < 0x110000 := by
    rcases d.valid with hd | ⟨-, hd⟩
    · exact Nat.lt_trans hd (by decide)
    · exact hd
  unfold String.utf8EncodeChar
  dsimp only
  generalize c.val.toNat = x at hcd ⊢
  generalize d.val.toNat = y at hcd hd ⊢
  split
  · split
    · exact ofNat_cons_lt hcd (by omega) _ _
    · split
      · exact ofNat_cons_lt (by omega) (by omega) _ _
      · split <;> exact ofNat_cons_lt (by omega) (by omega) _ _
  · split
    · split
      · omega
      · split
        · refine ofNat_cons_lt_of_le (by omega) (by omega) fun h₁ => ?_
          exact ofNat_cons_lt (by omega) (by omega) _ _
        · split <;> exact ofNat_cons_lt (by omega) (by omega) _ _
    · split
      · split
        · omega
        · split
          · omega
          · split
            · refine ofNat_cons_lt_of_le (by omega) (by omega) fun h₁ => ?_
              refine ofNat_cons_lt_of_le (by omega) (by omega) fun h₂ => ?_
              exact ofNat_cons_lt (by omega) (by omega) _ _
            · exact ofNat_cons_lt (by omega) (by omega) _ _
      · rw [if_neg (show ¬ y ≤ 127 by omega), if_neg (show ¬ y ≤ 2047 by omega), if_neg (show ¬ y ≤ 65535 by omega)]
        refine ofNat_cons_lt_of_le (by omega) (by omega) fun h₁ => ?_
        refine ofNat_cons_lt_of_le (by omega) (by omega) fun h₂ => ?_
        refine ofNat_cons_lt_of_le (by omega) (by omega) fun h₃ => ?_
        exact ofNat_cons_lt (by omega) (by omega) _ _

/-! ## Texts -/

theorem flatMap_encode_lt {cs ds : List Char} (h : cs < ds) :
    cs.flatMap String.utf8EncodeChar < ds.flatMap String.utf8EncodeChar := by
  induction cs generalizing ds with
  | nil =>
    cases ds with
    | nil => exact absurd h (List.lt_irrefl [])
    | cons d ds =>
      obtain ⟨b, bs, hb⟩ := List.exists_cons_of_ne_nil (String.utf8EncodeChar_ne_nil (c := d))
      rw [List.flatMap_nil, List.flatMap_cons, hb, List.cons_append]
      exact List.nil_lt_cons _ _
  | cons c cs ih =>
    cases ds with
    | nil => exact absurd h (List.not_lt_nil _)
    | cons d ds =>
      rw [List.flatMap_cons, List.flatMap_cons]
      rcases List.cons_lt_cons_iff.mp h with hcd | ⟨rfl, hrest⟩
      · exact encode_append_lt hcd _ _
      · exact List.append_left_lt (ih hrest)

/-- Texts in order have their bytes in order. -/
theorem bytes_lt_bytes {s t : String} (h : s < t) : bytes s < bytes t := by
  rw [bytes_eq_flatMap, bytes_eq_flatMap]
  exact flatMap_encode_lt h

end RetreatDesk.Utf8
