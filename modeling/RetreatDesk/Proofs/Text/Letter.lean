import RetreatDesk.Text.Letter
import RetreatDesk.Text.Part
import RetreatDesk.Proofs.Text.Trim

/-!
# Lower case and parts of texts

The lower case of a character depends on no other character, save that of a capital sigma, which has another form at the
end of a word. So a part of a text, in lower case, stands in the text in lower case unless it cuts a word at a sigma.

* `lowerBetween_eq_iff`: what is around characters shows in their lower case only where it ends a word, or goes on with
  one, next to a capital sigma.
* `hasPart_lower`: where all capital sigmas keep their forms, the lower case of a part stands in that of the whole.
* `hasPart_lower_trim`: they do when white space is cut off.
-/

namespace RetreatDesk.Text

/-! ## Characters with others around them -/

/-- Whether a capital sigma ends a word here. What comes before it is given nearest first. -/
def endsWord (before after : List Char) : Bool := casedAhead before && !casedAhead after

/-- The lower case of one character with others around it. -/
def lowerOne (before after : List Char) (c : Char) : List Char :=
  if c = 'Σ' then
    if endsWord before after then ['ς'] else ['σ']
  else if c = 'İ' then ['i', Char.ofNat 0x307]
  else [lowerChar c]

/-- The lower case of characters with others around them. -/
def lowerBetween (before after : List Char) : List Char → List Char
  | [] => []
  | c :: rest => lowerOne before (rest ++ after) c ++ lowerBetween (c :: before) after rest

theorem lowerAfter_eq (before cs : List Char) : lowerAfter before cs = lowerBetween before [] cs := by
  induction cs generalizing before with
  | nil => rfl
  | cons c rest ih =>
    rw [lowerAfter, lowerBetween, ih, List.append_nil]
    rfl

theorem lowerBetween_append (before after cs cs' : List Char) : lowerBetween before after (cs ++ cs') =
    lowerBetween before (cs' ++ after) cs ++ lowerBetween (cs.reverse ++ before) after cs' := by
  induction cs generalizing before with
  | nil => rfl
  | cons c rest ih =>
    rw [List.cons_append, lowerBetween, lowerBetween, ih, List.append_assoc, List.append_assoc, List.reverse_cons,
      List.append_assoc, List.singleton_append]

theorem length_lowerOne (before after before' after' : List Char) (c : Char) :
    (lowerOne before after c).length = (lowerOne before' after' c).length := by
  unfold lowerOne
  split
  · split <;> split <;> rfl
  · rfl

theorem lowerOne_eq_iff {before after before' after' : List Char} {c : Char} :
    lowerOne before after c = lowerOne before' after' c ↔
      (c = 'Σ' → endsWord before after = endsWord before' after') := by
  unfold lowerOne
  by_cases hc : c = 'Σ'
  · rw [if_pos hc, if_pos hc]
    cases endsWord before after <;> cases endsWord before' after' <;> simp [hc]
  · simp [hc]

/-- What is around characters shows in their lower case only at a capital sigma. -/
theorem lowerBetween_eq_iff {before after before' after' cs : List Char} :
    lowerBetween before after cs = lowerBetween before' after' cs ↔
      ∀ p q, cs = p ++ 'Σ' :: q →
        endsWord (p.reverse ++ before) (q ++ after) = endsWord (p.reverse ++ before') (q ++ after') := by
  induction cs generalizing before before' with
  | nil => simp [lowerBetween]
  | cons c rest ih =>
    have hsplit : lowerBetween before after (c :: rest) = lowerBetween before' after' (c :: rest) ↔
        lowerOne before (rest ++ after) c = lowerOne before' (rest ++ after') c ∧
          lowerBetween (c :: before) after rest = lowerBetween (c :: before') after' rest := by
      constructor
      · exact fun h => List.append_inj h (length_lowerOne _ _ _ _ c)
      · rintro ⟨hone, hrest⟩
        rw [lowerBetween, lowerBetween, hone, hrest]
    rw [hsplit, lowerOne_eq_iff, ih]
    constructor
    · rintro ⟨hfirst, hlater⟩ p q heq
      cases p with
      | nil =>
        obtain ⟨rfl, rfl⟩ := List.cons.inj heq
        exact hfirst rfl
      | cons d p =>
        obtain ⟨rfl, rfl⟩ := List.cons.inj heq
        simpa using hlater p q rfl
    · intro h
      refine ⟨?_, fun p q heq => ?_⟩
      · rintro rfl
        exact h [] rest rfl
      · simpa using h (c :: p) q (by rw [heq]; rfl)

/-! ## Parts of a text -/

/-- Each capital sigma of a part ends a word in the part if and only if it ends one in the whole. -/
def KeepsSigmas (before part after : String) : Prop :=
  ∀ p q, part.toList = p ++ 'Σ' :: q →
    endsWord (p.reverse ++ before.toList.reverse) (q ++ after.toList) = endsWord p.reverse q

/-- They do exactly if the part, as it stands in the whole, has the lower case that it has alone. -/
theorem keepsSigmas_iff {before part after : String} : KeepsSigmas before part after ↔
    lowerBetween before.toList.reverse after.toList part.toList = lowerBetween [] [] part.toList := by
  rw [lowerBetween_eq_iff]
  simp only [KeepsSigmas, List.append_nil]

instance (before part after : String) : Decidable (KeepsSigmas before part after) :=
  decidable_of_iff' _ keepsSigmas_iff

theorem keepsSigmas_of_not_mem {part : String} (h : 'Σ' ∉ part.toList) (before after : String) :
    KeepsSigmas before part after := by
  intro p q heq
  rw [heq] at h
  simp at h

theorem toList_lower (s : String) : (lower s).toList = lowerBetween [] [] s.toList := by
  rw [lower, String.toList_ofList, lowerAfter_eq]

/-- Where all capital sigmas keep their forms, the lower case of a part stands in that of the whole. -/
theorem hasPart_lower {before part after : String} (h : KeepsSigmas before part after) :
    hasPart (lower (before ++ part ++ after)) (lower part) = true := by
  rw [hasPart_iff, toList_lower, toList_lower, String.toList_append, String.toList_append, lowerBetween_append,
    lowerBetween_append, List.append_nil, List.append_nil, keepsSigmas_iff.mp h]
  exact ⟨_, _, rfl⟩

theorem hasPart_trans {s part piece : String} (h : hasPart s part = true) (hpiece : hasPart part piece = true) :
    hasPart s piece = true := by
  obtain ⟨a, b, hs⟩ := hasPart_iff.mp h
  obtain ⟨a', b', hpart⟩ := hasPart_iff.mp hpiece
  refine hasPart_iff.mpr ⟨a ++ a', b' ++ b, ?_⟩
  rw [hs, hpart]
  simp only [List.append_assoc]

/-! ## White space -/

/-- The code points of white space. -/
def blankCodes : List Nat :=
  [0x9, 0xa, 0xb, 0xc, 0xd, 0x20, 0x85, 0xa0, 0x1680, 0x2000, 0x2001, 0x2002, 0x2003, 0x2004, 0x2005, 0x2006, 0x2007,
   0x2008, 0x2009, 0x200a, 0x2028, 0x2029, 0x202f, 0x205f, 0x3000]

theorem mem_blankCodes {c : Char} (h : isBlank c = true) : c.toNat ∈ blankCodes := by
  simp only [isBlank, Bool.or_eq_true, Bool.and_eq_true, decide_eq_true_eq] at h
  simp only [blankCodes, List.mem_cons, List.not_mem_nil, or_false]
  omega

/-- White space has no case, and is not passed over either. -/
theorem plain_of_isBlank {c : Char} (h : isBlank c = true) :
    inRanges ignorableRanges c.toNat = false ∧ inRanges casedRanges c.toNat = false := by
  have hplain : ∀ n ∈ blankCodes, inRanges ignorableRanges n = false ∧ inRanges casedRanges n = false := by
    decide +kernel
  exact hplain _ (mem_blankCodes h)

/-- Behind white space nothing is looked at. -/
theorem casedAhead_append {cs blanks : List Char} (h : ∀ c ∈ blanks, isBlank c = true) :
    casedAhead (cs ++ blanks) = casedAhead cs := by
  unfold casedAhead
  rw [List.dropWhile_append]
  cases cs.dropWhile fun c => inRanges ignorableRanges c.toNat with
  | cons c rest => rfl
  | nil =>
    cases blanks with
    | nil => rfl
    | cons b blanks =>
      obtain ⟨hstop, hplain⟩ := plain_of_isBlank (h b List.mem_cons_self)
      rw [List.dropWhile_cons_of_neg (by simp [hstop])]
      exact hplain

theorem keepsSigmas_of_allBlank {before after : String} (hbefore : allBlank before = true)
    (hafter : allBlank after = true) (part : String) : KeepsSigmas before part after := by
  rw [allBlank, List.all_eq_true] at hbefore hafter
  intro p q _
  rw [endsWord, endsWord, casedAhead_append fun c hc => hbefore c (List.mem_reverse.mp hc), casedAhead_append hafter]

theorem hasPart_lower_trim (s : String) : hasPart (lower s) (lower (trim s)) = true := by
  obtain ⟨⟨before, after, hs, hbefore, hafter⟩, -⟩ := isCore_trim s
  have h := hasPart_lower (keepsSigmas_of_allBlank hbefore hafter (trim s))
  rwa [← hs] at h

end RetreatDesk.Text
