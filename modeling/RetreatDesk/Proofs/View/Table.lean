import RetreatDesk.View.Table
import RetreatDesk.Proofs.Text.Trim
import Mathlib.Data.List.Forall2
import Mathlib.Order.Bounds.Defs
import Mathlib.Order.MinMax

/-!
# Columns of a table

* `StandsAt`: a text stands in a line from a place on.
* `Aligned`: the texts of a line stand under columns of some widths.
* `aligned_tableLine`: texts that fit are aligned, whatever they are.
* `ViewOutput.isGreatest_widths`: a column is as wide as the longest text under it.
* `ViewOutput.table?`: the table, or nothing if a place is looked up that is not there.
* `ViewOutput.table_aligned`: every place is there, and all lines of a table are aligned under the same columns.
-/

namespace RetreatDesk

/-! ## Lines -/

/-- The text stands in the line from a place on. Where the line ends, white space at the end of the text may be missing;
if the line does not come so far, a text may be missing that is white space alone. -/
def StandsAt (start : Nat) (text line : String) : Prop :=
  (∃ before shown lost after, line = before ++ shown ++ after ∧ before.length = start ∧ text = shown ++ lost ∧
    Text.allBlank lost = true ∧ (lost = "" ∨ after = "")) ∨
  (line.length < start ∧ Text.allBlank text = true)

/-- The number of characters to the left of a column: the columns before it, each with a bar behind it. -/
def columnStart : List Nat → Nat → Nat
  | width :: widths, k + 1 => width + 3 + columnStart widths k
  | _, _ => 0

/-- The line holds one text for each column, filled up with blanks to the width of the column, and bars between them. -/
structure Aligned (widths : List Nat) (texts : List String) (line : String) : Prop where
  fits : List.Forall₂ (fun width text => String.length text ≤ width) widths texts
  /-- White space is cut from the end, and nothing besides. -/
  filled : ∃ cut, Text.allBlank cut = true ∧ line ++ cut = String.intercalate " | " (List.zipWith
    (fun width text => text ++ String.ofList (List.replicate (width - text.length) ' ')) widths texts)
  ended : ∀ c ∈ line.toList.getLast?, Text.isBlank c = false
  /-- A column starts at the same place in all lines. -/
  stands : ∀ k text, texts[k]? = some text → StandsAt (columnStart widths k) text line

theorem allBlank_append {s t : String} :
    Text.allBlank (s ++ t) = true ↔ Text.allBlank s = true ∧ Text.allBlank t = true := by
  simp [Text.allBlank, String.toList_append]

/-- Where a text is cut in two ways, one of the cuts comes no later than the other. -/
theorem append_eq_append_cases {s t u v : String} (h : s ++ t = u ++ v) :
    (∃ m, u = s ++ m ∧ t = m ++ v) ∨ ∃ m, s = u ++ m ∧ v = m ++ t := by
  have hchars : s.toList ++ t.toList = u.toList ++ v.toList := by
    rw [← String.toList_append, h, String.toList_append]
  rcases List.append_eq_append_iff.mp hchars with ⟨m, hu, ht⟩ | ⟨m, hs, hv⟩
  · exact .inl ⟨String.ofList m, String.toList_inj.mp (by simpa using hu), String.toList_inj.mp (by simpa using ht)⟩
  · exact .inr ⟨String.ofList m, String.toList_inj.mp (by simpa using hs), String.toList_inj.mp (by simpa using hv)⟩

/-- A text that stands in the line before white space was cut stands there still. -/
theorem standsAt_of_append {line cut before text after : String} (hcut : Text.allBlank cut = true)
    (h : line ++ cut = before ++ (text ++ after)) : StandsAt before.length text line := by
  rcases append_eq_append_cases h with ⟨m, rfl, rfl⟩ | ⟨m, rfl, hm⟩
  · obtain ⟨-, hblank⟩ := allBlank_append.mp hcut
    obtain ⟨htext, -⟩ := allBlank_append.mp hblank
    by_cases hnothing : m = ""
    · subst hnothing
      exact .inl ⟨line, "", text, "", by simp, by simp, by simp, htext, .inr rfl⟩
    · have hlength : 0 < m.length := Nat.pos_of_ne_zero fun hzero => hnothing (String.length_eq_zero_iff.mp hzero)
      rw [String.length_append]
      exact .inr ⟨by omega, htext⟩
  · rcases append_eq_append_cases hm with ⟨rest, rfl, rfl⟩ | ⟨lost, rfl, rfl⟩
    · exact .inl ⟨before, text, "", rest, by rw [String.append_assoc], rfl, by simp, rfl, .inl rfl⟩
    · obtain ⟨hlost, -⟩ := allBlank_append.mp hcut
      exact .inl ⟨before, m, lost, "", by simp, rfl, rfl, hlost, .inr rfl⟩

theorem length_padRight {width : Nat} {s : String} (h : s.length ≤ width) : (padRight width s).length = width := by
  rw [padRight, String.length_append, String.length_ofList, List.length_replicate]
  omega

theorem exists_intercalate_cons (bar field : String) (fields : List String) :
    ∃ after, String.intercalate bar (field :: fields) = field ++ after := by
  cases fields with
  | nil => exact ⟨"", by simp⟩
  | cons next rest => exact ⟨_, by rw [String.intercalate_cons_cons, String.append_assoc]⟩

/-- Before anything is cut from the line, a text stands where its column starts. -/
theorem exists_around {widths : List Nat} {texts : List String}
    (hfits : List.Forall₂ (fun width text => String.length text ≤ width) widths texts) {k : Nat} {text : String}
    (htext : texts[k]? = some text) :
    ∃ before after, String.intercalate " | " (List.zipWith padRight widths texts) = before ++ (text ++ after) ∧
      before.length = columnStart widths k := by
  induction hfits generalizing k with
  | nil => cases htext
  | @cons width first widths texts hfirst hrest ih =>
    rw [List.zipWith_cons_cons]
    cases k with
    | zero =>
      cases htext
      obtain ⟨after, hafter⟩ := exists_intercalate_cons " | " (padRight width text) (List.zipWith padRight widths texts)
      rw [padRight, String.append_assoc] at hafter
      exact ⟨"", _, hafter, rfl⟩
    | succ k =>
      obtain ⟨before, after, hline, hbefore⟩ := ih htext
      have hnext : List.zipWith padRight widths texts ≠ [] := by
        cases hrest with
        | nil => cases htext
        | cons => exact List.cons_ne_nil _ _
      refine ⟨padRight width first ++ " | " ++ before, after, ?_, ?_⟩
      · rw [String.intercalate_cons_of_ne_nil hnext, hline, ← String.append_assoc]
      · rw [String.length_append, String.length_append, length_padRight hfirst, hbefore, columnStart]
        rfl

theorem aligned_tableLine {widths : List Nat} {texts : List String}
    (hfits : List.Forall₂ (fun width text => String.length text ≤ width) widths texts) :
    Aligned widths texts (tableLine widths texts) := by
  obtain ⟨cut, hline, hcut⟩ :=
    Text.exists_dropBlanksEnd (String.intercalate " | " (List.zipWith padRight widths texts)).toList
  have hfilled : tableLine widths texts ++ String.ofList cut =
      String.intercalate " | " (List.zipWith padRight widths texts) := by
    rw [tableLine, Text.trimEnd, ← String.ofList_append, ← hline, String.ofList_toList]
  have hblank : Text.allBlank (String.ofList cut) = true := by
    simpa [Text.allBlank] using hcut
  refine ⟨hfits, ⟨_, hblank, hfilled⟩, ?_, fun k text htext => ?_⟩
  · rw [tableLine, Text.trimEnd, String.toList_ofList]
    exact Text.getLast?_dropBlanksEnd _
  · obtain ⟨before, after, hwhole, hbefore⟩ := exists_around hfits htext
    rw [← hbefore]
    exact standsAt_of_append hblank (hfilled.trans hwhole)

/-! ## Widths -/

/-- The numbers of characters that the texts under a column have. -/
def lengthsUnder (lines : List (List String)) (k : Nat) : Set Nat :=
  {n | ∃ texts ∈ lines, ∃ text, texts[k]? = some text ∧ text.length = n}

theorem le_foldl_max_iff {α : Type} (f : α → Nat) (l : List α) (start n : Nat) :
    n ≤ l.foldl (fun most a => max most (f a)) start ↔ n ≤ start ∨ ∃ a ∈ l, n ≤ f a := by
  induction l generalizing start with
  | nil => simp
  | cons a rest ih => rw [List.foldl_cons, ih, le_max_iff, or_assoc, List.exists_mem_cons_iff]

namespace ViewOutput

theorem getElem?_widths (heads : List String) (rows : List (List String)) (k : Nat) :
    (widths heads rows)[k]? = heads[k]?.map fun head =>
      rows.foldl (fun w row => max w ((row[k]?.map String.length).getD 0)) head.length := by
  rw [widths, List.getElem?_map, List.getElem?_zipIdx, Option.map_map, Nat.zero_add]
  rfl

theorem length_widths (heads : List String) (rows : List (List String)) :
    (widths heads rows).length = heads.length := by
  rw [widths, List.length_map, List.length_zipIdx]

/-- A column is as wide as the longest text under it. -/
theorem isGreatest_widths {heads : List String} {rows : List (List String)}
    (hrows : ∀ row ∈ rows, row.length = heads.length) {k width : Nat} (hwidth : (widths heads rows)[k]? = some width) :
    IsGreatest (lengthsUnder (heads :: rows) k) width := by
  rw [getElem?_widths] at hwidth
  obtain ⟨head, hhead, rfl⟩ := Option.map_eq_some_iff.mp hwidth
  have hgreatest := le_foldl_max_iff (fun row : List String => (row[k]?.map String.length).getD 0) rows head.length
  constructor
  · rcases (hgreatest _).mp le_rfl with hmost | ⟨row, hrow, hmost⟩
    · exact ⟨heads, List.mem_cons_self, head, hhead, le_antisymm ((hgreatest _).mpr (.inl le_rfl)) hmost⟩
    · have hlt : k < row.length := hrows row hrow ▸ (List.getElem?_eq_some_iff.mp hhead).1
      have htext : row[k]? = some row[k] := List.getElem?_eq_getElem hlt
      refine ⟨row, List.mem_cons_of_mem _ hrow, row[k], htext, le_antisymm ?_ (by simpa [htext] using hmost)⟩
      exact (hgreatest _).mpr (.inr ⟨row, hrow, by rw [htext]; rfl⟩)
  · rintro n ⟨texts, htexts, text, htext, rfl⟩
    rw [hgreatest]
    rcases List.mem_cons.mp htexts with rfl | htexts
    · rw [hhead] at htext
      cases htext
      exact .inl le_rfl
    · exact .inr ⟨texts, htexts, by rw [htext]; rfl⟩

/-- No text under a column is longer than the column is wide. -/
theorem forall₂_widths {heads : List String} {rows : List (List String)}
    (hrows : ∀ row ∈ rows, row.length = heads.length) {texts : List String} (htexts : texts ∈ heads :: rows) :
    List.Forall₂ (fun width text => String.length text ≤ width) (widths heads rows) texts := by
  have hlength : (widths heads rows).length = texts.length := by
    rw [length_widths]
    rcases List.mem_cons.mp htexts with rfl | hrow
    · rfl
    · exact (hrows texts hrow).symm
  refine List.forall₂_iff_get.mpr ⟨hlength, fun k hwidth htext => ?_⟩
  exact (isGreatest_widths hrows (List.getElem?_eq_getElem hwidth)).2
    ⟨texts, htexts, _, List.getElem?_eq_getElem htext, rfl⟩

/-! ## Tables -/

/-- The positions of the columns shown, from left to right. -/
structure ShownAt (o : ViewOutput) (showHidden : Bool) (shown : List Nat) : Prop where
  increasing : shown.Pairwise (· < ·)
  mem_iff : ∀ i, i ∈ shown ↔ ∃ column, o.plan.columns[i]? = some column ∧ (showHidden = true ∨ column.hidden = false)

theorem shownAt_shownColumns (o : ViewOutput) (showHidden : Bool) :
    o.ShownAt showHidden (o.shownColumns showHidden) := by
  constructor
  · have hall : (o.plan.columns.zipIdx.map (·.2)).Pairwise (· < ·) := by
      rw [List.zipIdx_map_snd]
      exact List.pairwise_lt_range'
    exact hall.sublist (List.filter_sublist.map _)
  · intro i
    rw [shownColumns, List.mem_map]
    constructor
    · rintro ⟨⟨column, j⟩, hmem, rfl⟩
      obtain ⟨hcolumn, hshown⟩ := List.mem_filter.mp hmem
      exact ⟨column, List.mem_zipIdx_iff_getElem?.mp hcolumn, by simpa using hshown⟩
    · rintro ⟨column, hcolumn, hshown⟩
      exact ⟨(column, i), List.mem_filter.mpr ⟨List.mem_zipIdx_iff_getElem?.mpr hcolumn, by simpa using hshown⟩, rfl⟩

/-- The texts at the heads of the columns at some positions, or nothing if there is no column at one of them. -/
def headers? (o : ViewOutput) (shown : List Nat) : Option (List String) :=
  shown.mapM fun i => o.plan.columns[i]?.map (·.header)

/-- The width of each column, or nothing if a row has no text under one of them. -/
def widths? (heads : List String) (rows : List (List String)) : Option (List Nat) :=
  heads.zipIdx.mapM fun (head, i) =>
    (rows.mapM fun row => row[i]?.map String.length).map fun lengths => lengths.foldl max head.length

/-- The view as plain text, or nothing if a column or a text is looked up at a place where there is none. -/
def table? (o : ViewOutput) (showHidden : Bool) : Option String := do
  let shown := o.shownColumns showHidden
  let heads ← o.headers? shown
  let rows := o.rows.map (rowTexts shown)
  let ws ← widths? heads rows
  let rule := ws.map fun w => String.ofList (List.replicate w '-')
  let lines := [tableLine ws heads, tableLine ws rule] ++ rows.map (tableLine ws)
  return String.join ((lines ++ ["(" ++ o.rows.length.repr ++ " row(s))"]).map (· ++ "\n"))

theorem mapM_eq_some_map {α β : Type} {f : α → Option β} {g : α → β} {l : List α} (h : ∀ a ∈ l, f a = some (g a)) :
    l.mapM f = some (l.map g) := by
  induction l with
  | nil => rfl
  | cons a rest ih =>
    obtain ⟨ha, hrest⟩ := List.forall_mem_cons.mp h
    rw [List.mapM_cons, ha, ih hrest]
    rfl

theorem headers?_eq {o : ViewOutput} {showHidden : Bool} {shown : List Nat} (h : o.ShownAt showHidden shown) :
    o.headers? shown = some (o.headers shown) := by
  refine mapM_eq_some_map fun i hi => ?_
  obtain ⟨column, hcolumn, -⟩ := (h.mem_iff i).mp hi
  rw [hcolumn]
  rfl

theorem widths?_eq {heads : List String} {rows : List (List String)} (hrows : ∀ row ∈ rows, row.length = heads.length) :
    widths? heads rows = some (widths heads rows) := by
  refine mapM_eq_some_map ?_
  rintro ⟨head, i⟩ hmem
  have hhead := List.mem_zipIdx_iff_getElem?.mp hmem
  have hlengths : (rows.mapM fun row => row[i]?.map String.length) =
      some (rows.map fun row => (row[i]?.map String.length).getD 0) := by
    refine mapM_eq_some_map fun row hrow => ?_
    have hlt : i < row.length := hrows row hrow ▸ (List.getElem?_eq_some_iff.mp hhead).1
    rw [List.getElem?_eq_getElem hlt]
    rfl
  simp only [hlengths, Option.map_some, List.foldl_map]

theorem length_rowTexts (o : ViewOutput) (shown : List Nat) :
    ∀ row ∈ o.rows.map (rowTexts shown), row.length = (o.headers shown).length := by
  intro row hrow
  obtain ⟨r, -, rfl⟩ := List.mem_map.mp hrow
  rw [rowTexts, headers, List.length_map, List.length_map]

theorem table?_eq (o : ViewOutput) (showHidden : Bool) : o.table? showHidden = some (o.table showHidden) := by
  have hheads := headers?_eq (o.shownAt_shownColumns showHidden)
  have hwidths := widths?_eq (o.length_rowTexts (o.shownColumns showHidden))
  simp only [table?, hheads, hwidths, Option.bind_eq_bind, Option.bind_some]
  rfl

/-- The texts are the heads of the columns at some positions. -/
structure HeadsAt (o : ViewOutput) (shown : List Nat) (heads : List String) : Prop where
  length_eq : heads.length = shown.length
  head : ∀ (k i : Nat), shown[k]? = some i →
    ∃ column : Column, o.plan.columns[i]? = some column ∧ heads[k]? = some column.header

/-- The texts are what the cells of a row at some positions hold; where the row has no cell the text is empty. -/
structure CellsAt (shown : List Nat) (row : ViewRow) (texts : List String) : Prop where
  length_eq : texts.length = shown.length
  cell : ∀ (k i : Nat) (cell : Cell), shown[k]? = some i → row.cells[i]? = some cell → texts[k]? = some cell.display
  empty : ∀ (k i : Nat), shown[k]? = some i → row.cells[i]? = none → texts[k]? = some ""

theorem headsAt_headers {o : ViewOutput} {showHidden : Bool} {shown : List Nat} (h : o.ShownAt showHidden shown) :
    o.HeadsAt shown (o.headers shown) := by
  refine ⟨List.length_map _, fun k i hi => ?_⟩
  obtain ⟨column, hcolumn, -⟩ := (h.mem_iff i).mp (List.mem_of_getElem? hi)
  refine ⟨column, hcolumn, ?_⟩
  rw [headers, List.getElem?_map, hi, Option.map_some, hcolumn]
  rfl

theorem cellsAt_rowTexts (shown : List Nat) (row : ViewRow) : CellsAt shown row (rowTexts shown row) := by
  refine ⟨List.length_map _, fun k i cell hi hcell => ?_, fun k i hi hnone => ?_⟩
  · rw [rowTexts, List.getElem?_map, hi, Option.map_some, hcell]
    rfl
  · rw [rowTexts, List.getElem?_map, hi, Option.map_some, hnone]
    rfl

/-- No place is looked up that is not there, and all lines are aligned under the same columns: the heads of the columns
shown, a rule as long as the columns are wide, and for each row, in order, what its cells under these columns hold. A
column is as wide as the longest of its texts, the head among them. The number of rows stands last. -/
theorem table_aligned (o : ViewOutput) (showHidden : Bool) :
    o.table? showHidden = some (o.table showHidden) ∧
    ∃ shown heads body widths head rule rows, o.ShownAt showHidden shown ∧ o.HeadsAt shown heads ∧
      List.Forall₂ (CellsAt shown) o.rows body ∧ widths.length = shown.length ∧
      (∀ k width, widths[k]? = some width → IsGreatest (lengthsUnder (heads :: body) k) width) ∧
      Aligned widths heads head ∧
      Aligned widths (widths.map fun width => String.ofList (List.replicate width '-')) rule ∧
      List.Forall₂ (Aligned widths) body rows ∧
      o.table showHidden =
        String.join ((head :: rule :: rows ++ ["(" ++ o.rows.length.repr ++ " row(s))"]).map (· ++ "\n")) := by
  have hshown := o.shownAt_shownColumns showHidden
  have hrows := o.length_rowTexts (o.shownColumns showHidden)
  refine ⟨table?_eq o showHidden, o.shownColumns showHidden, o.headers _, o.rows.map (rowTexts _), widths _ _, _, _,
    (o.rows.map (rowTexts _)).map (tableLine _), hshown, headsAt_headers hshown, ?_, ?_,
    fun k width hwidth => isGreatest_widths hrows hwidth, aligned_tableLine (forall₂_widths hrows List.mem_cons_self),
    aligned_tableLine ?_, ?_, rfl⟩
  · rw [List.forall₂_map_right_iff, List.forall₂_same]
    exact fun row _ => cellsAt_rowTexts _ row
  · rw [length_widths, headers, List.length_map]
  · rw [List.forall₂_map_right_iff, List.forall₂_same]
    intro width _
    rw [String.length_ofList, List.length_replicate]
  · rw [List.forall₂_map_right_iff, List.forall₂_same]
    exact fun texts htexts => aligned_tableLine (forall₂_widths hrows (List.mem_cons_of_mem _ htexts))

end ViewOutput

end RetreatDesk
