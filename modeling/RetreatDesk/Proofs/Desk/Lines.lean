import RetreatDesk.Proofs.Desk.View
import RetreatDesk.Proofs.View.Table
import RetreatDesk.Proofs.Web.Request

/-!
# One line for each row

* `OnOneLine`: texts side by side that leave a line whole.
* `newline_notMem_tableLine_iff`: a line of a table is whole exactly if its texts leave it so.
* `Cell.text_of_newline`: of all cells a text alone can break a line.
* `ViewOutput.lines_table_iff`: when a table has one line for each row.
* `Desk.not_lines_table`: it need not have, if there is a line break in a name.
-/

namespace RetreatDesk

/-! ## Lines that are whole -/

/-- The texts leave the line whole in which they stand side by side: there is no line break in them, save in the white
space at the end of the last one, which is cut. -/
def OnOneLine : List String → Prop
  | [] => True
  | [text] => '\n' ∉ (Text.trimEnd text).toList
  | text :: next :: rest => '\n' ∉ text.toList ∧ OnOneLine (next :: rest)

instance decidableOnOneLine : DecidablePred OnOneLine
  | [] => inferInstanceAs (Decidable True)
  | [text] => inferInstanceAs (Decidable ('\n' ∉ (Text.trimEnd text).toList))
  | text :: next :: rest =>
    have := decidableOnOneLine (next :: rest)
    inferInstanceAs (Decidable ('\n' ∉ text.toList ∧ OnOneLine (next :: rest)))

namespace Text

variable {mark : Char}

theorem mem_dropBlanksEnd_append {cs : List Char} (h : ∃ c ∈ cs, isBlank c = false) (front : List Char) :
    mark ∈ dropBlanksEnd (front ++ cs) ↔ mark ∈ front ∨ mark ∈ dropBlanksEnd cs := by
  obtain ⟨c, hc, hsolid⟩ := h
  have hrest : (cs.reverse.dropWhile isBlank).isEmpty = false := by
    rw [List.isEmpty_eq_false_iff, Ne, List.dropWhile_eq_nil_iff]
    intro hall
    rw [hall c (List.mem_reverse.mpr hc)] at hsolid
    cases hsolid
  rw [dropBlanksEnd, List.reverse_append, dropBlanks, List.dropWhile_append, hrest, if_neg Bool.false_ne_true,
    List.reverse_append, List.reverse_reverse, List.mem_append]
  rfl

theorem mem_dropBlanksEnd_cons {c : Char} (h : mark ≠ c) (cs : List Char) :
    mark ∈ dropBlanksEnd (c :: cs) ↔ mark ∈ dropBlanksEnd cs := by
  by_cases hblank : ∀ d ∈ cs, isBlank d = true
  · have hnothing : dropBlanksEnd cs = [] := dropBlanksEnd_eq_nil_iff.mpr hblank
    have hfirst : mark ∉ dropBlanksEnd [c] := fun hmem => by
      obtain ⟨after, hafter, -⟩ := exists_dropBlanksEnd [c]
      exact h (List.mem_singleton.mp (hafter ▸ List.mem_append_left after hmem))
    rw [hnothing, ← List.singleton_append, dropBlanksEnd_append hblank]
    exact iff_of_false hfirst List.not_mem_nil
  · obtain ⟨d, hd, hsolid⟩ : ∃ d ∈ cs, isBlank d = false := by simpa using hblank
    rw [← List.singleton_append, mem_dropBlanksEnd_append ⟨d, hd, hsolid⟩, List.mem_singleton, or_iff_right h]

end Text

theorem newline_mem_padRight {width : Nat} {s : String} : '\n' ∈ (padRight width s).toList ↔ '\n' ∈ s.toList := by
  simp [padRight, String.toList_append]

/-- A bar is solid: what is cut from the end is cut from the texts behind it. -/
theorem newline_notMem_trimEnd_bar (front back : String) :
    '\n' ∉ (Text.trimEnd (front ++ " | " ++ back)).toList ↔
      '\n' ∉ front.toList ∧ '\n' ∉ (Text.trimEnd back).toList := by
  have hbar : (" | " ++ back).toList = ' ' :: '|' :: ' ' :: back.toList := by simp
  have hsolid : ∃ c ∈ (" | " ++ back).toList, Text.isBlank c = false := ⟨'|', by simp, rfl⟩
  have hcut : '\n' ∈ Text.dropBlanksEnd (" | " ++ back).toList ↔ '\n' ∈ Text.dropBlanksEnd back.toList := by
    rw [hbar, Text.mem_dropBlanksEnd_cons (by decide), Text.mem_dropBlanksEnd_cons (by decide),
      Text.mem_dropBlanksEnd_cons (by decide)]
  rw [Text.trimEnd, Text.trimEnd, String.toList_ofList, String.toList_ofList, String.append_assoc,
    String.toList_append, Text.mem_dropBlanksEnd_append hsolid, hcut, not_or]

/-- A line of a table is whole exactly if its texts leave it so. -/
theorem newline_notMem_tableLine_iff {widths : List Nat} {texts : List String} (h : widths.length = texts.length) :
    '\n' ∉ (tableLine widths texts).toList ↔ OnOneLine texts := by
  unfold tableLine
  induction texts using OnOneLine.induct generalizing widths with
  | case1 => simp [OnOneLine, Text.trimEnd, Text.dropBlanksEnd, Text.dropBlanks]
  | case2 text =>
    obtain ⟨width, rfl⟩ := List.length_eq_one_iff.mp h
    have hblank : ∀ c ∈ List.replicate (width - text.length) ' ', Text.isBlank c = true := fun c hc => by
      rw [List.eq_of_mem_replicate hc]
      rfl
    rw [List.zipWith_cons_cons, List.zipWith_nil_left, String.intercalate_singleton, padRight, Text.trimEnd,
      String.toList_append, String.toList_ofList, String.toList_ofList, Text.dropBlanksEnd_append hblank, OnOneLine,
      Text.trimEnd, String.toList_ofList]
  | case3 text next rest ih =>
    cases widths with
    | nil => cases h
    | cons width widths =>
      have hrest := ih (Nat.succ.inj h)
      cases widths with
      | nil => cases Nat.succ.inj h
      | cons width' widths =>
        rw [List.zipWith_cons_cons] at hrest
        rw [List.zipWith_cons_cons, List.zipWith_cons_cons, String.intercalate_cons_cons, newline_notMem_trimEnd_bar,
          newline_mem_padRight, hrest, OnOneLine]

theorem onOneLine_of_notMem {texts : List String} (h : ∀ text ∈ texts, '\n' ∉ text.toList) : OnOneLine texts := by
  induction texts using OnOneLine.induct with
  | case1 => trivial
  | case2 text =>
    obtain ⟨after, hafter, -⟩ := Text.exists_dropBlanksEnd text.toList
    rw [OnOneLine, Text.trimEnd, String.toList_ofList]
    exact fun hmem => h text List.mem_cons_self (hafter ▸ List.mem_append_left after hmem)
  | case3 text next rest ih =>
    obtain ⟨htext, hrest⟩ := List.forall_mem_cons.mp h
    exact ⟨htext, ih hrest⟩

/-! ## Texts that may hold a line break -/

theorem newline_notMem_repr (n : Nat) : '\n' ∉ n.repr.toList := by
  intro h
  have hdigit := Nat.isDigit_of_mem_toDigits (b := 10) (by decide) (by decide) (by simpa using h)
  cases hdigit

theorem Decimal.newline_notMem_pointed (n places : Nat) : '\n' ∉ pointed n places := by
  have hdigits : '\n' ∉ List.replicate (places + 1 - n.repr.toList.length) '0' ++ n.repr.toList := by
    rw [List.mem_append, not_or]
    exact ⟨fun h => absurd (List.eq_of_mem_replicate h) (by decide), newline_notMem_repr n⟩
  unfold pointed
  split
  · exact hdigits
  · rw [List.mem_append, List.mem_append, not_or, not_or]
    exact ⟨⟨fun h => hdigits (List.mem_of_mem_take h), by decide⟩, fun h => hdigits (List.mem_of_mem_drop h)⟩

theorem Decimal.newline_notMem_fixed (places : Nat) (x : Float) : '\n' ∉ (fixed places x).toList := by
  unfold fixed
  split
  · decide
  · split
    · decide
    · decide
  · rw [String.toList_ofList, List.mem_append, not_or]
    refine ⟨?_, newline_notMem_pointed _ _⟩
    split
    · decide
    · decide

/-- Of all cells a text alone can break a line. -/
theorem Cell.text_of_newline {cell : Cell} (h : '\n' ∈ cell.display.toList) :
    ∃ s, cell = .text s ∧ '\n' ∈ s.toList := by
  cases cell with
  | bool b => cases b <;> exact absurd h (by decide)
  | number x =>
    rw [display] at h
    split at h
    · exact absurd h (Decimal.newline_notMem_fixed _ _)
    · exact absurd h (Decimal.newline_notMem_fixed _ _)
  | text s => exact ⟨s, rfl, h⟩

/-! ## Tables -/

theorem toList_join_lines (lines : List String) :
    (String.join (lines.map (· ++ "\n"))).toList = ['\n'].intercalate ((lines ++ [""]).map String.toList) := by
  induction lines with
  | nil => rfl
  | cons line rest ih =>
    rw [List.map_cons, String.join_cons, String.toList_append, ih, String.toList_append]
    cases rest with
    | nil => simp [List.intercalate]
    | cons next rest => simp [List.intercalate]

namespace ViewOutput

theorem newline_notMem_rule (widths : List Nat) :
    '\n' ∉ (tableLine widths (widths.map fun width => String.ofList (List.replicate width '-'))).toList := by
  refine (newline_notMem_tableLine_iff (List.length_map _).symm).mpr (onOneLine_of_notMem fun text htext => ?_)
  obtain ⟨width, -, rfl⟩ := List.mem_map.mp htext
  rw [String.toList_ofList]
  exact fun h => absurd (List.eq_of_mem_replicate h) (by decide)

theorem newline_notMem_count (n : Nat) : '\n' ∉ ("(" ++ n.repr ++ " row(s))").toList := by
  rw [String.toList_append, String.toList_append, List.mem_append, List.mem_append, not_or, not_or]
  exact ⟨⟨by decide, newline_notMem_repr n⟩, by decide⟩

theorem tableLines_whole_iff (o : ViewOutput) (showHidden : Bool) :
    (∀ line ∈ o.tableLines showHidden, '\n' ∉ line.toList) ↔
      OnOneLine (o.headers (o.shownColumns showHidden)) ∧
        ∀ row ∈ o.rows, OnOneLine (rowTexts (o.shownColumns showHidden) row) := by
  generalize hshown : o.shownColumns showHidden = shown
  have hrows := o.length_rowTexts shown
  generalize hwidths : widths (o.headers shown) (o.rows.map (rowTexts shown)) = ws
  have hwhole : ∀ texts ∈ o.headers shown :: o.rows.map (rowTexts shown),
      ('\n' ∉ (tableLine ws texts).toList ↔ OnOneLine texts) := fun texts htexts =>
    newline_notMem_tableLine_iff (hwidths ▸ (forall₂_widths hrows htexts).length_eq)
  obtain ⟨hheads, hbodies⟩ := List.forall_mem_cons.mp hwhole
  have hlines : o.tableLines showHidden = [tableLine ws (o.headers shown),
      tableLine ws (ws.map fun width => String.ofList (List.replicate width '-'))] ++
        (o.rows.map (rowTexts shown)).map (tableLine ws) ++ ["(" ++ o.rows.length.repr ++ " row(s))"] := by
    rw [tableLines, hshown, hwidths]
  rw [hlines, List.forall_mem_append, List.forall_mem_append, List.forall_mem_cons, List.forall_mem_singleton,
    List.forall_mem_singleton, and_iff_left (newline_notMem_rule ws), and_iff_left (newline_notMem_count o.rows.length),
    hheads]
  refine and_congr_right fun _ => ?_
  rw [List.forall_mem_map, List.forall_mem_map]
  exact forall₂_congr fun row hrow => hbodies _ (List.mem_map_of_mem hrow)

/-- A row shows what its cells hold, and nothing where there is no cell. -/
theorem newline_notMem_rowTexts {row : ViewRow} (h : ∀ s, Cell.text s ∈ row.cells → '\n' ∉ s.toList)
    (shown : List Nat) : ∀ text ∈ rowTexts shown row, '\n' ∉ text.toList := by
  intro text htext hmem
  obtain ⟨i, -, rfl⟩ := List.mem_map.mp htext
  cases hcell : row.cells[i]? with
  | none =>
    rw [hcell] at hmem
    cases hmem
  | some cell =>
    rw [hcell] at hmem
    obtain ⟨s, rfl, hs⟩ := Cell.text_of_newline hmem
    exact h s (List.mem_of_getElem? hcell) hs

theorem parts_table_iff (o : ViewOutput) (showHidden : Bool) :
    Web.parts '\n' (o.table showHidden) = o.tableLines showHidden ++ [""] ↔
      ∀ line ∈ o.tableLines showHidden, '\n' ∉ line.toList := by
  rw [Web.parts_eq_iff (by simp), table, toList_join_lines, and_iff_left rfl, List.forall_mem_append,
    and_iff_left (by simp)]

/-- Cut at its line breaks, a table falls into the heads, the rule, a line for each row and the number of rows, and
nothing else, if and only if the heads and the texts of each row leave their lines whole. They do where no head and no
text in a cell holds a line break; truth values and numbers never break a line. -/
theorem lines_table_iff (o : ViewOutput) (showHidden : Bool) :
    (Web.parts '\n' (o.table showHidden) = o.tableLines showHidden ++ [""] ↔
      OnOneLine (o.headers (o.shownColumns showHidden)) ∧
        ∀ row ∈ o.rows, OnOneLine (rowTexts (o.shownColumns showHidden) row)) ∧
    ((∀ head ∈ o.headers (o.shownColumns showHidden), '\n' ∉ head.toList) →
      (∀ row ∈ o.rows, ∀ s, Cell.text s ∈ row.cells → '\n' ∉ s.toList) →
        Web.parts '\n' (o.table showHidden) = o.tableLines showHidden ++ [""]) := by
  refine ⟨(parts_table_iff o showHidden).trans (tableLines_whole_iff o showHidden), fun hheads hcells => ?_⟩
  rw [parts_table_iff, tableLines_whole_iff]
  exact ⟨onOneLine_of_notMem hheads, fun row hrow => onOneLine_of_notMem (newline_notMem_rowTexts (hcells row hrow) _)⟩

end ViewOutput

namespace Desk

/-- A guest with a line break in her name, as a document, with a view of the names and one of the keys. -/
def guestBook : Json :=
  .record
    [("participants", .list [.record [("id", .text "p-001"), ("first", .text "Ann\nLee")]]),
     ("events", .list [.record [("aid", .text Demo.aid)]]),
     ("views", .list
       [.record [("name", .text "names"), ("columnDefs", .list [.record [("name", .text "name")]])],
        .record [("name", .text "keys"), ("columnDefs", .list [.record [("name", .text "id")]])]])]

def ann : Participant := { id := "p-001", first := "Ann\nLee" }

def namesView : View := { name := "names", columns := [{ name := "name" }] }

def keysView : View := { name := "keys", columns := [{ name := "id" }] }

def guests : Snapshot where
  participants := [ann]
  events := [{ aid := Demo.aid }]
  views := [namesView, keysView]

theorem reached_guests : (ofSnapshot guests).Reached := by
  have hloaded : Snapshot.layout.read (.value guestBook) = .ok guests := rfl
  exact .loaded hloaded

/-- What a view shows of the guest. -/
def guestOutput (v : View) : ViewOutput := v.output (Scope.of .empty { aid := Demo.aid } none) none [ann]

/-- The table of the keys has one line for each guest, the table of the names has not. -/
theorem lines_table_guests :
    (ofSnapshot guests).view "keys" ⟨Demo.aid, none, none⟩ = .ok (guestOutput keysView) ∧
      (ofSnapshot guests).view "names" ⟨Demo.aid, none, none⟩ = .ok (guestOutput namesView) ∧
      Web.parts '\n' ((guestOutput keysView).table false) = (guestOutput keysView).tableLines false ++ [""] ∧
      Web.parts '\n' ((guestOutput namesView).table false) ≠ (guestOutput namesView).tableLines false ++ [""] := by
  obtain ⟨-, hwhole⟩ := (guestOutput keysView).lines_table_iff false
  obtain ⟨hbroken, -⟩ := (guestOutput namesView).lines_table_iff false
  have hkeys : (guestOutput keysView).rows = [⟨"p-001", [.text "p-001", .text ""]⟩] := rfl
  have hnames : (guestOutput namesView).rows = [⟨"p-001", [.text "Ann\nLee", .text "p-001", .text ""]⟩] := rfl
  have hshown : (guestOutput namesView).shownColumns false = [0] := by decide +kernel
  refine ⟨rfl, rfl, hwhole (by decide +kernel) ?_, fun hlines => ?_⟩
  · rw [hkeys]
    rintro row hrow s hs
    obtain rfl := List.mem_singleton.mp hrow
    have htext : s = "p-001" ∨ s = "" := by simpa using hs
    rcases htext with rfl | rfl
    · decide
    · decide
  · obtain ⟨-, hrows⟩ := hbroken.mp hlines
    rw [hnames, hshown, List.forall_mem_singleton] at hrows
    exact absurd hrows (by decide)

/-- So not every table has one line for each row, three more, and nothing behind the last line break. -/
theorem not_lines_table : ¬ ∀ (d : Desk), d.Reached → ∀ (key : String) (r : ViewRequest) (o : ViewOutput),
    d.view key r = .ok o → ∀ showHidden, (Web.parts '\n' (o.table showHidden)).length = o.rows.length + 4 := by
  intro h
  have hlines := h _ reached_guests "names" ⟨Demo.aid, none, none⟩ (guestOutput namesView) rfl false
  revert hlines
  decide +kernel

end Desk

end RetreatDesk
