import RetreatDesk.View.Output

/-!
# Tables

* `padRight`: a text filled up with blanks.
* `ViewOutput.table`: a view as plain text, one line a row, the columns aligned.
-/

namespace RetreatDesk

/-- A text filled up with blanks to a number of characters. -/
def padRight (width : Nat) (s : String) : String :=
  s ++ String.ofList (List.replicate (width - s.length) ' ')

/-- The line of texts filled up to the widths, without blanks at its end. -/
def tableLine (widths : List Nat) (texts : List String) : String :=
  Text.trimEnd (String.intercalate " | " (List.zipWith padRight widths texts))

namespace ViewOutput

/-- The positions of the columns that a table shows. -/
def shownColumns (o : ViewOutput) (showHidden : Bool) : List Nat :=
  (o.plan.columns.zipIdx.filter fun (c, _) => showHidden || !c.hidden).map (·.2)

/-- The texts of a row under the columns at some positions; where there is no cell the text is empty. -/
def rowTexts (shown : List Nat) (r : ViewRow) : List String :=
  shown.map fun i => (r.cells[i]?.map Cell.display).getD ""

/-- The texts at the heads of the columns at some positions. -/
def headers (o : ViewOutput) (shown : List Nat) : List String :=
  shown.map fun i => (o.plan.columns[i]?.map (·.header)).getD ""

/-- The width of each column: the most characters among its head and its cells. -/
def widths (headers : List String) (rows : List (List String)) : List Nat :=
  headers.zipIdx.map fun (header, i) =>
    rows.foldl (fun w row => max w ((row[i]?.map String.length).getD 0)) header.length

/-- The lines of the table, the number of rows last. -/
def tableLines (o : ViewOutput) (showHidden : Bool) : List String :=
  let shown := o.shownColumns showHidden
  let heads := o.headers shown
  let rows := o.rows.map (rowTexts shown)
  let ws := widths heads rows
  let rule := ws.map fun w => String.ofList (List.replicate w '-')
  [tableLine ws heads, tableLine ws rule] ++ rows.map (tableLine ws) ++
    ["(" ++ o.rows.length.repr ++ " row(s))"]

/-- The view as plain text. -/
def table (o : ViewOutput) (showHidden : Bool) : String :=
  String.join ((o.tableLines showHidden).map (· ++ "\n"))

end ViewOutput

end RetreatDesk
