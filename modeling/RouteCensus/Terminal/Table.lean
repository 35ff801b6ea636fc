import RouteCensus.Number.Double
import RouteCensus.Terminal.Markup

/-! # Tables

A table is drawn in a frame with a heavy header.  Columns are as wide as their
widest cell, with one blank on both sides.  Where the terminal has no room for
that, the widest columns whose text can be broken give way first.
-/

namespace RouteCensus.Terminal

structure Column where
  title : String
  /-- Whether text is broken between words where the column is narrow. -/
  wraps : Bool := true
  deriving DecidableEq, Repr

structure Table where
  columns : List Column
  rows : List (List String)
  deriving DecidableEq, Repr

namespace Table

/-- Whether a character ends a line of a cell when the cell is measured. -/
def isLineBreak (c : Char) : Bool :=
  c == '\n' || ('\x0b' ≤ c && c ≤ '\r') || ('\x1c' ≤ c && c ≤ '\x1e') || c == '\x85' || c == '\u2028' || c == '\u2029'

def textWidth (text : List Char) : Nat :=
  ((text.splitOnP isLineBreak).map Text.width).foldl max 0

/-- The width of a cell with the blanks on both sides, within a limit. -/
def cellWidth (limit : Nat) (text : List Char) : Nat :=
  min limit (textWidth text + 2)

def columnWidth (limit : Nat) (cells : List (List Char)) : Nat :=
  (cells.map (cellWidth limit)).foldl max 0

def totalWidth (widths : List Nat) : Nat :=
  widths.foldl (· + ·) 0

/-- A width that may be reduced, and by how much at most. -/
structure Slack where
  width : Nat
  most : Nat
  deriving DecidableEq, Repr

/-- Takes a total from some widths in equal parts, as far as they allow. -/
def reduce (total : Nat) : List Slack → List Nat
  | [] => []
  | s :: rest =>
    if s.most = 0 then s.width :: reduce total rest
    else
      let sharers := 1 + rest.countP fun s => s.most != 0
      let share := min s.most (Double.roundQuotient total sharers)
      (s.width - share) :: reduce (total - share) rest

/-- A step towards the limit: the widest columns that may give way shrink to the next widest. -/
def collapseStep (limit : Nat) (wraps : List Bool) (widths : List Nat) : List Nat :=
  let elastic := (widths.zip wraps).filterMap fun (w, wraps) => if wraps then some w else none
  let widest := elastic.foldl max 0
  let next := (elastic.filter (· != widest)).foldl max 0
  let excess := totalWidth widths - limit
  reduce excess ((widths.zip wraps).map fun (w, wraps) =>
    ⟨w, if wraps && w == widest then min excess (widest - next) else 0⟩)

/-- Takes as many steps as there is fuel, while the widths are beyond the limit. -/
def collapse (limit : Nat) (wraps : List Bool) : Nat → List Nat → List Nat
  | 0, widths => widths
  | fuel + 1, widths =>
    if totalWidth widths ≤ limit then widths else collapse limit wraps fuel (collapseStep limit wraps widths)

/-- Widths whose sum is within the limit: when nothing else helps, all columns give way. -/
def squeeze (limit : Nat) (wraps : List Bool) (widths : List Nat) : List Nat :=
  let widths := collapse limit wraps (totalWidth widths - limit) widths
  if totalWidth widths ≤ limit then widths
  else reduce (totalWidth widths - limit) (widths.map fun w => ⟨w, w⟩)

def columnWidths (limit : Nat) (wraps : List Bool) (columns : List (List (List Char))) : List Nat :=
  let widths := columns.map (columnWidth limit)
  if totalWidth widths ≤ limit then widths
  else (squeeze limit wraps widths).zipWith columnWidth columns

def rule (left fill cross right : Char) (widths : List Nat) : List Char :=
  left :: [cross].intercalate (widths.map fun w => List.replicate w fill) ++ [right]

def cellLines (width : Nat) (wraps : Bool) (cell : Marked) : Except Markup.Error (List (List Char)) :=
  match cell.lines? { width := width - 2, wraps := wraps } with
  | none => .error .color
  | some lines => .ok (lines.map fun line => fill width (' ' :: fill (width - 2) line ++ [' ']))

/-- The lines of a row from those of its cells, in columns of the given widths; a short cell stands
at the top or at the bottom. -/
def rowLines (bar : Char) (bottom : Bool) (widths : List Nat) (cells : List (List (List Char))) :
    List (List Char) :=
  let height := (cells.map List.length).foldl max 1
  let level := (widths.zip cells).map fun (width, lines) =>
    let blank := List.replicate (height - lines.length) (List.replicate width ' ')
    if bottom then blank ++ lines else lines ++ blank
  (List.range height).map fun i => bar :: [bar].intercalate (level.map fun lines => lines.getD i []) ++ [bar]

def column (t : Table) (i : Nat) (c : Column) : List String :=
  c.title :: t.rows.map fun row => row.getD i ""

end Table

/-- A terminal: its columns, and the names that stand for characters in the values of tags. -/
structure Screen where
  width : Nat := 500
  isCharName : List Char → Bool

namespace Screen

def messageLines (screen : Screen) (markup : String) : Except Markup.Error (List (List Char)) := do
  let text ← Markup.read screen.isCharName markup
  match text.lines? { width := screen.width, folds := true } with
  | none => throw .color
  | some lines => return lines

def tableLines (screen : Screen) (t : Table) : Except Markup.Error (List (List Char)) := do
  let columns ← (t.columns.mapIdx t.column).mapM fun cells => cells.mapM (Markup.read screen.isCharName)
  let frame := t.columns.length + 1
  let wraps := t.columns.map Column.wraps
  let widths := Table.columnWidths (screen.width - frame) wraps
    (columns.map fun cells => cells.map fun cell => chars cell.glyphs)
  let drawn ← ((widths.zip wraps).zip columns).mapM fun ((width, wraps), cells) =>
    cells.mapM (Table.cellLines width wraps)
  let drawn := drawn.map List.toArray
  let row := fun i => drawn.map fun cells => cells.getD i []
  return Table.rule '┏' '━' '┳' '┓' widths :: Table.rowLines '┃' true widths (row 0) ++
    Table.rule '┡' '━' '╇' '┩' widths ::
      (List.range t.rows.length).flatMap (fun i => Table.rowLines '│' false widths (row (i + 1))) ++
    [Table.rule '└' '─' '┴' '┘' widths]

end Screen
end RouteCensus.Terminal
