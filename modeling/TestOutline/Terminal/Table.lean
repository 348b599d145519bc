/-
**Tables and trees on a terminal.** Tables have a title in the middle above them and a frame with a
heavy head; trees have lines that lead to the labels below one another.

* `Table.render` — the lines of a table whose texts are marked.
* `Tree.render` — the lines of a tree whose labels are marked.
-/

import TestOutline.Terminal.Markup
import TestOutline.Text.Lines
import TestOutline.Text.Width
import TestOutline.Tree

namespace TestOutline

/-- A table of marked texts. -/
structure Table where
  title : Text
  heads : List Text
  rows : List (List Text)

namespace Table

def blanks (count : Nat) : Text := List.replicate count (.scalar ' ')

/-- The text with blanks behind it up to a width. -/
def padded (width : Nat) (text : Text) : Text := text ++ blanks (width - text.width)

/-- The text in the middle of a width; a blank that is left over goes to the right. -/
def centered (width : Nat) (text : Text) : Text :=
  let left := blanks ((width - text.width) / 2)
  padded width (left ++ text)

/-- A cell: the lines of its text. -/
abbrev Cell := List Text

/-- The width of a cell's text. -/
def cellWidth (cell : Cell) : Nat := (cell.map Text.width).foldl max 0

/-- The greatest widths in the columns of some rows. -/
def columnWidths (rows : List (List Cell)) : List Nat :=
  rows.foldl (fun widths row => List.zipWith max widths (row.map cellWidth))
    (rows.headD [] |>.map fun _ => 0)

/-- What a frame is drawn with, from left to right: its left edge, what it is filled with, what
stands between columns, and its right edge. -/
structure Frame where
  left : Char
  fill : Char
  between : Char
  right : Char

/-- A line of a frame over columns of some widths. -/
def Frame.line (frame : Frame) (widths : List Nat) : Text :=
  let parts : List Text := widths.map fun width => List.replicate (width + 2) (.scalar frame.fill)
  .scalar frame.left :: Text.join [.scalar frame.between] parts ++ [.scalar frame.right]

/-- The frame above the head. -/
def topFrame : Frame := ⟨'┏', '━', '┳', '┓'⟩

/-- The frame below the head. -/
def headFrame : Frame := ⟨'┡', '━', '╇', '┩'⟩

/-- The frame below the rows. -/
def bottomFrame : Frame := ⟨'└', '─', '┴', '┘'⟩

/-- The lines of a row between bars, as many as its highest cell has. -/
def rowLines (bar : Char) (widths : List Nat) (row : List Cell) : List Text :=
  let height := (row.map List.length).foldl max 1
  (List.range height).map fun index =>
    let texts := List.zipWith
      (fun width cell => (.scalar ' ') :: padded width (cell.getD index []) ++ blanks 1)
      widths row
    .scalar bar :: Text.join [.scalar bar] texts ++ [.scalar bar]

/-- The cell of a marked text. -/
def cellOf (text : Text) : Except Markup.Fault Cell := (Markup.render text).map Text.lines

/-- The lines of a table. -/
def render (table : Table) : Except Markup.Fault (List Text) := do
  let title ← Markup.render table.title
  let heads ← table.heads.mapM cellOf
  let rows ← table.rows.mapM (·.mapM cellOf)
  let widths := columnWidths (heads :: rows)
  let top := topFrame.line widths
  return centered top.width title :: top :: rowLines '┃' widths heads ++ [headFrame.line widths] ++
    rows.flatMap (rowLines '│' widths) ++ [bottomFrame.line widths]

end Table

namespace Tree

mutual

/-- The lines below a label: those of each tree, the last of which has no line beside what lies
below it. -/
def linesBelow : List (Tree Text) → List Text
  | [] => []
  | [last] => branch "└── " "    " last
  | tree :: rest => branch "├── " "│   " tree ++ linesBelow rest

/-- The lines of a tree behind a mark, and behind another one below its label. -/
def branch (mark below : Text) : Tree Text → List Text
  | .mk label children => (mark ++ label) :: (linesBelow children).map (below ++ ·)

end

/-- The lines of a tree. -/
def lines : Tree Text → List Text
  | .mk label children => label :: linesBelow children

mutual

/-- The tree with what its marked labels show. -/
def renderLabels : Tree Text → Except Markup.Fault (Tree Text)
  | .mk label children => do
    let label ← Markup.render label
    let children ← renderAll children
    return .mk label children

/-- Trees with what their marked labels show. -/
def renderAll : List (Tree Text) → Except Markup.Fault (List (Tree Text))
  | [] => .ok []
  | tree :: rest => do
    let first ← renderLabels tree
    let others ← renderAll rest
    return first :: others

end

/-- The lines of a tree whose labels are marked. -/
def render (tree : Tree Text) : Except Markup.Fault (List Text) := tree.renderLabels.map lines

end Tree

end TestOutline
