import TermView.Grid
import TermView.Text.Basic

/-!
The screen: a grid, a cursor and a pen. A character in the last column leaves the cursor one past
it; the next character then wraps to a new line. That place is reported as the last column.
-/

namespace TermView

structure Cursor where
  col : UInt16
  row : UInt16
deriving DecidableEq

def Cursor.home : Cursor := ⟨0, 0⟩

inductive Extent where
  | whole
  | fromCursor
deriving DecidableEq

inductive Direction where
  | up
  | down
  | left
  | right
deriving DecidableEq

structure Screen where
  grid : Grid
  cursor : Cursor
  pen : Pen
deriving DecidableEq

namespace Screen

def blank (cols rows : UInt16) : Screen := ⟨.blank cols rows, .home, .plain⟩

def cols (s : Screen) : UInt16 := s.grid.cols

def rows (s : Screen) : UInt16 := s.grid.rows

def stopAt (i : Nat) (size : UInt16) : UInt16 := .ofNat (min i (size.toNat - 1))

def position (s : Screen) : Cursor :=
  ⟨stopAt s.cursor.col.toNat s.cols, stopAt s.cursor.row.toNat s.rows⟩

def setForeground (s : Screen) (c : Color) : Screen := { s with pen.foreground := c }

def setBackground (s : Screen) (c : Color) : Screen := { s with pen.background := c }

def resetPen (s : Screen) : Screen := { s with pen := .plain }

def lineFeed (s : Screen) : Screen :=
  if s.cursor.row.toNat + 1 < s.rows.toNat then { s with cursor.row := s.cursor.row + 1 }
  else { s with grid := s.grid.scroll s.pen.blank, cursor.row := s.rows - 1 }

def carriageReturn (s : Screen) : Screen := { s with cursor.col := 0 }

def wrap (s : Screen) : Screen :=
  if s.cursor.col < s.cols then s else s.carriageReturn.lineFeed

def put (s : Screen) (c : Char) : Screen :=
  let s := s.wrap
  { s with
    grid := s.grid.set s.cursor.row.toNat s.cursor.col.toNat (s.pen.cell c)
    cursor.col := s.cursor.col + 1 }

def backspace (s : Screen) : Screen :=
  let col := s.cursor.col.toNat - 1
  { s with
    grid := s.grid.set s.cursor.row.toNat col s.pen.blank
    cursor.col := .ofNat col }

def tab (s : Screen) : Screen :=
  { s with cursor.col := stopAt ((s.cursor.col.toNat / 8 + 1) * 8) s.cols }

def erase (s : Screen) : Extent → Screen
  | .whole => { s with grid := s.grid.fillRows 0 s.pen.blank }
  | .fromCursor =>
    let row := s.cursor.row.toNat
    { s with
      grid := (s.grid.fillRow row s.cursor.col.toNat s.pen.blank).fillRows (row + 1) s.pen.blank }

def eraseLine (s : Screen) (e : Extent) : Screen :=
  let start := match e with
    | .whole => 0
    | .fromCursor => s.cursor.col.toNat
  { s with grid := s.grid.fillRow s.cursor.row.toNat start s.pen.blank }

def clear (s : Screen) : Extent → Screen
  | .whole => { s.erase .whole with cursor := .home }
  | .fromCursor => s.erase .fromCursor

def moveTo (s : Screen) (row col : UInt16) : Screen :=
  { s with cursor := ⟨stopAt (col.toNat - 1) s.cols, stopAt (row.toNat - 1) s.rows⟩ }

def move (s : Screen) (d : Direction) (n : UInt16) : Screen :=
  match d with
  | .up => { s with cursor.row := stopAt (s.cursor.row.toNat - n.toNat) s.rows }
  | .down => { s with cursor.row := stopAt (s.cursor.row.toNat + n.toNat) s.rows }
  | .left => { s with cursor.col := stopAt (s.cursor.col.toNat - n.toNat) s.cols }
  | .right => { s with cursor.col := stopAt (s.cursor.col.toNat + n.toNat) s.cols }

def resize? (s : Screen) (cols rows : UInt16) : Option Screen :=
  let cols := max cols 1
  let rows := max rows 1
  if cols = s.cols ∧ rows = s.rows then none
  else some { s with
    grid := s.grid.resize cols rows
    cursor := ⟨stopAt s.cursor.col.toNat cols, stopAt s.cursor.row.toNat rows⟩ }

def rowText (s : Screen) (row : Nat) : String :=
  String.ofList (Text.trimRight ((s.grid.row row).map Cell.char))

def rule (s : Screen) : List Char := List.replicate s.cols.toNat '─'

def pictureRow (s : Screen) (row : Nat) : List Char :=
  let chars := (s.grid.row row).map Cell.char
  if row = s.position.row.toNat then '>' :: chars.set s.position.col.toNat '█'
  else ' ' :: chars

def picture (s : Screen) : String :=
  let header := s!"=== Terminal {s.cols.toNat}x{s.rows.toNat} ==="
  let place := s!"Cursor: ({s.position.col.toNat}, {s.position.row.toNat})"
  let lines := [header.toList, place.toList, s.rule]
    ++ (List.range s.rows.toNat).map s.pictureRow ++ [s.rule]
  String.ofList (lines.flatMap (· ++ ['\n']))

end Screen

end TermView
