import TermView.Palette

namespace TermView

structure Cell where
  char : Char
  foreground : Color
  background : Color
deriving DecidableEq

structure Pen where
  foreground : Color
  background : Color
deriving DecidableEq

def Pen.plain : Pen := ⟨.default, .default⟩

def Pen.cell (p : Pen) (c : Char) : Cell := ⟨c, p.foreground, p.background⟩

def Pen.blank (p : Pen) : Cell := p.cell ' '

def Cell.blank : Cell := Pen.plain.blank

def Cell.isBlank (c : Cell) : Bool := c.char == ' '

structure Grid where
  cols : UInt16
  rows : UInt16
  cells : Array Cell
deriving DecidableEq

namespace Grid

def blank (cols rows : UInt16) : Grid :=
  let cols := max cols 1
  let rows := max rows 1
  ⟨cols, rows, Array.replicate (rows.toNat * cols.toNat) .blank⟩

def index (g : Grid) (row col : Nat) : Nat := row * g.cols.toNat + col

def get? (g : Grid) (row col : Nat) : Option Cell :=
  if row < g.rows.toNat ∧ col < g.cols.toNat then g.cells[g.index row col]? else none

def row (g : Grid) (row : Nat) : List Cell :=
  if row < g.rows.toNat then
    (g.cells.extract (g.index row 0) (g.index row 0 + g.cols.toNat)).toList
  else []

def set (g : Grid) (row col : Nat) (cell : Cell) : Grid :=
  if row < g.rows.toNat ∧ col < g.cols.toNat then
    { g with cells := g.cells.setIfInBounds (g.index row col) cell }
  else g

def fillRow (g : Grid) (row start : Nat) (cell : Cell) : Grid :=
  if row < g.rows.toNat then
    let places := List.range' (g.index row start) (g.cols.toNat - start)
    { g with cells := places.foldl (fun cells i => cells.setIfInBounds i cell) g.cells }
  else g

def fillRows (g : Grid) (first : Nat) (cell : Cell) : Grid :=
  (List.range' first (g.rows.toNat - first)).foldl (fun g row => g.fillRow row 0 cell) g

def scroll (g : Grid) (cell : Cell) : Grid :=
  { g with
    cells := g.cells.extract g.cols.toNat g.cells.size ++ Array.replicate g.cols.toNat cell }

def resize (g : Grid) (cols rows : UInt16) : Grid :=
  let cols := max cols 1
  let rows := max rows 1
  ⟨cols, rows, Array.ofFn fun i : Fin (rows.toNat * cols.toNat) =>
    (g.get? (i / cols.toNat) (i % cols.toNat)).getD .blank⟩

end Grid

end TermView
