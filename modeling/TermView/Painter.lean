import TermView.CellSize
import TermView.Screen

namespace TermView

structure Painter where
  scheme : Scheme
  cursorOpacity : Binary32
  cellSize : Option CellSize
deriving DecidableEq

namespace Painter

variable {σ : Type} [Surface σ]

def drawCell (p : Painter) (surface : σ) (cell : Cell) (place : Rect) : σ :=
  let filled := Surface.fill surface place (p.scheme.resolveBackground cell.background) .one
  if cell.isBlank then filled
  else Surface.glyph filled cell.char place.x place.y (p.scheme.resolveForeground cell.foreground)

def paintRow? (p : Painter) (size : CellSize) (screen : Screen) (surface : σ) (row : Nat) :
    Option σ :=
  (screen.grid.row row).zipIdx.foldlM
    (fun surface (cell, col) => (size.rect? row col).map (p.drawCell surface cell)) surface

def paintCells? (p : Painter) (size : CellSize) (screen : Screen) (surface : σ) : Option σ :=
  (List.range screen.rows.toNat).foldlM (p.paintRow? size screen) surface

def paintCursor? (p : Painter) (size : CellSize) (screen : Screen) (surface : σ) : Option σ :=
  let cursor := screen.position
  (size.rect? cursor.row.toNat cursor.col.toNat).map fun place =>
    Surface.fill surface place p.scheme.foreground p.cursorOpacity

/-- Paints a frame, if all its cells have places. Without a cell size there is nothing to paint; a
frame that could not be presented is given up. -/
def paint? (p : Painter) (screen : Screen) (surface : σ) : Option σ :=
  match p.cellSize with
  | none => some surface
  | some size => do
    let surface ← p.paintCells? size screen surface
    let surface ← p.paintCursor? size screen surface
    return (Surface.present surface).2

end Painter

end TermView
