import TermView.Surface

namespace TermView

structure CellSize where
  width : UInt32
  height : UInt32
deriving DecidableEq

namespace CellSize

def wholePixels (x : Binary32) : UInt32 := .ofNat (min x.round 0xffffffff)

/-- A cell has the width of an `M` and the height of a line. Both must be finite and at least one
half, which is the least that rounds to a pixel. -/
def measure {σ : Type} [Surface σ] (surface : σ) : Except SurfaceError CellSize :=
  let width := Surface.glyphWidth surface 'M'
  let height := Surface.lineHeight surface
  if ¬ (width.isFinite ∧ height.isFinite) ∨ width < .half ∨ height < .half then
    .error (.unusableMetrics width height)
  else .ok ⟨wholePixels width, wholePixels height⟩

def count (pixels size : UInt32) : UInt16 := .ofNat (max 1 (min (pixels / size).toNat 65535))

def gridSize (s : CellSize) (area : UInt32 × UInt32) : UInt16 × UInt16 :=
  (count area.1 s.width, count area.2 s.height)

def product? (a b : UInt32) : Option UInt32 :=
  if a.toNat * b.toNat < UInt32.size then some (a * b) else none

def rect? (s : CellSize) (row col : Nat) : Option Rect := do
  let x ← product? (.ofNat col) s.width
  let y ← product? (.ofNat row) s.height
  return ⟨x, y, s.width, s.height⟩

end CellSize

end TermView
