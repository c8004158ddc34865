import TermView.Canvas

namespace TermView

inductive Drawing where
  | fill (rect : Rect) (color : Rgb) (opacity : Binary32)
  | glyph (char : Char) (x y : UInt32) (color : Rgb)
deriving DecidableEq

structure Recorder where
  canvas : Canvas
  metrics : Option (Binary32 × Binary32)
  attachFailure : Option SurfaceError
  presentFailure : Option SurfaceError
  recording : Bool
  drawings : Array Drawing
  frames : Nat
deriving DecidableEq

namespace Recorder

def note (r : Recorder) (d : Drawing) : Recorder :=
  if r.recording then { r with drawings := r.drawings.push d } else r

instance : Surface Recorder where
  attach r := (r.attachFailure.elim (.ok ()) .error, r)
  size r := Surface.size r.canvas
  setFont r font := { r with canvas := Surface.setFont r.canvas font }
  glyphWidth r c := (r.metrics.map Prod.fst).getD (Surface.glyphWidth r.canvas c)
  lineHeight r := (r.metrics.map Prod.snd).getD (Surface.lineHeight r.canvas)
  fill r rect color opacity :=
    { r.note (.fill rect color opacity) with canvas := r.canvas.fill rect color opacity }
  glyph r char x y color :=
    { r.note (.glyph char x y color) with canvas := r.canvas.glyph char x y color }
  present r := (r.presentFailure.elim (.ok ()) .error, { r with frames := r.frames + 1 })

end Recorder

end TermView
