import TermView.Number.Shortest
import TermView.Rgb

namespace TermView

structure Font where
  family : String
  size : Binary32
deriving DecidableEq

structure Rect where
  x : UInt32
  y : UInt32
  width : UInt32
  height : UInt32
deriving DecidableEq

inductive SurfaceError where
  | unavailable (reason : String)
  | unusableMetrics (width height : Binary32)
  | io (reason : String)
deriving DecidableEq

def SurfaceError.message : SurfaceError → String
  | .unavailable reason => "Drawing context unavailable: " ++ reason
  | .unusableMetrics width height =>
    s!"Surface has no usable glyph metrics ({width.text}x{height.text})"
  | .io reason => "Surface I/O failed: " ++ reason

def SurfaceError.attachMessage (e : SurfaceError) : String :=
  "Failed to attach surface: " ++ e.message

/-- What a terminal asks of a surface. Attaching and presenting may fail; what they change before
they fail stays changed. -/
class Surface (σ : Type) where
  attach : σ → Except SurfaceError Unit × σ
  size : σ → UInt32 × UInt32
  setFont : σ → Font → σ
  glyphWidth : σ → Char → Binary32
  lineHeight : σ → Binary32
  fill : σ → Rect → Rgb → Binary32 → σ
  glyph : σ → Char → UInt32 → UInt32 → Rgb → σ
  present : σ → Except SurfaceError Unit × σ

end TermView
