import TermView.Surface

namespace TermView

structure Pixel where
  char : Char
  foreground : Rgb
  background : Rgb
deriving DecidableEq

namespace Pixel

def empty : Pixel := ⟨' ', .white, .black⟩

def fill (color : Rgb) (opacity : Binary32) (p : Pixel) : Pixel :=
  if Binary32.one ≤ opacity then ⟨' ', p.foreground, color⟩
  else ⟨p.char, color.blendOver p.foreground opacity, color.blendOver p.background opacity⟩

def draw (c : Char) (color : Rgb) (p : Pixel) : Pixel := ⟨c, color, p.background⟩

end Pixel

structure Canvas where
  width : UInt32
  height : UInt32
  font : Option Font
  pixels : Array Pixel
deriving DecidableEq

namespace Canvas

def blank (width height : UInt32) : Canvas :=
  ⟨width, height, none, Array.replicate (width.toNat * height.toNat) .empty⟩

def resize (c : Canvas) (width height : UInt32) : Canvas :=
  { blank width height with font := c.font }

def index (c : Canvas) (x y : Nat) : Nat := y * c.width.toNat + x

def get? (c : Canvas) (x y : Nat) : Option Pixel :=
  if x < c.width.toNat ∧ y < c.height.toNat then c.pixels[c.index x y]? else none

def row (c : Canvas) (y : Nat) : List Pixel := (List.range c.width.toNat).filterMap (c.get? · y)

def line (c : Canvas) (y : Nat) : String := String.ofList ((c.row y).map Pixel.char)

def modifyRect (c : Canvas) (r : Rect) (f : Pixel → Pixel) : Canvas :=
  let stride := c.width.toNat
  let left := r.x.toNat
  let right := min (left + r.width.toNat) stride
  let top := r.y.toNat
  let bottom := min (top + r.height.toNat) c.height.toNat
  let modifyRow (pixels : Array Pixel) (y : Nat) : Array Pixel :=
    (List.range' (y * stride + left) (right - left)).foldl (fun ps i => ps.modify i f) pixels
  { c with pixels := (List.range' top (bottom - top)).foldl modifyRow c.pixels }

def fill (c : Canvas) (r : Rect) (color : Rgb) (opacity : Binary32) : Canvas :=
  c.modifyRect r (Pixel.fill color opacity)

def glyph (c : Canvas) (char : Char) (x y : UInt32) (color : Rgb) : Canvas :=
  if x < c.width ∧ y < c.height then
    { c with pixels := c.pixels.modify (c.index x.toNat y.toNat) (Pixel.draw char color) }
  else c

instance : Surface Canvas where
  attach c := (.ok (), c)
  size c := (c.width, c.height)
  setFont c font := { c with font := some font }
  glyphWidth _ _ := .one
  lineHeight _ := .one
  fill := fill
  glyph := glyph
  present c := (.ok (), c)

end Canvas

end TermView
