import TermView.Console.Surface
import TermView.Proofs.CanvasPixels
import TermView.Proofs.FrameDrawings

namespace TermView

namespace Painter

variable {σ τ : Type} [Surface σ] [Surface τ]

theorem draw_related {R : σ → τ → Prop}
    (hfill : ∀ s t r color opacity, R s t →
      R (Surface.fill s r color opacity) (Surface.fill t r color opacity))
    (hglyph : ∀ s t char x y color, R s t →
      R (Surface.glyph s char x y color) (Surface.glyph t char x y color))
    (ds : List Drawing) {s : σ} {t : τ} (h : R s t) :
    R (ds.foldl Surface.draw s) (ds.foldl Surface.draw t) := by
  apply List.foldl_rel h
  intro d _ s t h
  cases d with
  | fill rect color opacity => exact hfill s t rect color opacity h
  | glyph char x y color => exact hglyph s t char x y color h

theorem painted_related {R : σ → τ → Prop}
    (hfill : ∀ s t r color opacity, R s t →
      R (Surface.fill s r color opacity) (Surface.fill t r color opacity))
    (hglyph : ∀ s t char x y color, R s t →
      R (Surface.glyph s char x y color) (Surface.glyph t char x y color))
    (hpresent : ∀ s t, R s t → R (Surface.present s).2 (Surface.present t).2)
    (p : Painter) (screen : Screen) {s : σ} {t : τ} (h : R s t) :
    R (p.painted screen s) (p.painted screen t) := by
  unfold painted
  cases hp : p.cellSize with
  | none =>
    rw [paint?, paint?, hp]
    exact h
  | some size =>
    rw [paint?_of_cellSize screen hp, paint?_of_cellSize screen hp]
    cases p.drawings? size screen with
    | none => exact h
    | some ds => exact hpresent _ _ (draw_related hfill hglyph ds h)

end Painter

namespace Surface

class FixedSize (σ : Type) [Surface σ] : Prop where
  size_fill (s : σ) (r : Rect) (color : Rgb) (opacity : Binary32) :
    size (fill s r color opacity) = size s
  size_glyph (s : σ) (char : Char) (x y : UInt32) (color : Rgb) :
    size (glyph s char x y color) = size s
  size_present (s : σ) : size (present s).2 = size s

theorem size_glyph_canvas (c : Canvas) (char : Char) (x y : UInt32) (color : Rgb) :
    size (c.glyph char x y color) = size c := by
  obtain ⟨hwidth, hheight, -⟩ := c.glyph_shape char x y color
  exact Prod.ext hwidth hheight

instance : FixedSize Canvas where
  size_fill _ _ _ _ := rfl
  size_glyph := size_glyph_canvas
  size_present _ := rfl

instance : FixedSize Recorder where
  size_fill _ _ _ _ := rfl
  size_glyph r := size_glyph_canvas r.canvas
  size_present _ := rfl

theorem canvas_present (d : Console.Display) : (Surface.present d).2.canvas = d.canvas := by
  change d.present.2.canvas = d.canvas
  unfold Console.Display.present
  split <;> rfl

instance : FixedSize Console.Display where
  size_fill _ _ _ _ := rfl
  size_glyph d := size_glyph_canvas d.canvas
  size_present d := congrArg (size (σ := Canvas)) (canvas_present d)

end Surface

namespace Painter

variable {σ : Type} [Surface σ] [Surface.FixedSize σ]

open Surface (size)

theorem size_painted (p : Painter) (screen : Screen) (s : σ) :
    size (p.painted screen s) = size s := by
  refine painted_related (R := fun t (_ : σ) => size t = size s) ?_ ?_ ?_ p screen (t := s) rfl
  · intro t _ r color opacity h
    exact (Surface.FixedSize.size_fill t r color opacity).trans h
  · intro t _ char x y color h
    exact (Surface.FixedSize.size_glyph t char x y color).trans h
  · intro t _ h
    exact (Surface.FixedSize.size_present t).trans h

theorem canvas_painted (p : Painter) (screen : Screen) (d : Console.Display) :
    (p.painted screen d).canvas = p.painted screen d.canvas := by
  refine painted_related (R := fun (d : Console.Display) (c : Canvas) => d.canvas = c)
    ?_ ?_ ?_ p screen rfl
  · rintro d _ r color opacity rfl
    rfl
  · rintro d _ char x y color rfl
    rfl
  · rintro d _ rfl
    exact Surface.canvas_present d

end Painter

end TermView
