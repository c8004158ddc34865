import TermView.Proofs.ScreenInvariant
import TermView.Proofs.SurfaceLaws

/-!
What a painted frame shows. Every cell starts from an opaque fill, so what can be seen in the grid
depends on the screen alone, whatever the canvas held before; outside the grid nothing changes.
-/

namespace TermView

/-- What can be seen of a pixel: a foreground only where there is a glyph. -/
structure Sight where
  char : Char
  background : Rgb
  ink : Option Rgb
deriving DecidableEq

namespace Sight

def ofCell (scheme : Scheme) (cell : Cell) (corner : Prop) [Decidable corner] : Sight :=
  if corner ∧ cell.char ≠ ' ' then
    ⟨cell.char, scheme.resolveBackground cell.background,
      some (scheme.resolveForeground cell.foreground)⟩
  else ⟨' ', scheme.resolveBackground cell.background, none⟩

def cover (s : Sight) (color : Rgb) (opacity : Binary32) : Sight :=
  if Binary32.one ≤ opacity then ⟨' ', color, none⟩
  else ⟨s.char, color.blendOver s.background opacity,
    s.ink.map fun ink => color.blendOver ink opacity⟩

end Sight

namespace Pixel

def sight (p : Pixel) : Sight :=
  ⟨p.char, p.background, if p.char = ' ' then none else some p.foreground⟩

theorem sight_fill (p : Pixel) (color : Rgb) (opacity : Binary32) :
    (p.fill color opacity).sight = p.sight.cover color opacity := by
  unfold fill Sight.cover
  by_cases hopaque : Binary32.one ≤ opacity
  · rw [if_pos hopaque, if_pos hopaque]
    rfl
  · rw [if_neg hopaque, if_neg hopaque]
    by_cases hchar : p.char = ' ' <;> simp [sight, hchar]

theorem fill_opaque (p : Pixel) (color : Rgb) : p.fill color .one = ⟨' ', p.foreground, color⟩ :=
  if_pos (by decide)

end Pixel

namespace CellSize

structure Fits (s : CellSize) (cols rows : Nat) : Prop where
  width_pos : 0 < s.width.toNat
  height_pos : 0 < s.height.toNat
  width_lt : cols * s.width.toNat < UInt32.size
  height_lt : rows * s.height.toNat < UInt32.size

variable {s : CellSize} {cols rows row col : Nat}

theorem Fits.not_outgrown (h : s.Fits cols rows) : ¬ s.Outgrown cols rows :=
  not_outgrown_of_lt h.width_lt h.height_lt

theorem mem_interval {n : Nat} (hn : 0 < n) (i k : Nat) :
    i * n ≤ k ∧ k < i * n + n ↔ k / n = i := by
  rw [Nat.div_eq_iff hn]
  omega

theorem inside_place (h : s.Fits cols rows) (hrow : row < rows) (hcol : col < cols) (x y : Nat) :
    ((s.place row col).x.toNat ≤ x ∧
        x < (s.place row col).x.toNat + (s.place row col).width.toNat) ∧
      (s.place row col).y.toNat ≤ y ∧
        y < (s.place row col).y.toNat + (s.place row col).height.toNat ↔
      y / s.height.toNat = row ∧ x / s.width.toNat = col := by
  obtain ⟨hx, hy⟩ := toNat_place h.not_outgrown hrow hcol
  rw [hx, hy, and_comm]
  exact and_congr (mem_interval h.height_pos row y) (mem_interval h.width_pos col x)

def Corner (s : CellSize) (x y : Nat) : Prop := x % s.width.toNat = 0 ∧ y % s.height.toNat = 0

instance (s : CellSize) (x y : Nat) : Decidable (s.Corner x y) :=
  inferInstanceAs (Decidable (_ ∧ _))

theorem corner_place (h : s.Fits cols rows) (hrow : row < rows) (hcol : col < cols) (x y : Nat) :
    x = (s.place row col).x.toNat ∧ y = (s.place row col).y.toNat ↔
      (y / s.height.toNat = row ∧ x / s.width.toNat = col) ∧ s.Corner x y := by
  obtain ⟨hx, hy⟩ := toNat_place h.not_outgrown hrow hcol
  rw [hx, hy, Corner]
  constructor
  · rintro ⟨rfl, rfl⟩
    simp [h.width_pos, h.height_pos]
  · rintro ⟨⟨rfl, rfl⟩, hcx, hcy⟩
    have hdx := Nat.div_add_mod' x s.width.toNat
    have hdy := Nat.div_add_mod' y s.height.toNat
    omega

end CellSize

namespace Painter

def cellPixel (p : Painter) (cell : Cell) (corner : Prop) [Decidable corner] : Pixel → Pixel :=
  let filled := Pixel.fill (p.scheme.resolveBackground cell.background) .one
  if corner ∧ ¬ cell.isBlank then
    Pixel.draw cell.char (p.scheme.resolveForeground cell.foreground) ∘ filled
  else filled

theorem sight_cellPixel (p : Painter) (cell : Cell) (corner : Prop) [Decidable corner]
    (old : Pixel) : (p.cellPixel cell corner old).sight = .ofCell p.scheme cell corner := by
  have hblank : ¬ cell.isBlank ↔ cell.char ≠ ' ' := by simp [Cell.isBlank]
  unfold cellPixel Sight.ofCell
  simp only [hblank]
  by_cases h : corner ∧ cell.char ≠ ' '
  · simp [h, Pixel.fill_opaque, Pixel.draw, Pixel.sight]
  · simp only [if_neg h, Pixel.fill_opaque]
    rfl

variable {p : Painter} {size : CellSize} {cols rows : Nat}

theorem get?_drawCell (h : size.Fits cols rows) {row col : Nat} (hrow : row < rows)
    (hcol : col < cols) (c : Canvas) (cell : Cell) (x y : Nat) :
    (p.drawCell c cell (size.place row col)).get? x y =
      if y / size.height.toNat = row ∧ x / size.width.toNat = col then
        (c.get? x y).map (p.cellPixel cell (size.Corner x y))
      else c.get? x y := by
  have hfill :=
    c.get?_fill (size.place row col) (p.scheme.resolveBackground cell.background) .one x y
  simp only [CellSize.inside_place h hrow hcol] at hfill
  simp only [drawCell, cellPixel, Canvas.surface_fill, Canvas.surface_glyph]
  by_cases hblank : cell.isBlank
  · simp [hblank, hfill]
  · simp only [if_neg hblank, Canvas.get?_glyph, CellSize.corner_place h hrow hcol, hfill]
    by_cases hin : y / size.height.toNat = row ∧ x / size.width.toNat = col
    · by_cases hcorner : size.Corner x y <;> simp [hin, hcorner, hblank]
    · simp [hin]

def placePixel (p : Painter) (cell? : Option Cell) (corner : Prop) [Decidable corner] :
    Pixel → Pixel := cell?.elim id fun cell => p.cellPixel cell corner

theorem get?_foldl_drawCell (h : size.Fits cols rows) {row start : Nat} (hrow : row < rows)
    (cells : List Cell) (hlen : start + cells.length ≤ cols) (c : Canvas) (x y : Nat) :
    ((cells.zipIdx start).foldl
        (fun c (cell, col) => p.drawCell c cell (size.place row col)) c).get? x y =
      (c.get? x y).map (p.placePixel
        (if y / size.height.toNat = row ∧ start ≤ x / size.width.toNat
          then cells[x / size.width.toNat - start]? else none) (size.Corner x y)) := by
  induction cells generalizing start c with
  | nil => simp [placePixel]
  | cons cell cells ih =>
    rw [List.length_cons] at hlen
    rw [List.zipIdx_cons, List.foldl_cons, ih (by omega),
      get?_drawCell h hrow (by omega)]
    by_cases hy : y / size.height.toNat = row
    · rcases Nat.lt_trichotomy start (x / size.width.toNat) with hlt | heq | hgt
      -- a later cell has the pixel
      · obtain ⟨k, hk⟩ : ∃ k, x / size.width.toNat - start = k + 1 :=
          ⟨x / size.width.toNat - (start + 1), by omega⟩
        have hk' : x / size.width.toNat - (start + 1) = k := by omega
        simp [hy, hk, hk', Nat.ne_of_gt hlt, Nat.le_of_lt hlt, Nat.succ_le_of_lt hlt]
      · rw [if_neg (by omega)]
        simp [hy, ← heq, placePixel]
      · simp [Nat.ne_of_lt hgt, Nat.not_le.mpr hgt, Nat.not_le.mpr (Nat.lt_succ_of_lt hgt)]
    · simp [hy]

theorem get?_rowDrawings {screen : Screen} (hs : screen.Sound)
    (h : size.Fits screen.cols.toNat screen.rows.toNat) {row : Nat} (hrow : row < screen.rows.toNat)
    (c : Canvas) (x y : Nat) : ((p.rowDrawings size screen row).foldl Surface.draw c).get? x y =
      (c.get? x y).map (p.placePixel
        (if y / size.height.toNat = row then screen.grid.get? row (x / size.width.toNat) else none)
        (size.Corner x y)) := by
  have hlen : 0 + (screen.grid.row row).length ≤ screen.cols.toNat := by
    rw [Nat.zero_add, Grid.length_row hs.grid hrow]
    exact Nat.le_refl _
  rw [rowDrawings, List.foldl_flatMap]
  simp only [← drawCell_eq]
  refine (get?_foldl_drawCell h hrow _ hlen c x y).trans ?_
  simp only [Nat.zero_le, and_true, Nat.sub_zero, Grid.getElem?_row hs.grid]

theorem get?_foldl_rowDrawings {screen : Screen} (hs : screen.Sound)
    (h : size.Fits screen.cols.toNat screen.rows.toNat) {n : Nat} (hn : n ≤ screen.rows.toNat)
    (c : Canvas) (x y : Nat) :
    (((List.range n).flatMap (p.rowDrawings size screen)).foldl Surface.draw c).get? x y =
      (c.get? x y).map (p.placePixel
        (if y / size.height.toNat < n
          then screen.grid.get? (y / size.height.toNat) (x / size.width.toNat) else none)
        (size.Corner x y)) := by
  induction n with
  | zero => simp [placePixel]
  | succ n ih =>
    rw [List.range_succ, List.flatMap_append, List.foldl_append, List.flatMap_singleton,
      get?_rowDrawings hs h (by omega), ih (by omega)]
    rcases Nat.lt_trichotomy (y / size.height.toNat) n with hlt | heq | hgt
    · simp [placePixel, hlt, Nat.ne_of_lt hlt, Nat.lt_succ_of_lt hlt]
    · simp [placePixel, heq]
    · simp [placePixel, Nat.not_lt.mpr (Nat.le_of_lt hgt), Nat.ne_of_gt hgt,
        Nat.not_lt.mpr (Nat.succ_le_of_lt hgt)]

def UnderCursor (size : CellSize) (screen : Screen) (x y : Nat) : Prop :=
  y / size.height.toNat = screen.position.row.toNat ∧
    x / size.width.toNat = screen.position.col.toNat

instance (size : CellSize) (screen : Screen) (x y : Nat) :
    Decidable (UnderCursor size screen x y) := inferInstanceAs (Decidable (_ ∧ _))

theorem get?_painted (hp : p.cellSize = some size) {screen : Screen} (hs : screen.Sound)
    (h : size.Fits screen.cols.toNat screen.rows.toNat) (c : Canvas) (x y : Nat) :
    (p.painted screen c).get? x y =
      let cells := (c.get? x y).map (p.placePixel
        (screen.grid.get? (y / size.height.toNat) (x / size.width.toNat)) (size.Corner x y))
      if UnderCursor size screen x y then
        cells.map (Pixel.fill p.scheme.foreground p.cursorOpacity)
      else cells := by
  obtain ⟨hcol, hrow⟩ := Screen.position_inside hs
  have hcells := get?_foldl_rowDrawings (p := p) hs h (Nat.le_refl _) c x y
  have hgrid : (if y / size.height.toNat < screen.rows.toNat
      then screen.grid.get? (y / size.height.toNat) (x / size.width.toNat) else none) =
      screen.grid.get? (y / size.height.toNat) (x / size.width.toNat) := by
    by_cases hy : y / size.height.toNat < screen.rows.toNat
    · rw [if_pos hy]
    · rw [if_neg hy, Grid.get?_eq_none fun hin => hy hin.1]
  rw [hgrid] at hcells
  rw [painted_eq hp hs h.not_outgrown, drawings, List.foldl_append]
  change (Canvas.fill _ _ _ _).get? x y = _
  simp only [Canvas.get?_fill, CellSize.inside_place h hrow hcol, hcells]
  rfl

def shown (p : Painter) (size : CellSize) (screen : Screen) (cell : Cell) (x y : Nat) : Sight :=
  let plain := Sight.ofCell p.scheme cell (size.Corner x y)
  if UnderCursor size screen x y then plain.cover p.scheme.foreground p.cursorOpacity else plain

theorem sight_painted (hp : p.cellSize = some size) {screen : Screen} (hs : screen.Sound)
    (h : size.Fits screen.cols.toNat screen.rows.toNat) (c : Canvas) {x y : Nat} {cell : Cell}
    (hcell : screen.grid.get? (y / size.height.toNat) (x / size.width.toNat) = some cell) :
    ((p.painted screen c).get? x y).map Pixel.sight =
      (c.get? x y).map fun _ => p.shown size screen cell x y := by
  rw [get?_painted hp hs h, hcell]
  by_cases hu : UnderCursor size screen x y
  · simp [hu, shown, placePixel, Function.comp_def, Pixel.sight_fill, sight_cellPixel]
  · simp [hu, shown, placePixel, Function.comp_def, sight_cellPixel]

theorem get?_painted_outside (hp : p.cellSize = some size) {screen : Screen} (hs : screen.Sound)
    (h : size.Fits screen.cols.toNat screen.rows.toNat) (c : Canvas) {x y : Nat}
    (hout : ¬ (y / size.height.toNat < screen.rows.toNat ∧
      x / size.width.toNat < screen.cols.toNat)) :
    (p.painted screen c).get? x y = c.get? x y := by
  have hcursor : ¬ UnderCursor size screen x y := by
    rintro ⟨hrow, hcol⟩
    obtain ⟨hcol', hrow'⟩ := Screen.position_inside hs
    rw [hrow, hcol] at hout
    exact hout ⟨hrow', hcol'⟩
  rw [get?_painted hp hs h, if_neg hcursor, Grid.get?_eq_none hout]
  simp [placePixel]

/-- A frame shows at every pixel of the grid its cell and the cursor, and changes no other pixel.
What it shows does not depend on what the canvas held. -/
theorem frame_shows_screen {screen : Screen} (hr : screen.Reachable) (scheme : Scheme)
    (opacity : Binary32) {size : CellSize}
    (hwidth : 1 ≤ size.width.toNat) (hheight : 1 ≤ size.height.toNat)
    (hcols : screen.cols.toNat * size.width.toNat < UInt32.size)
    (hrows : screen.rows.toNat * size.height.toNat < UInt32.size) (canvas : Canvas) :
    let painter : Painter := ⟨scheme, opacity, some size⟩
    ∃ painted, painter.paint? screen canvas = some painted ∧
    painted.width = canvas.width ∧ painted.height = canvas.height ∧
    (∀ x y, if y / size.height.toNat < screen.rows.toNat ∧ x / size.width.toNat < screen.cols.toNat
      then ∃ cell, screen.grid.get? (y / size.height.toNat) (x / size.width.toNat) = some cell ∧
        (painted.get? x y).map Pixel.sight =
          (canvas.get? x y).map fun _ => painter.shown size screen cell x y
      else painted.get? x y = canvas.get? x y) ∧
    ∀ other : Canvas, ∃ painted', painter.paint? screen other = some painted' ∧
      ∀ x y, y / size.height.toNat < screen.rows.toNat ∧ x / size.width.toNat < screen.cols.toNat →
        ∀ p ∈ painted.get? x y, ∀ p' ∈ painted'.get? x y, p.sight = p'.sight := by
  intro painter
  have hs := hr.sound
  have h : size.Fits screen.cols.toNat screen.rows.toNat := ⟨hwidth, hheight, hcols, hrows⟩
  have hpaint (c : Canvas) : painter.paint? screen c = some (painter.painted screen c) := by
    rw [paint?_eq, if_neg (mt (faults_iff rfl hs).mp h.not_outgrown)]
  have hsize := size_painted painter screen canvas
  have sight {x y : Nat} {cell : Cell} (c : Canvas)
      (hcell : screen.grid.get? (y / size.height.toNat) (x / size.width.toNat) = some cell) :=
    sight_painted (p := painter) rfl hs h c hcell
  refine ⟨_, hpaint canvas, congrArg Prod.fst hsize, congrArg Prod.snd hsize, ?_, ?_⟩
  · intro x y
    split
    · rename_i hin
      obtain ⟨cell, hcell⟩ := Option.isSome_iff_exists.mp ((Grid.isSome_get? hs.grid _ _).mpr hin)
      exact ⟨cell, hcell, sight canvas hcell⟩
    · rename_i hout
      exact get?_painted_outside rfl hs h canvas hout
  · intro other
    refine ⟨_, hpaint other, ?_⟩
    intro x y hin p hp p' hp'
    obtain ⟨cell, hcell⟩ := Option.isSome_iff_exists.mp ((Grid.isSome_get? hs.grid _ _).mpr hin)
    have hshown := sight canvas hcell
    have hother := sight other hcell
    rw [Option.mem_def.mp hp] at hshown
    rw [Option.mem_def.mp hp'] at hother
    obtain ⟨_, _, hshown⟩ := Option.map_eq_some_iff.mp hshown.symm
    obtain ⟨_, _, hother⟩ := Option.map_eq_some_iff.mp hother.symm
    exact hshown.symm.trans hother

theorem frame_shows_screen_wrapping :
    let screen := (Screen.blank 2 1).performAll [.setForeground (.basic 1), .put 'a', .put 'b']
    let size : CellSize := ⟨2, 1⟩
    let painter : Painter := ⟨.classic, .half, some size⟩
    (screen.Reachable ∧ 1 ≤ size.width.toNat ∧ 1 ≤ size.height.toNat ∧
      screen.cols.toNat * size.width.toNat < UInt32.size ∧
      screen.rows.toNat * size.height.toNat < UInt32.size) ∧
    ∃ painted, painter.paint? screen (Canvas.blank 4 2) = some painted ∧
      (painted.get? 2 0).map Pixel.sight = some ⟨'b', ⟨115, 115, 115⟩, some ⟨217, 115, 115⟩⟩ := by
  intro screen size painter
  have hr : screen.Reachable := ⟨2, 1, _, rfl⟩
  refine ⟨⟨hr, by decide, by decide, by decide, by decide⟩, ?_⟩
  obtain ⟨painted, hpainted, -, -, hshown, -⟩ := frame_shows_screen hr .classic .half
    (show 1 ≤ size.width.toNat by decide) (by decide) (by decide) (by decide) (.blank 4 2)
  have hsight := hshown 2 0
  rw [if_pos (by decide)] at hsight
  obtain ⟨cell, hcell, hsight⟩ := hsight
  have hb : screen.grid.get? (0 / 1) (2 / 2) = some ⟨'b', .basic 1, .default⟩ := by decide
  obtain rfl := Option.some.inj (hb.symm.trans hcell)
  have hold : (Canvas.blank 4 2).get? 2 0 = some .empty := by decide
  refine ⟨painted, hpainted, hsight.trans ?_⟩
  rw [hold]
  decide +kernel

end Painter

end TermView
