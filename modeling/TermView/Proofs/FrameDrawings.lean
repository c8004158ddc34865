import TermView.Painter
import TermView.Proofs.ScreenInvariant
import TermView.Surface.Recorder

namespace TermView

variable {σ : Type} [Surface σ]

def Surface.draw (s : σ) : Drawing → σ
  | .fill rect color opacity => Surface.fill s rect color opacity
  | .glyph char x y color => Surface.glyph s char x y color

namespace CellSize

variable (s : CellSize) {cols rows row col : Nat}

/-- The last column or the last row of a grid begins beyond the words. -/
def Outgrown (cols rows : Nat) : Prop :=
  UInt32.size ≤ (cols - 1) * s.width.toNat ∨ UInt32.size ≤ (rows - 1) * s.height.toNat

instance (cols rows : Nat) : Decidable (s.Outgrown cols rows) :=
  inferInstanceAs (Decidable (_ ∨ _))

def place (row col : Nat) : Rect :=
  ⟨.ofNat (col * s.width.toNat), .ofNat (row * s.height.toNat), s.width, s.height⟩

theorem product?_ofNat {i : Nat} (hi : i < UInt32.size) (size : UInt32) :
    product? (.ofNat i) size =
      if i * size.toNat < UInt32.size then some (.ofNat (i * size.toNat)) else none := by
  have hproduct : UInt32.ofNat i * size = .ofNat (i * size.toNat) := by
    rw [UInt32.ofNat_mul, UInt32.ofNat_toNat]
  rw [product?, UInt32.toNat_ofNat_of_lt' hi, hproduct]

theorem rect?_eq (hrow : row < UInt32.size) (hcol : col < UInt32.size) :
    s.rect? row col =
      if col * s.width.toNat < UInt32.size ∧ row * s.height.toNat < UInt32.size
      then some (s.place row col) else none := by
  rw [rect?, product?_ofNat hcol, product?_ofNat hrow]
  by_cases hx : col * s.width.toNat < UInt32.size
  · by_cases hy : row * s.height.toNat < UInt32.size <;> simp [hx, hy, place]
  · simp [hx]

theorem lt_of_not_outgrown {s : CellSize} (h : ¬ s.Outgrown cols rows) (hrow : row < rows)
    (hcol : col < cols) :
    col * s.width.toNat < UInt32.size ∧ row * s.height.toNat < UInt32.size := by
  obtain ⟨hwidth, hheight⟩ := not_or.mp h
  rw [Nat.not_le] at hwidth hheight
  have hx := Nat.mul_le_mul_right s.width.toNat (Nat.le_sub_one_of_lt hcol)
  have hy := Nat.mul_le_mul_right s.height.toNat (Nat.le_sub_one_of_lt hrow)
  exact ⟨Nat.lt_of_le_of_lt hx hwidth, Nat.lt_of_le_of_lt hy hheight⟩

theorem toNat_place {s : CellSize} (h : ¬ s.Outgrown cols rows) (hrow : row < rows)
    (hcol : col < cols) : (s.place row col).x.toNat = col * s.width.toNat ∧
      (s.place row col).y.toNat = row * s.height.toNat := by
  obtain ⟨hx, hy⟩ := lt_of_not_outgrown h hrow hcol
  exact ⟨UInt32.toNat_ofNat_of_lt' hx, UInt32.toNat_ofNat_of_lt' hy⟩

theorem not_outgrown_of_lt {s : CellSize} (hwidth : cols * s.width.toNat < UInt32.size)
    (hheight : rows * s.height.toNat < UInt32.size) : ¬ s.Outgrown cols rows := by
  have hx := Nat.mul_le_mul_right s.width.toNat (Nat.sub_le cols 1)
  have hy := Nat.mul_le_mul_right s.height.toNat (Nat.sub_le rows 1)
  apply not_or.mpr
  rw [Nat.not_le, Nat.not_le]
  exact ⟨Nat.lt_of_le_of_lt hx hwidth, Nat.lt_of_le_of_lt hy hheight⟩

theorem lt_size_of_lt {n : UInt16} {i : Nat} (h : i < n.toNat) : i < UInt32.size :=
  Nat.lt_trans h (Nat.lt_trans n.toNat_lt (by decide))

theorem rect?_eq_place {cols rows : UInt16} (h : ¬ s.Outgrown cols.toNat rows.toNat)
    (hrow : row < rows.toNat) (hcol : col < cols.toNat) : s.rect? row col = some (s.place row col) := by
  rw [rect?_eq s (lt_size_of_lt hrow) (lt_size_of_lt hcol)]
  exact if_pos (lt_of_not_outgrown h hrow hcol)

theorem rect?_eq_none {cols rows : UInt16} (h : s.Outgrown cols.toNat rows.toNat)
    (hcols : 0 < cols.toNat) (hrows : 0 < rows.toNat) :
    s.rect? (rows.toNat - 1) (cols.toNat - 1) = none := by
  rw [rect?_eq s (lt_size_of_lt (Nat.sub_one_lt_of_lt hrows)) (lt_size_of_lt (Nat.sub_one_lt_of_lt hcols))]
  apply if_neg
  rintro ⟨hx, hy⟩
  rcases h with h | h
  · exact Nat.not_lt_of_le h hx
  · exact Nat.not_lt_of_le h hy

end CellSize

theorem mapM_eq_some {α β : Type} {f : α → Option β} {g : α → β} {xs : List α}
    (h : ∀ x ∈ xs, f x = some (g x)) : xs.mapM f = some (xs.map g) := by
  induction xs with
  | nil => rfl
  | cons x xs ih =>
    obtain ⟨hx, hxs⟩ := List.forall_mem_cons.mp h
    simp [List.mapM_cons, hx, ih hxs]

theorem mapM_eq_none {α β : Type} {f : α → Option β} {x : α} {xs : List α} (hmem : x ∈ xs)
    (h : f x = none) : xs.mapM f = none := by
  induction xs with
  | nil => cases hmem
  | cons y xs ih =>
    rw [List.mapM_cons]
    rcases List.mem_cons.mp hmem with rfl | hmem
    · rw [h]
      rfl
    · rw [ih hmem]
      cases f y <;> rfl

theorem foldlM_draw {α : Type} {f : σ → α → Option σ} {g : α → Option (List Drawing)}
    (h : ∀ s x, f s x = (g x).map fun ds => ds.foldl Surface.draw s) (xs : List α) (s : σ) :
    xs.foldlM f s = (xs.mapM g).map fun dss => dss.flatten.foldl Surface.draw s := by
  induction xs generalizing s with
  | nil => rfl
  | cons x xs ih =>
    rw [List.foldlM_cons, List.mapM_cons, h]
    cases g x with
    | none => rfl
    | some ds =>
      rw [Option.map_some, Option.bind_eq_bind, Option.bind_some, ih]
      cases xs.mapM g with
      | none => rfl
      | some dss => simp

namespace Painter

variable (p : Painter) (size : CellSize) (screen : Screen)

def cellDrawings (cell : Cell) (place : Rect) : List Drawing :=
  .fill place (p.scheme.resolveBackground cell.background) .one ::
    if cell.isBlank then []
    else [.glyph cell.char place.x place.y (p.scheme.resolveForeground cell.foreground)]

def rowDrawings? (row : Nat) : Option (List Drawing) :=
  ((screen.grid.row row).zipIdx.mapM fun (cell, col) =>
    (size.rect? row col).map (p.cellDrawings cell)).map List.flatten

def cursorDrawing (place : Rect) : Drawing := .fill place p.scheme.foreground p.cursorOpacity

def drawings? : Option (List Drawing) := do
  let rows ← (List.range screen.rows.toNat).mapM (p.rowDrawings? size screen)
  let place ← size.rect? screen.position.row.toNat screen.position.col.toNat
  return rows.flatten ++ [p.cursorDrawing place]

def faults : Bool := (p.cellSize.map fun size => (p.drawings? size screen).isNone).getD false

def painted (s : σ) : σ := (p.paint? screen s).getD s

theorem drawCell_eq (s : σ) (cell : Cell) (place : Rect) :
    p.drawCell s cell place = (p.cellDrawings cell place).foldl Surface.draw s := by
  unfold drawCell cellDrawings
  cases cell.isBlank <;> rfl

theorem paintRow?_eq (s : σ) (row : Nat) : p.paintRow? size screen s row =
    (p.rowDrawings? size screen row).map fun ds => ds.foldl Surface.draw s := by
  rw [paintRow?, rowDrawings?, Option.map_map]
  apply foldlM_draw
  rintro s ⟨cell, col⟩
  simp only [Option.map_map, ← drawCell_eq, Function.comp_def]

theorem paint?_of_cellSize {p : Painter} {size : CellSize} (hp : p.cellSize = some size) (s : σ) :
    p.paint? screen s = (p.drawings? size screen).map fun ds =>
      (Surface.present (ds.foldl Surface.draw s)).2 := by
  have hcells : p.paintCells? size screen s = _ :=
    foldlM_draw (p.paintRow?_eq size screen) (List.range screen.rows.toNat) s
  simp only [paint?, hp, hcells, paintCursor?, drawings?]
  cases (List.range screen.rows.toNat).mapM (p.rowDrawings? size screen) with
  | none => rfl
  | some rows =>
    cases size.rect? screen.position.row.toNat screen.position.col.toNat with
    | none => rfl
    | some place => simp [cursorDrawing, Surface.draw]

theorem paint?_eq (s : σ) :
    p.paint? screen s = if p.faults screen then none else some (p.painted screen s) := by
  unfold painted faults
  cases hp : p.cellSize with
  | none =>
    rw [paint?, hp]
    rfl
  | some size =>
    rw [paint?_of_cellSize screen hp, Option.map_some, Option.getD_some]
    cases p.drawings? size screen <;> rfl

theorem isNone_paint? (s : σ) : (p.paint? screen s).isNone = p.faults screen := by
  rw [paint?_eq]
  cases p.faults screen <;> rfl

variable {screen}

def rowDrawings (screen : Screen) (row : Nat) : List Drawing :=
  (screen.grid.row row).zipIdx.flatMap fun (cell, col) => p.cellDrawings cell (size.place row col)

def drawings (screen : Screen) : List Drawing :=
  (List.range screen.rows.toNat).flatMap (p.rowDrawings size screen) ++
    [p.cursorDrawing (size.place screen.position.row.toNat screen.position.col.toNat)]

theorem col_lt_of_mem_row (hs : screen.Sound) {row : Nat} (hrow : row < screen.rows.toNat)
    {cell : Cell} {col : Nat} (h : (cell, col) ∈ (screen.grid.row row).zipIdx) :
    col < screen.cols.toNat := by
  have hcol := List.snd_lt_of_mem_zipIdx h
  rwa [Nat.add_zero, Grid.length_row hs.grid hrow] at hcol

theorem exists_mem_row (hs : screen.Sound) {row col : Nat} (hrow : row < screen.rows.toNat)
    (hcol : col < screen.cols.toNat) : ∃ cell, (cell, col) ∈ (screen.grid.row row).zipIdx := by
  have hlen : col < (screen.grid.row row).length := by
    rwa [Grid.length_row hs.grid hrow]
  exact ⟨(screen.grid.row row)[col],
    List.mk_mem_zipIdx_iff_getElem?.mpr (List.getElem?_eq_getElem hlen)⟩

theorem rowDrawings?_eq (hs : screen.Sound)
    (h : ¬ size.Outgrown screen.cols.toNat screen.rows.toNat) {row : Nat}
    (hrow : row < screen.rows.toNat) :
    p.rowDrawings? size screen row = some (p.rowDrawings size screen row) := by
  have hcells : ∀ place ∈ (screen.grid.row row).zipIdx,
      (size.rect? row place.2).map (p.cellDrawings place.1) =
        some (p.cellDrawings place.1 (size.place row place.2)) := by
    rintro ⟨cell, col⟩ hmem
    rw [size.rect?_eq_place h hrow (col_lt_of_mem_row hs hrow hmem), Option.map_some]
  rw [rowDrawings?, mapM_eq_some hcells, rowDrawings, List.flatMap_def]
  rfl

theorem drawings?_eq (hs : screen.Sound) : p.drawings? size screen =
    if size.Outgrown screen.cols.toNat screen.rows.toNat then none
    else some (p.drawings size screen) := by
  by_cases h : size.Outgrown screen.cols.toNat screen.rows.toNat
  · -- the last cell has no place
    have hlast := Nat.sub_one_lt_of_lt hs.rows_pos
    obtain ⟨cell, hcell⟩ := exists_mem_row hs hlast (Nat.sub_one_lt_of_lt hs.cols_pos)
    have hrow : p.rowDrawings? size screen (screen.rows.toNat - 1) = none := by
      rw [rowDrawings?, mapM_eq_none hcell]
      · rfl
      · dsimp only
        rw [size.rect?_eq_none h hs.cols_pos hs.rows_pos, Option.map_none]
    rw [if_pos h, drawings?, mapM_eq_none (List.mem_range.mpr hlast) hrow]
    rfl
  · have hrows : ∀ row ∈ List.range screen.rows.toNat,
        p.rowDrawings? size screen row = some (p.rowDrawings size screen row) :=
      fun row hrow => p.rowDrawings?_eq size hs h (List.mem_range.mp hrow)
    obtain ⟨hcol, hrow⟩ := Screen.position_inside hs
    rw [if_neg h, drawings?, mapM_eq_some hrows, size.rect?_eq_place h hrow hcol, drawings,
      List.flatMap_def]
    rfl

theorem faults_iff {p : Painter} {size : CellSize} (hp : p.cellSize = some size)
    (hs : screen.Sound) :
    p.faults screen ↔ size.Outgrown screen.cols.toNat screen.rows.toNat := by
  rw [faults, hp, Option.map_some, Option.getD_some, drawings?_eq p size hs]
  by_cases h : size.Outgrown screen.cols.toNat screen.rows.toNat <;> simp [h]

theorem painted_eq {p : Painter} {size : CellSize} (hp : p.cellSize = some size)
    (hs : screen.Sound) (h : ¬ size.Outgrown screen.cols.toNat screen.rows.toNat) (s : σ) :
    p.painted screen s = (Surface.present ((p.drawings size screen).foldl Surface.draw s)).2 := by
  rw [painted, paint?_of_cellSize screen hp, drawings?_eq p size hs, if_neg h]
  rfl

end Painter

end TermView
