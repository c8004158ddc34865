import TermView.Proofs.FrameFaults

namespace TermView

variable {σ : Type} [Surface σ]

def Drawing.At (place : Rect) : Drawing → Prop
  | .fill rect _ _ => rect = place
  | .glyph _ x y _ => x = place.x ∧ y = place.y

namespace Painter

variable (p : Painter) (size : CellSize) {screen : Screen}

theorem at_of_mem_cellDrawings {cell : Cell} {place : Rect} {d : Drawing}
    (h : d ∈ p.cellDrawings cell place) : d.At place := by
  rcases List.mem_cons.mp h with rfl | h
  · rfl
  · split at h
    · cases h
    · rw [List.mem_singleton.mp h]
      exact ⟨rfl, rfl⟩

theorem at_of_mem_drawings (hs : screen.Sound) {d : Drawing} (h : d ∈ p.drawings size screen) :
    ∃ row < screen.rows.toNat, ∃ col < screen.cols.toNat, d.At (size.place row col) := by
  rcases List.mem_append.mp h with h | h
  · obtain ⟨row, hrow, h⟩ := List.mem_flatMap.mp h
    obtain ⟨⟨cell, col⟩, hcell, h⟩ := List.mem_flatMap.mp h
    have hlt := List.mem_range.mp hrow
    exact ⟨row, hlt, col, col_lt_of_mem_row hs hlt hcell, p.at_of_mem_cellDrawings h⟩
  · rw [List.mem_singleton.mp h]
    obtain ⟨hcol, hrow⟩ := Screen.position_inside hs
    exact ⟨_, hrow, _, hcol, rfl⟩

theorem fill_mem_drawings (hs : screen.Sound) {row col : Nat} (hrow : row < screen.rows.toNat)
    (hcol : col < screen.cols.toNat) :
    ∃ color, Drawing.fill (size.place row col) color .one ∈ p.drawings size screen := by
  obtain ⟨cell, hcell⟩ := exists_mem_row hs hrow hcol
  refine ⟨p.scheme.resolveBackground cell.background, ?_⟩
  apply List.mem_append_left
  apply List.mem_flatMap.mpr
  refine ⟨row, List.mem_range.mpr hrow, ?_⟩
  apply List.mem_flatMap.mpr
  exact ⟨(cell, col), hcell, List.mem_cons_self⟩

end Painter

theorem CellSize.origin_inj {s : CellSize} {cols rows row col row' col' : Nat}
    (hw : 0 < s.width.toNat) (hh : 0 < s.height.toNat) (h : ¬ s.Outgrown cols rows)
    (hrow : row < rows) (hcol : col < cols) (hrow' : row' < rows) (hcol' : col' < cols)
    (hx : (s.place row col).x = (s.place row' col').x)
    (hy : (s.place row col).y = (s.place row' col').y) : (row, col) = (row', col') := by
  obtain ⟨hx₁, hy₁⟩ := toNat_place h hrow hcol
  obtain ⟨hx₂, hy₂⟩ := toNat_place h hrow' hcol'
  rw [hx, hx₂] at hx₁
  rw [hy, hy₂] at hy₁
  rw [Nat.eq_of_mul_eq_mul_right hw hx₁, Nat.eq_of_mul_eq_mul_right hh hy₁]

namespace Terminal

/-- A run faults if and only if it asks for a grid with a column or a row that begins at 2 ^ 32 pixels
of the attached surface or beyond. Otherwise a frame fills each cell of the grid at its exact place,
with the cursor last, and draws nothing elsewhere; and no two cells begin at one pixel. -/
theorem places_exact_unless_outgrown (settings : Settings) (steps : List (Step σ)) :
    let t : Terminal σ := (new settings).takeAll steps
    let (cols, rows) := (t.screen.cols.toNat, t.screen.rows.toNat)
    (t.faulted ↔ ∃ earlier cols rows, earlier ++ [.call (.resize cols rows)] <+: steps ∧
      ∃ cell ∈ cell? settings.font earlier, cell.Outgrown cols.toNat rows.toNat) ∧
    t.surface.isSome = (cell? settings.font steps).isSome ∧
    (t.faulted = false → ∀ cell ∈ cell? settings.font steps, ∃ shown, t.surface = some shown ∧
      let place := cell.place
      let drawings := t.painter.drawings cell t.screen
      (∀ row < rows, ∀ col < cols, cell.rect? row col = some (place row col) ∧
        (place row col).x.toNat = col * cell.width.toNat ∧
        (place row col).y.toNat = row * cell.height.toNat) ∧
      t.render.faulted = false ∧
      t.render.surface = some (Surface.present (drawings.foldl Surface.draw shown)).2 ∧
      (∀ d ∈ drawings, ∃ row < rows, ∃ col < cols, d.At (place row col)) ∧
      (∀ row < rows, ∀ col < cols, ∃ color, .fill (place row col) color .one ∈ drawings) ∧
      drawings.getLast? = some (t.painter.cursorDrawing
        (place t.screen.position.row.toNat t.screen.position.col.toNat)) ∧
      ∀ row < rows, ∀ col < cols, ∀ row' < rows, ∀ col' < cols,
        (place row col).x = (place row' col').x → (place row col).y = (place row' col').y →
        (row, col) = (row', col')) := by
  intro t
  have hlaid : t.LaidOut (cell? settings.font steps) := laidOut_takeAll settings steps
  dsimp only
  refine ⟨faulted_takeAll settings steps, ?_⟩
  cases hcell : cell? settings.font steps with
  | none =>
    rw [hcell] at hlaid
    exact ⟨by rw [hlaid.surface_eq]; rfl, nofun⟩
  | some cell =>
    rw [hcell] at hlaid
    have hnow := hlaid.arranged
    refine ⟨hnow.attached, ?_⟩
    rintro hf _ ⟨rfl⟩
    have hfits := hnow.not_outgrown hf
    obtain ⟨shown, hshown⟩ := Option.isSome_iff_exists.mp hnow.attached
    refine ⟨shown, hshown, ?_, ?_, ?_, ?_, ?_, List.getLast?_concat, ?_⟩
    · intro row hrow col hcol
      exact ⟨cell.rect?_eq_place hfits hrow hcol, CellSize.toNat_place hfits hrow hcol⟩
    · exact faulted_perform_eq_false hlaid hf .render nofun
    · rw [render_eq, hshown, Option.map_some, Painter.painted_eq hnow.cell_eq hlaid.1 hfits]
    · intro d hd
      exact t.painter.at_of_mem_drawings cell hlaid.1 hd
    · intro row hrow col hcol
      exact t.painter.fill_mem_drawings cell hlaid.1 hrow hcol
    · intro row hrow col hcol row' hrow' col' hcol'
      exact CellSize.origin_inj hnow.width_pos hnow.height_pos hfits hrow hcol hrow' hcol'

theorem wide_cells_fault :
    let wide : Recorder := ⟨.blank 4 1, some (⟨0x4f000000⟩, .one), none, none, false, #[], 0⟩
    let cell : CellSize := ⟨0x80000000, 1⟩
    let opened := (new { Settings.standard with cols := 1, rows := 1 }).perform (.attach wide)
    let t := opened.perform (.resize 3 1)
    (opened.painter.cellSize = some cell ∧ opened.faulted = false) ∧
    t.screen.size = (3, 1) ∧ cell.rect? 0 2 = none ∧
      t.surface.map (fun shown => (t.painter.paint? t.screen shown).isSome) = some false ∧
      t.faulted = true := by
  refine ⟨⟨?_, ?_⟩, ?_, ?_, ?_, ?_⟩ <;> decide +kernel

end Terminal

end TermView
