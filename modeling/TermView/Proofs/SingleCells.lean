import TermView.Proofs.FittedGrids
import TermView.Proofs.TerminalFrames

namespace TermView

namespace CellSize

def single : CellSize := ⟨1, 1⟩

theorem measure_single {σ : Type} [Surface σ] {surface : σ}
    (hwidth : Surface.glyphWidth surface 'M' = .one) (hheight : Surface.lineHeight surface = .one) :
    measure surface = .ok single := by
  apply (measure_eq_ok surface single).mpr
  rw [hwidth, hheight]
  decide

theorem count_one (n : UInt16) : count n.toUInt32 1 = max n 1 := by
  have hlt := n.toNat_lt
  rw [← UInt16.toNat_inj, Word.toNat_max_one, toNat_count, UInt16.toNat_toUInt32, UInt32.toNat_one,
    Nat.div_one]
  omega

theorem gridSize_single (cols rows : UInt16) :
    single.gridSize (cols.toUInt32, rows.toUInt32) = (max cols 1, max rows 1) :=
  Prod.ext (count_one cols) (count_one rows)

theorem fits_single (cols rows : UInt16) : single.Fits cols.toNat rows.toNat := by
  have hlt (n : UInt16) : n.toNat * 1 < UInt32.size := by
    rw [Nat.mul_one]
    exact Nat.lt_trans n.toNat_lt (by decide)
  exact ⟨by decide, by decide, hlt cols, hlt rows⟩

end CellSize

namespace Painter

variable {p : Painter} {screen : Screen}

theorem sight_painted_single (hp : p.cellSize = some .single) (hs : screen.Sound) (c : Canvas)
    {x y : Nat} {cell : Cell} (hcell : screen.grid.get? y x = some cell) :
    ((p.painted screen c).get? x y).map Pixel.sight =
      (c.get? x y).map fun _ => p.shown .single screen cell x y := by
  apply sight_painted hp hs (CellSize.fits_single _ _) c
  change screen.grid.get? (y / 1) (x / 1) = _
  rw [Nat.div_one, Nat.div_one, hcell]

theorem get?_painted_single_outside (hp : p.cellSize = some .single) (hs : screen.Sound) (c : Canvas)
    {x y : Nat} (hout : ¬ (y < screen.rows.toNat ∧ x < screen.cols.toNat)) :
    (p.painted screen c).get? x y = c.get? x y := by
  apply get?_painted_outside hp hs (CellSize.fits_single _ _) c
  change ¬ (y / 1 < screen.rows.toNat ∧ x / 1 < screen.cols.toNat)
  rwa [Nat.div_one, Nat.div_one]

theorem not_faults_single (hp : p.cellSize = some .single) (hs : screen.Sound) :
    ¬ p.faults screen :=
  mt (faults_iff hp hs).mp (CellSize.fits_single screen.cols screen.rows).not_outgrown

end Painter

theorem Terminal.Painted.faulted_single {σ : Type} [Surface σ] {t t' : Terminal σ}
    {frame : Option Screen} (h : Painted t t' frame) (hp : t.painter.cellSize = some .single)
    (hs : ∀ screen ∈ frame, screen.Sound) : t'.faulted = t.faulted := by
  have hfaults : frame.any t.painter.faults = false := by
    cases frame with
    | none => rfl
    | some screen => exact Bool.eq_false_iff.mpr (Painter.not_faults_single hp (hs screen rfl))
  rw [h.faulted_eq, hfaults, Bool.and_false, Bool.or_false]

end TermView
