import TermView.Proofs.PaintedFrame

namespace TermView

namespace Binary32

def Usable (x : Binary32) : Prop := x.isFinite ∧ ¬ x < half

instance (x : Binary32) : Decidable x.Usable := inferInstanceAs (Decidable (_ ∧ _))

theorem Usable.magnitude {x : Binary32} (h : x.Usable) :
    x.negative = false ∧ half.magnitude ≤ x.magnitude := by
  obtain ⟨hfinite, hhalf⟩ := h
  have hnumber : x.isNaN = false := by
    simp only [isFinite, isNaN, decide_eq_true_eq, decide_eq_false_iff_not] at hfinite ⊢
    omega
  have hkey : half.key ≤ x.key := by
    have hlt : ¬ (!x.isNaN && !half.isNaN && decide (x.key < half.key)) = true := hhalf
    rw [hnumber, show half.isNaN = false by decide] at hlt
    simpa using hlt
  rw [show half.key = half.magnitude by decide, key] at hkey
  cases hneg : x.negative with
  | false =>
    rw [hneg, if_neg Bool.false_ne_true] at hkey
    exact ⟨rfl, Int.ofNat_le.mp hkey⟩
  | true =>
    have hpos : 0 < half.magnitude := by decide
    rw [hneg, if_pos rfl] at hkey
    omega

theorem scale_le_units {m : Nat} (h : half.magnitude ≤ m) : scale / 2 ≤ decodeUnits 23 m := by
  have hm : 126 * 2 ^ 23 ≤ m := h
  have hexponent : 125 ≤ m / 2 ^ 23 - 1 := by omega
  have hscale : scale / 2 = 2 ^ 23 * 2 ^ 125 := by decide
  have hnormal : ¬ m < Nat.pow 2 23 := by
    change ¬ m < 2 ^ 23
    omega
  rw [hscale, decodeUnits, if_neg hnormal]
  apply Nat.mul_le_mul
  · exact Nat.le_add_right _ _
  · exact Nat.pow_le_pow_right Nat.two_pos hexponent

theorem Usable.one_le_round {x : Binary32} (h : x.Usable) : 1 ≤ x.round := by
  obtain ⟨hpositive, hmagnitude⟩ := h.magnitude
  have hunits : scale / 2 ≤ x.units := scale_le_units hmagnitude
  have hscale : scale / 2 + scale / 2 = scale := by decide
  rw [round, hpositive, if_neg Bool.false_ne_true]
  apply Nat.div_pos
  · omega
  · exact Nat.two_pow_pos 149

end Binary32

def Rect.Covers (r : Rect) (x y : Nat) : Prop :=
  (r.x.toNat ≤ x ∧ x < r.x.toNat + r.width.toNat) ∧ r.y.toNat ≤ y ∧ y < r.y.toNat + r.height.toNat

namespace CellSize

theorem measure_eq_ok {σ : Type} [Surface σ] (surface : σ) (size : CellSize) :
    let width := Surface.glyphWidth surface 'M'
    let height := Surface.lineHeight surface
    measure surface = .ok size ↔
      (width.Usable ∧ height.Usable) ∧ ⟨wholePixels width, wholePixels height⟩ = size := by
  intro width height
  have husable : ¬ (¬ (width.isFinite ∧ height.isFinite) ∨ width < .half ∨ height < .half) ↔
      width.Usable ∧ height.Usable := by
    simp only [Binary32.Usable, not_or, Decidable.not_not]
    constructor
    · rintro ⟨⟨hw, hh⟩, hw', hh'⟩
      exact ⟨⟨hw, hw'⟩, hh, hh'⟩
    · rintro ⟨⟨hw, hw'⟩, hh, hh'⟩
      exact ⟨⟨hw, hh⟩, hw', hh'⟩
  rw [← husable]
  unfold measure
  dsimp only
  split
  · rename_i hbad
    exact iff_of_false nofun fun h => h.1 hbad
  · rename_i hgood
    rw [Except.ok.injEq, and_iff_right hgood]

theorem wholePixels_pos {x : Binary32} (h : x.Usable) : 1 ≤ (wholePixels x).toNat := by
  have hround := h.one_le_round
  have hword : min x.round 0xffffffff < UInt32.size := by
    change _ < 4294967296
    omega
  rw [wholePixels, UInt32.toNat_ofNat_of_lt' hword]
  omega

theorem size_pos {σ : Type} [Surface σ] {surface : σ} {size : CellSize}
    (h : measure surface = .ok size) : 1 ≤ size.width.toNat ∧ 1 ≤ size.height.toNat := by
  obtain ⟨⟨hwidth, hheight⟩, rfl⟩ := (measure_eq_ok surface size).mp h
  exact ⟨wholePixels_pos hwidth, wholePixels_pos hheight⟩

theorem toNat_count (pixels size : UInt32) :
    (count pixels size).toNat = max 1 (min (pixels.toNat / size.toNat) 65535) := by
  rw [count, Word.toNat_ofNat (by omega), UInt32.toNat_div]

theorem gridSize_max_one (s : CellSize) (area : UInt32 × UInt32) :
    (max (s.gridSize area).1 1, max (s.gridSize area).2 1) = s.gridSize area := by
  have hpos (pixels size : UInt32) : 0 < (count pixels size).toNat := by
    rw [toNat_count]
    omega
  exact Prod.ext (Word.max_one_eq_self (hpos _ _)) (Word.max_one_eq_self (hpos _ _))

theorem count_mul_le {pixels size : UInt32} (h : size ≤ pixels) :
    (count pixels size).toNat * size.toNat ≤ pixels.toNat := by
  have hle : size.toNat ≤ pixels.toNat := UInt32.le_iff_toNat_le.mp h
  rcases Nat.eq_zero_or_pos size.toNat with hzero | hpos
  · rw [hzero, Nat.mul_zero]
    exact Nat.zero_le _
  · apply Nat.mul_le_of_le_div
    have hone := Nat.div_pos hle hpos
    rw [toNat_count]
    omega

theorem count_mul_lt (pixels size : UInt32) :
    (count pixels size).toNat * size.toNat < UInt32.size := by
  by_cases h : size ≤ pixels
  · exact Nat.lt_of_le_of_lt (count_mul_le h) pixels.toNat_lt
  · have hlt : pixels.toNat < size.toNat := by
      rw [UInt32.le_iff_toNat_le] at h
      omega
    rw [toNat_count, Nat.div_eq_of_lt hlt]
    simpa using size.toNat_lt

theorem lt_count_succ_mul {pixels size : UInt32} (hsize : 1 ≤ size.toNat)
    (h : count pixels size ≠ 65535) :
    pixels.toNat < ((count pixels size).toNat + 1) * size.toNat := by
  apply Nat.lt_mul_of_div_lt _ hsize
  have hne : (count pixels size).toNat ≠ 65535 := fun he => h (UInt16.toNat_inj.mp he)
  rw [toNat_count] at hne ⊢
  omega

variable {s : CellSize} {cols rows row col row' col' : Nat}

theorem fits_gridSize (hw : 1 ≤ s.width.toNat) (hh : 1 ≤ s.height.toNat) (area : UInt32 × UInt32) :
    s.Fits (s.gridSize area).1.toNat (s.gridSize area).2.toNat :=
  ⟨hw, hh, count_mul_lt _ _, count_mul_lt _ _⟩

theorem covers_place (h : s.Fits cols rows) (hrow : row < rows) (hcol : col < cols) (x y : Nat) :
    (s.place row col).Covers x y ↔ y / s.height.toNat = row ∧ x / s.width.toNat = col :=
  inside_place h hrow hcol x y

theorem end_place_le (h : s.Fits cols rows) (hrow : row < rows) (hcol : col < cols) :
    (s.place row col).x.toNat + s.width.toNat ≤ cols * s.width.toNat ∧
      (s.place row col).y.toNat + s.height.toNat ≤ rows * s.height.toNat := by
  obtain ⟨hx, hy⟩ := toNat_place h.not_outgrown hrow hcol
  have hcols := Nat.mul_le_mul_right s.width.toNat (Nat.succ_le_of_lt hcol)
  have hrows := Nat.mul_le_mul_right s.height.toNat (Nat.succ_le_of_lt hrow)
  rw [Nat.succ_mul] at hcols hrows
  rw [hx, hy]
  exact ⟨hcols, hrows⟩

theorem inside_area (hw : 1 ≤ s.width.toNat) (hh : 1 ≤ s.height.toNat) {area : UInt32 × UInt32}
    (hwidth : s.width ≤ area.1) (hheight : s.height ≤ area.2)
    (hrow : row < (s.gridSize area).2.toNat) (hcol : col < (s.gridSize area).1.toNat) {x y : Nat}
    (hcovers : (s.place row col).Covers x y) : x < area.1.toNat ∧ y < area.2.toNat := by
  obtain ⟨hx, hy⟩ := end_place_le (fits_gridSize hw hh area) hrow hcol
  obtain ⟨⟨-, hright⟩, -, hbottom⟩ := hcovers
  constructor
  · exact Nat.lt_of_lt_of_le hright (Nat.le_trans hx (count_mul_le hwidth))
  · exact Nat.lt_of_lt_of_le hbottom (Nat.le_trans hy (count_mul_le hheight))

theorem fitted_grid_tiles {σ : Type} [Surface σ] {surface : σ} {size : CellSize}
    (h : measure surface = .ok size) :
    (1 ≤ size.width.toNat ∧ 1 ≤ size.height.toNat) ∧ ∀ width height : UInt32,
      let (cols, rows) := size.gridSize (width, height)
      (1 ≤ cols.toNat ∧ cols.toNat ≤ 65535 ∧ 1 ≤ rows.toNat ∧ rows.toNat ≤ 65535) ∧
      (∀ row col, row < rows.toNat → col < cols.toNat → ∃ place, size.rect? row col = some place ∧
        place.x.toNat = col * size.width.toNat ∧ place.y.toNat = row * size.height.toNat ∧
        place.width = size.width ∧ place.height = size.height ∧
        (∀ row' col', row' < rows.toNat → col' < cols.toNat → (row', col') ≠ (row, col) →
          ∀ place' ∈ size.rect? row' col', ∀ x y, ¬ (place.Covers x y ∧ place'.Covers x y)) ∧
        (size.width ≤ width → size.height ≤ height →
          ∀ x y, place.Covers x y → x < width.toNat ∧ y < height.toNat)) ∧
      (cols ≠ 65535 → width.toNat < (cols.toNat + 1) * size.width.toNat) ∧
      (rows ≠ 65535 → height.toNat < (rows.toNat + 1) * size.height.toNat) := by
  obtain ⟨hw, hh⟩ := size_pos h
  refine ⟨⟨hw, hh⟩, ?_⟩
  intro width height
  have hfits := fits_gridSize hw hh (width, height)
  have hbounds (pixels size : UInt32) :
      1 ≤ (count pixels size).toNat ∧ (count pixels size).toNat ≤ 65535 := by
    rw [toNat_count]
    omega
  refine ⟨⟨(hbounds _ _).1, (hbounds _ _).2, hbounds _ _⟩, ?_, lt_count_succ_mul hw, lt_count_succ_mul hh⟩
  have hrect {row col : Nat} (hrow : row < (size.gridSize (width, height)).2.toNat)
      (hcol : col < (size.gridSize (width, height)).1.toNat) :
      size.rect? row col = some (size.place row col) :=
    size.rect?_eq_place hfits.not_outgrown hrow hcol
  intro row col hrow hcol
  obtain ⟨hx, hy⟩ := toNat_place hfits.not_outgrown hrow hcol
  refine ⟨_, hrect hrow hcol, hx, hy, rfl, rfl, ?_, ?_⟩
  · intro row' col' hrow' hcol' hne place' hplace' x y
    rw [hrect hrow' hcol'] at hplace'
    obtain rfl := Option.some.inj hplace'
    rintro ⟨hcovers, hcovers'⟩
    obtain ⟨rfl, rfl⟩ := (covers_place hfits hrow hcol x y).mp hcovers
    obtain ⟨rfl, rfl⟩ := (covers_place hfits hrow' hcol' x y).mp hcovers'
    exact hne rfl
  · intro hwidth hheight x y hcovers
    exact inside_area hw hh hwidth hheight hrow hcol hcovers

theorem fitted_grid_tiles_largest :
    let surface : Recorder :=
      ⟨.blank 0 0, some (⟨0x4f32d05e⟩, .half), none, none, false, #[], 0⟩
    let size : CellSize := ⟨3000000000, 1⟩
    measure surface = .ok size ∧ size.gridSize (4294967295, 4294967295) = (1, 65535) ∧
      (∃ place, size.rect? 65534 0 = some place ∧ place.y.toNat = 65534 * 1) ∧
        4294967295 < (1 + 1) * 3000000000 := by
  intro surface size
  have h : measure surface = .ok size := by
    apply (measure_eq_ok surface size).mpr
    decide +kernel
  have hgrid : size.gridSize (4294967295, 4294967295) = (1, 65535) := by decide
  have htiles := (fitted_grid_tiles h).2 4294967295 4294967295
  rw [hgrid] at htiles
  obtain ⟨-, hplace, hright, -⟩ := htiles
  obtain ⟨place, hrect, -, hy, -⟩ := hplace 65534 0 (by decide) (by decide)
  exact ⟨h, hgrid, ⟨place, hrect, hy⟩, hright (by decide)⟩

end CellSize

end TermView
