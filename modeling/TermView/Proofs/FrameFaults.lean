import Mathlib.Data.List.Induction
import TermView.Proofs.FittedGrids
import TermView.Proofs.RefusedSurfaces

/-!
Which calls fault. A frame faults if its grid begins a column or a row beyond the words. The grid that
fills a surface does not, and other calls than a resize leave the size as it is; so a run faults with
a resize, and until then every frame can be painted.
-/

namespace TermView

namespace CellSize

variable (s : CellSize)

theorem not_outgrown_gridSize (area : UInt32 × UInt32) :
    ¬ s.Outgrown (s.gridSize area).1.toNat (s.gridSize area).2.toNat :=
  not_outgrown_of_lt (count_mul_lt _ _) (count_mul_lt _ _)

theorem outgrown_max_one (cols rows : UInt16) :
    s.Outgrown (max cols 1).toNat (max rows 1).toNat ↔ s.Outgrown cols.toNat rows.toNat := by
  have hsub (n : Nat) : max n 1 - 1 = n - 1 := by omega
  rw [Outgrown, Word.toNat_max_one, Word.toNat_max_one, hsub, hsub, Outgrown]

end CellSize

namespace Terminal

variable {σ : Type} [Surface σ]

def cellAfter (font : Font) (before : Option CellSize) : Step σ → Option CellSize
  | .call (.attach surface) =>
    match (prepare font surface).1 with
    | .error _ => before
    | .ok cell => some cell
  | .call .detach => none
  | .call _ | .alter _ => before

/-- The size of the cells on the attached surface, from the calls of a run. -/
def cell? (font : Font) (steps : List (Step σ)) : Option CellSize :=
  steps.foldl (cellAfter font) none

structure Arranged (t : Terminal σ) (cell : CellSize) : Prop where
  attached : t.surface.isSome
  cell_eq : t.painter.cellSize = some cell
  width_pos : 0 < cell.width.toNat
  height_pos : 0 < cell.height.toNat
  not_outgrown : t.faulted = false → ¬ cell.Outgrown t.screen.cols.toNat t.screen.rows.toNat

def LaidOut (t : Terminal σ) (cell : Option CellSize) : Prop :=
  t.screen.Sound ∧ cell.elim (t.surface = none) t.Arranged

variable {t : Terminal σ} {cell : Option CellSize}

omit [Surface σ] in
theorem LaidOut.arranged {size : CellSize} (h : t.LaidOut (some size)) : t.Arranged size := h.2

omit [Surface σ] in
theorem LaidOut.surface_eq (h : t.LaidOut none) : t.surface = none := h.2

omit [Surface σ] in
theorem outgrown_iff_of_size {cell : CellSize} {cols rows : UInt16}
    (h : t.screen.size = (cols, rows)) :
    cell.Outgrown t.screen.cols.toNat t.screen.rows.toNat ↔ cell.Outgrown cols.toNat rows.toNat := by
  obtain ⟨hcols, hrows⟩ := Prod.mk.inj h
  rw [hcols, hrows]

theorem size_perform_of_not_resize (ht : t.screen.Sound) (call : Call σ)
    (h : ∀ op ∈ t.operations call, ¬ op.isResize) :
    (t.perform call).screen.size = t.screen.size := by
  rw [screen_perform]
  have hshape := Screen.performAll_shape ht h
  exact Prod.ext hshape.cols_eq hshape.rows_eq

theorem size_perform_fit {surface : σ} {cell : CellSize} (hs : t.surface = some surface)
    (hc : t.painter.cellSize = some cell) :
    (t.perform .fit).screen.size = cell.gridSize (Surface.size surface) := by
  rw [screen_perform t .fit, operations, fitOperations, hs, hc, ← cell.gridSize_max_one]
  exact Screen.size_perform_resize _ _ _

theorem size_holding (t : Terminal σ) (cell : CellSize) (ready : σ) :
    (t.holding cell ready).refresh.screen.size = cell.gridSize (Surface.size ready) := by
  rw [refresh_holding]
  exact (Screen.size_perform_resize _ _ _).trans (cell.gridSize_max_one _)

theorem faulted_perform (h : t.LaidOut cell) {call : Call σ} (hkeep : call.keepsSurface) :
    (t.perform call).faulted ↔ t.faulted ∨ ∃ size ∈ cell, size.Outgrown
      (t.perform call).screen.cols.toNat (t.perform call).screen.rows.toNat := by
  have hstep := painted_perform t hkeep
  have hsound := sound_perform h.1 call
  rw [hstep.faulted_eq, Bool.or_eq_true, Bool.and_eq_true]
  cases cell with
  | none => simp [h.surface_eq]
  | some size =>
    have hnow := h.arranged
    simp only [hnow.attached, true_and, Option.mem_some_iff, exists_eq_left']
    rw [hstep.screen_eq] at hsound ⊢
    cases hframe : t.frame? call with
    | some screen =>
      rw [hframe, Option.getD_some] at hsound
      exact or_congr_right (Painter.faults_iff hnow.cell_eq hsound)
    | none =>
      -- without a frame the grid is the one before
      cases hf : t.faulted with
      | true => simp
      | false => simpa using hnow.not_outgrown hf

theorem laidOut_perform (h : t.LaidOut cell) {call : Call σ} (hkeep : call.keepsSurface) :
    (t.perform call).LaidOut cell := by
  have hstep := painted_perform t hkeep
  have hfaulted := faulted_perform h hkeep
  refine ⟨sound_perform h.1 call, ?_⟩
  cases cell with
  | none =>
    have hsome := hstep.isSome_surface
    rw [h.surface_eq] at hsome
    exact Option.not_isSome_iff_eq_none.mp (hsome ▸ Bool.false_ne_true)
  | some size =>
    have hnow := h.arranged
    refine ⟨?_, ?_, hnow.width_pos, hnow.height_pos, ?_⟩
    · rw [hstep.isSome_surface]
      exact hnow.attached
    · rw [hstep.painter_eq]
      exact hnow.cell_eq
    · intro hf hout
      exact Bool.false_ne_true (hf.symm.trans (hfaulted.mpr (.inr ⟨size, rfl, hout⟩)))

theorem faulted_perform_of_size (h : t.LaidOut cell) {call : Call σ} (hkeep : call.keepsSurface)
    (hsize : (t.perform call).screen.size = t.screen.size) :
    (t.perform call).faulted ↔ t.faulted := by
  rw [faulted_perform h hkeep]
  apply or_iff_left_of_imp
  rintro ⟨size, rfl, hout⟩
  rw [outgrown_iff_of_size hsize] at hout
  apply Bool.of_not_eq_false
  exact fun hf => h.arranged.not_outgrown hf hout

theorem faulted_perform_fit (h : t.LaidOut cell) : (t.perform .fit).faulted ↔ t.faulted := by
  rw [faulted_perform h rfl]
  apply or_iff_left
  rintro ⟨size, rfl, hout⟩
  obtain ⟨surface, hs⟩ := Option.isSome_iff_exists.mp h.arranged.attached
  rw [outgrown_iff_of_size (size_perform_fit hs h.arranged.cell_eq)] at hout
  exact size.not_outgrown_gridSize _ hout

theorem faulted_perform_resize (h : t.LaidOut cell) (cols rows : UInt16) :
    (t.perform (.resize cols rows)).faulted ↔
      t.faulted ∨ ∃ size ∈ cell, size.Outgrown cols.toNat rows.toNat := by
  have hsize : (t.perform (.resize cols rows)).screen.size = (max cols 1, max rows 1) := by
    rw [screen_perform]
    exact Screen.size_perform_resize t.screen cols rows
  rw [faulted_perform h rfl]
  simp only [outgrown_iff_of_size hsize, CellSize.outgrown_max_one]

theorem not_outgrown_holding (t : Terminal σ) (size : CellSize) (ready : σ) :
    ¬ size.Outgrown (t.holding size ready).refresh.screen.cols.toNat
      (t.holding size ready).refresh.screen.rows.toNat := by
  rw [outgrown_iff_of_size (size_holding t size ready)]
  exact size.not_outgrown_gridSize _

theorem faults_holding (ht : t.screen.Sound) (size : CellSize) (ready : σ) :
    (t.holding size ready).painter.faults (t.holding size ready).refresh.screen = false := by
  have hsound : (t.holding size ready).refresh.screen.Sound := by
    rw [refresh_holding, (painted_display _ _).screen_eq, Option.getD_some]
    exact Screen.sound_perform ht _
  rw [Bool.eq_false_iff, ne_eq, Painter.faults_iff rfl hsound]
  exact not_outgrown_holding t size ready

theorem faulted_holding (ht : t.screen.Sound) (size : CellSize) (ready : σ) :
    (t.holding size ready).refresh.faulted = t.faulted := by
  rw [(t.painted_holding size ready).faulted_eq, Option.any_some, faults_holding ht, Bool.and_false,
    Bool.or_false]
  rfl

theorem arranged_holding (t : Terminal σ) {font : Font} {surface ready : σ} {size : CellSize}
    (h : prepare font surface = (.ok size, ready)) : (t.holding size ready).refresh.Arranged size := by
  have hframe := t.painted_holding size ready
  obtain ⟨hw, hh⟩ := CellSize.size_pos (measure_of_prepare h)
  refine ⟨hframe.isSome_surface, ?_, hw, hh, fun _ => not_outgrown_holding t size ready⟩
  rw [hframe.painter_eq]
  rfl

theorem faulted_take (h : t.LaidOut cell) (step : Step σ) : (t.take step).faulted ↔
    t.faulted ∨ ∃ cols rows, step = .call (.resize cols rows) ∧
      ∃ size ∈ cell, size.Outgrown cols.toNat rows.toNat := by
  cases step with
  | alter change => simp [take]
  | call call =>
    cases call with
    | resize cols rows => simpa [take, and_assoc] using faulted_perform_resize h cols rows
    | fit => simpa [take] using faulted_perform_fit h
    | attach surface =>
      rw [take, perform_attach_eq]
      rcases prepare t.font surface with ⟨_ | size, ready⟩
      · simp
      · simp [faulted_holding h.1]
    | detach => simp [take, perform, detach]
    | write text =>
      have hsize := size_perform_of_not_resize h.1 (.write text)
        (t.emulator.isResize_operations text.toList)
      simpa [take] using faulted_perform_of_size h rfl hsize
    | clear =>
      have hsize := size_perform_of_not_resize h.1 .clear
        (by simp [operations, Operation.isResize])
      simpa [take] using faulted_perform_of_size h rfl hsize
    | render | listen | keyDown =>
      rw [take, faulted_perform_of_size h rfl (size_perform_of_not_resize h.1 _ (by simp [operations]))]
      simp

theorem faulted_perform_eq_false (h : t.LaidOut cell) (hf : t.faulted = false) (call : Call σ)
    (hcall : ∀ cols rows, call ≠ .resize cols rows) : (t.perform call).faulted = false := by
  rw [Bool.eq_false_iff, ne_eq, show t.perform call = t.take (.call call) from rfl, faulted_take h, hf]
  rintro (hf | ⟨cols, rows, he, -⟩)
  · cases hf
  · exact hcall cols rows (Step.call.inj he)

theorem laidOut_take (h : t.LaidOut cell) (step : Step σ) :
    (t.take step).LaidOut (cellAfter t.font cell step) := by
  have hsound := sound_take h.1 step
  -- Only taking a surface over brings one to a terminal, and the size of its cells with it.
  cases step with
  | alter change =>
    refine ⟨hsound, ?_⟩
    cases cell with
    | none => exact congrArg (Option.map change) h.surface_eq
    | some size =>
      have hnow := h.arranged
      refine { hnow with attached := ?_ }
      rw [take, Option.isSome_map]
      exact hnow.attached
  | call call =>
    cases call with
    | attach surface =>
      rw [take, perform_attach_eq] at hsound ⊢
      rw [cellAfter]
      rcases hprepare : prepare t.font surface with ⟨_ | size, ready⟩
      · exact h
      · rw [hprepare] at hsound
        exact ⟨hsound, t.arranged_holding hprepare⟩
    | detach => exact ⟨hsound, rfl⟩
    | write | clear | resize | fit | render | listen | keyDown => exact laidOut_perform h rfl

theorem laidOut_takeAll (settings : Settings) (steps : List (Step σ)) :
    ((new settings : Terminal σ).takeAll steps).LaidOut (cell? settings.font steps) := by
  induction steps using List.reverseRecOn with
  | nil => exact ⟨Screen.sound_blank _ _, rfl⟩
  | append_singleton steps step ih =>
    have hfont : ((new settings : Terminal σ).takeAll steps).font = settings.font :=
      font_takeAll _ steps
    have hnext := laidOut_take ih step
    rw [hfont] at hnext
    rw [takeAll_append, cell?, List.foldl_append]
    exact hnext

theorem faulted_takeAll (settings : Settings) (steps : List (Step σ)) :
    ((new settings : Terminal σ).takeAll steps).faulted ↔ ∃ earlier cols rows,
      earlier ++ [.call (.resize cols rows)] <+: steps ∧
        ∃ size ∈ cell? settings.font earlier, size.Outgrown cols.toNat rows.toNat := by
  induction steps using List.reverseRecOn with
  | nil => simp [takeAll, new]
  | append_singleton steps step ih =>
    have hstep := faulted_take (laidOut_takeAll settings steps) step
    rw [ih] at hstep
    rw [takeAll_append]
    refine hstep.trans ?_
    constructor
    · rintro (⟨earlier, cols, rows, hprefix, hout⟩ | ⟨cols, rows, rfl, hout⟩)
      · exact ⟨earlier, cols, rows, hprefix.trans (List.prefix_append _ _), hout⟩
      · exact ⟨steps, cols, rows, List.prefix_rfl, hout⟩
    · rintro ⟨earlier, cols, rows, hprefix, hout⟩
      rcases List.prefix_concat_iff.mp hprefix with hlast | hprefix
      · obtain ⟨rfl, rfl⟩ := List.append_singleton_inj.mp hlast
        exact .inr ⟨cols, rows, rfl, hout⟩
      · exact .inl ⟨earlier, cols, rows, hprefix, hout⟩

end Terminal

end TermView
