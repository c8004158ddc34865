import TermView.Proofs.TerminalRuns

namespace TermView.Terminal

variable {σ : Type} [Surface σ]

def prepare (font : Font) (surface : σ) : Except SurfaceError CellSize × σ :=
  match Surface.attach surface with
  | (.error e, surface) => (.error e, surface)
  | (.ok (), surface) =>
    (CellSize.measure (Surface.setFont surface font), Surface.setFont surface font)

theorem prepare_of_attach {font : Font} {surface attached : σ}
    (h : Surface.attach surface = (.ok (), attached)) :
    prepare font surface =
      (CellSize.measure (Surface.setFont attached font), Surface.setFont attached font) := by
  rw [prepare, h]

theorem measure_of_prepare {font : Font} {surface ready : σ} {cell : CellSize}
    (h : prepare font surface = (.ok cell, ready)) : CellSize.measure ready = .ok cell := by
  rcases hattach : Surface.attach surface with ⟨_ | _, attached⟩
  · rw [prepare, hattach] at h
    cases h
  · rw [prepare_of_attach hattach] at h
    obtain ⟨hmeasure, rfl⟩ := Prod.mk.inj h
    exact hmeasure

def holding (t : Terminal σ) (cell : CellSize) (surface : σ) : Terminal σ :=
  { t with painter.cellSize := some cell, surface := some surface }

theorem attach_eq (t : Terminal σ) (surface : σ) :
    t.attach surface = match prepare t.font surface with
      | (.error e, refused) => .error (e, refused)
      | (.ok cell, ready) => .ok ((t.holding cell ready).refresh, t.surface) := by
  unfold attach prepare
  rcases Surface.attach surface with ⟨_ | _, attached⟩
  · rfl
  · dsimp only
    cases CellSize.measure (Surface.setFont attached t.font) <;> rfl

theorem attach_eq_error {t : Terminal σ} {surface refused : σ} {e : SurfaceError}
    (h : t.attach surface = .error (e, refused)) : prepare t.font surface = (.error e, refused) := by
  rw [attach_eq] at h
  generalize prepare t.font surface = prepared at h ⊢
  rcases prepared with ⟨_ | cell, ready⟩ <;> cases h
  rfl

theorem attach_eq_ok {t t' : Terminal σ} {surface : σ} {before : Option σ}
    (h : t.attach surface = .ok (t', before)) :
    ∃ cell ready, prepare t.font surface = (.ok cell, ready) ∧
      t' = (t.holding cell ready).refresh ∧ before = t.surface := by
  rw [attach_eq] at h
  generalize prepare t.font surface = prepared at h ⊢
  rcases prepared with ⟨_ | cell, ready⟩ <;> cases h
  exact ⟨cell, ready, rfl, rfl, rfl⟩

theorem perform_attach_eq (t : Terminal σ) (surface : σ) :
    t.perform (.attach surface) = match prepare t.font surface with
      | (.error _, _) => t
      | (.ok cell, ready) => (t.holding cell ready).refresh := by
  rw [perform, attach_eq]
  rcases prepare t.font surface with ⟨_ | cell, ready⟩ <;> rfl

inductive Step (σ : Type) where
  | call (call : Call σ)
  | alter (change : σ → σ)

def take (t : Terminal σ) : Step σ → Terminal σ
  | .call call => t.perform call
  | .alter change => { t with surface := t.surface.map change }

def takeAll (t : Terminal σ) (steps : List (Step σ)) : Terminal σ := steps.foldl take t

theorem takeAll_append (t : Terminal σ) (earlier later : List (Step σ)) :
    t.takeAll (earlier ++ later) = (t.takeAll earlier).takeAll later := List.foldl_append

end TermView.Terminal
