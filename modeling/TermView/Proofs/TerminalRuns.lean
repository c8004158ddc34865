import TermView.Proofs.CheckedScreen
import TermView.Proofs.EmulatorRuns
import TermView.Terminal

namespace TermView

namespace Terminal

inductive Call (σ : Type) where
  | write (text : String)
  | clear
  | resize (cols rows : UInt16)
  | fit
  | render
  | attach (surface : σ)
  | detach
  | listen (note : String → String)
  | keyDown (press : KeyPress)

variable {σ : Type} [Surface σ]

def perform (t : Terminal σ) : Call σ → Terminal σ
  | .write text => t.write text
  | .clear => t.clear
  | .resize cols rows => (t.resize? cols rows).getD t
  | .fit => t.fit?.getD t
  | .render => t.render
  | .attach surface => ((t.attach surface).map Prod.fst).toOption.getD t
  | .detach => t.detach.2
  | .listen note => t.listen note
  | .keyDown press => (t.keyDown? press).getD t

def performAll (t : Terminal σ) (calls : List (Call σ)) : Terminal σ := calls.foldl perform t

def fitOperations (t : Terminal σ) : List Operation :=
  match t.surface, t.painter.cellSize with
  | some surface, some cell =>
    let (cols, rows) := cell.gridSize (Surface.size surface)
    [.resize cols rows]
  | _, _ => []

def attached? (t : Terminal σ) (surface : σ) : Option (Terminal σ) :=
  match Surface.attach surface with
  | (.error _, _) => none
  | (.ok (), surface) =>
    let surface := Surface.setFont surface t.font
    match CellSize.measure surface with
    | .error _ => none
    | .ok cell => some { t with painter.cellSize := some cell, surface := some surface }

def operations (t : Terminal σ) : Call σ → List Operation
  | .write text => t.emulator.operations text.toList
  | .clear => [.clear .whole]
  | .resize cols rows => [.resize cols rows]
  | .fit => t.fitOperations
  | .attach surface => (t.attached? surface).elim [] fitOperations
  | .render | .detach | .listen _ | .keyDown _ => []

def operationsAll (t : Terminal σ) : List (Call σ) → List Operation
  | [] => []
  | call :: calls => t.operations call ++ (t.perform call).operationsAll calls

theorem perform_attach (t : Terminal σ) (surface : σ) :
    t.perform (.attach surface) = (t.attached? surface).elim t refresh := by
  unfold perform attached? attach
  dsimp only
  rcases Surface.attach surface with ⟨_ | _, surface'⟩
  · rfl
  · dsimp only
    cases CellSize.measure (Surface.setFont surface' t.font) <;> rfl

theorem attached?_screen {t t' : Terminal σ} {surface : σ} (h : t.attached? surface = some t') :
    t'.screen = t.screen := by
  unfold attached? at h
  split at h
  · cases h
  · dsimp only at h
    split at h
    · cases h
    · cases h; rfl

theorem screen_resize (t t' : Terminal σ) (h : t'.screen = t.screen) (cols rows : UInt16) :
    ((t.resize? cols rows).getD t').screen = t.screen.perform (.resize cols rows) := by
  have hs : t.resize? cols rows = (t.screen.resize? cols rows).map fun screen =>
    render { t with emulator.screen := screen } := rfl
  rw [hs, Screen.perform]
  cases t.screen.resize? cols rows with
  | none => exact h
  | some resized => rfl

theorem screen_fit (t t' : Terminal σ) (h : t'.screen = t.screen) :
    (t.fit?.getD t').screen = t.screen.performAll t.fitOperations := by
  unfold fit? fitOperations
  cases t.surface with
  | none => exact h
  | some surface =>
    cases t.painter.cellSize with
    | none => exact h
    | some cell => exact screen_resize t t' h _ _

theorem screen_perform (t : Terminal σ) (call : Call σ) :
    (t.perform call).screen = t.screen.performAll (t.operations call) := by
  cases call with
  | write text => exact Emulator.screen_foldl_receive t.emulator text.toList
  | clear => rfl
  | resize cols rows => exact screen_resize t t rfl cols rows
  | fit => exact screen_fit t t rfl
  | render => rfl
  | attach surface =>
    rw [perform_attach, operations]
    cases ht : t.attached? surface with
    | none => rfl
    | some attached =>
      have hs := screen_fit attached attached.render rfl
      rwa [attached?_screen ht] at hs
  | detach => rfl
  | listen note => rfl
  | keyDown press =>
    change ((t.keyDown? press).getD t).screen = t.screen
    unfold keyDown?
    cases press.encode with
    | none => rfl
    | some output => cases t.listener <;> rfl

theorem screen_performAll (t : Terminal σ) (calls : List (Call σ)) :
    (t.performAll calls).screen = t.screen.performAll (t.operationsAll calls) := by
  induction calls generalizing t with
  | nil => rfl
  | cons call calls ih =>
    rw [operationsAll, Screen.performAll_append, ← screen_perform, ← ih]
    rfl

end Terminal

open Checked in
theorem runs_never_fault :
    (∀ (cols rows : UInt16) (ops : List Operation),
      let s := (Screen.blank cols rows).performAll ops
      s.Sound ∧
      (s.cursor.col = s.cols ↔ (Screen.blank cols rows).wrapsAfterAll false ops) ∧
      position? s = some s.position ∧
      (∀ row, row? s.grid row = some (s.grid.row row.toNat)) ∧
      ∀ op, perform? s op = some (s.perform op)) ∧
    ∀ (σ : Type) [Surface σ] (settings : Settings) (calls : List (Terminal.Call σ)),
      let start : Terminal σ := .new settings
      let blank := Screen.blank settings.cols settings.rows
      let ops := start.operationsAll calls
      let s := (start.performAll calls).screen
      s = blank.performAll ops ∧ performAll? blank ops = some s ∧
      s.Sound ∧ (s.cursor.col = s.cols ↔ blank.wrapsAfterAll false ops) := by
  have sound (cols rows : UInt16) (ops : List Operation) :=
    Screen.sound_performAll (Screen.sound_blank cols rows) ops
  have wraps (cols rows : UInt16) := Screen.wrapsAfterAll_blank cols rows
  constructor
  · intro cols rows ops
    have h := sound cols rows ops
    exact ⟨h, (wraps cols rows ops).symm, position?_eq h, row?_eq h.grid, perform?_eq h⟩
  · intro σ _ settings calls
    have hrun := Terminal.screen_performAll (Terminal.new settings : Terminal σ) calls
    have h := sound settings.cols settings.rows
    dsimp only
    rw [hrun]
    exact ⟨rfl, performAll?_eq (Screen.sound_blank _ _) _, h _, (wraps _ _ _).symm⟩

end TermView
