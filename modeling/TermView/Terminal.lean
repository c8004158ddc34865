import TermView.Emulator
import TermView.Keyboard
import TermView.Painter
import TermView.Settings

/-!
The terminal: an emulator, a painter, and at most one surface that shows the screen. Keys become
output for a listener.
-/

namespace TermView

structure Terminal (σ : Type) where
  emulator : Emulator
  painter : Painter
  font : Font
  surface : Option σ
  listener : Option (String → String)
  notes : Array String
  /-- Whether a frame had cells without places. Such a fault ends the program. -/
  faulted : Bool

namespace Terminal

variable {σ : Type} [Surface σ]

def new (settings : Settings) : Terminal σ where
  emulator := .blank settings.cols settings.rows
  painter := ⟨settings.scheme, settings.opacity, none⟩
  font := settings.font
  surface := none
  listener := none
  notes := #[]
  faulted := false

def screen (t : Terminal σ) : Screen := t.emulator.screen

def isAttached (t : Terminal σ) : Bool := t.surface.isSome

def render (t : Terminal σ) : Terminal σ :=
  let painted := t.surface.bind (t.painter.paint? t.emulator.screen)
  { t with
    surface := painted.or t.surface
    faulted := t.faulted || (t.surface.isSome && painted.isNone) }

def write (t : Terminal σ) (text : String) : Terminal σ :=
  render { t with emulator := t.emulator.write text }

def clear (t : Terminal σ) : Terminal σ :=
  render { t with emulator.screen := t.emulator.screen.clear .whole }

def resize? (t : Terminal σ) (cols rows : UInt16) : Option (Terminal σ) :=
  (t.emulator.screen.resize? cols rows).map fun screen =>
    render { t with emulator.screen := screen }

def fit? (t : Terminal σ) : Option (Terminal σ) := do
  let surface ← t.surface
  let cell ← t.painter.cellSize
  let (cols, rows) := cell.gridSize (Surface.size surface)
  t.resize? cols rows

def refresh (t : Terminal σ) : Terminal σ := t.fit?.getD t.render

def attach (t : Terminal σ) (surface : σ) : Except (SurfaceError × σ) (Terminal σ × Option σ) :=
  match Surface.attach surface with
  | (.error e, surface) => .error (e, surface)
  | (.ok (), surface) =>
    let surface := Surface.setFont surface t.font
    match CellSize.measure surface with
    | .error e => .error (e, surface)
    | .ok cell =>
      let attached := { t with painter.cellSize := some cell, surface := some surface }
      .ok (attached.refresh, t.surface)

def detach (t : Terminal σ) : Option σ × Terminal σ := (t.surface, { t with surface := none })

def listen (t : Terminal σ) (note : String → String) : Terminal σ :=
  { t with listener := some note }

def keyDown? (t : Terminal σ) (press : KeyPress) : Option (Terminal σ) :=
  press.encode.map fun output =>
    match t.listener with
    | none => t
    | some note => { t with notes := t.notes.push (note (String.ofList output)) }

end Terminal

end TermView
