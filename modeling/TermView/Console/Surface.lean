import TermView.Console.Command

namespace TermView.Console

inductive Call where
  | enableRawMode
  | disableRawMode
  | enterScreen
  | leaveScreen
  | showFrame (commands : List Command)
deriving DecidableEq

def Call.commands : Call → List Command
  | .enableRawMode | .disableRawMode => []
  | .enterScreen => [.enterAlternateScreen, .hideCursor, .moveTo 0 0]
  | .leaveScreen => [.resetColors, .showCursor, .leaveAlternateScreen]
  | .showFrame commands => commands

/-- A console: what comes of the next calls (a reason if they fail; when the list has run out they
succeed), and the calls so far. -/
structure Device where
  outcomes : List (Option String)
  calls : Array Call
deriving DecidableEq

def Device.fresh : Device := ⟨[], #[]⟩

def Device.call (d : Device) (c : Call) : Except String Unit × Device :=
  (match d.outcomes with
    | some reason :: _ => .error reason
    | _ => .ok (), ⟨d.outcomes.tail, d.calls.push c⟩)

structure Display where
  canvas : Canvas
  attached : Bool
  device : Device
deriving DecidableEq

namespace Display

def new (device : Device) (cols rows : UInt16) : Display :=
  ⟨.blank cols.toUInt32 rows.toUInt32, false, device⟩

def resize (s : Display) (cols rows : UInt16) : Display :=
  { s with canvas := s.canvas.resize cols.toUInt32 rows.toUInt32 }

def attach (s : Display) : Except SurfaceError Unit × Display :=
  match s.device.call .enableRawMode with
  | (.error reason, device) =>
    (.error (.unavailable ("raw mode: " ++ reason)), { s with device })
  | (.ok (), device) =>
    let (result, device) := device.call .enterScreen
    (result.mapError .io, ⟨s.canvas, true, device⟩)

def present (s : Display) : Except SurfaceError Unit × Display :=
  if s.attached then
    let (result, device) := s.device.call (.showFrame (frame s.canvas))
    (result.mapError .io, { s with device })
  else (.ok (), s)

/-- Gives the console back as it was; there is nothing to give back unless it is attached. That
the screen could not be left does not keep raw mode from being switched off. -/
def restore (s : Display) : Except String Unit × Display :=
  if s.attached then
    let (_, device) := s.device.call .leaveScreen
    let (result, device) := device.call .disableRawMode
    (result, ⟨s.canvas, false, device⟩)
  else (.ok (), s)

def discard (s : Display) : Device := s.restore.2.device

instance : Surface Display where
  attach := attach
  size s := Surface.size s.canvas
  setFont s font := { s with canvas := Surface.setFont s.canvas font }
  glyphWidth s := Surface.glyphWidth s.canvas
  lineHeight s := Surface.lineHeight s.canvas
  fill s rect color opacity := { s with canvas := s.canvas.fill rect color opacity }
  glyph s char x y color := { s with canvas := s.canvas.glyph char x y color }
  present := present

end Display

end TermView.Console
