import TermView.Canvas
import TermView.Keyboard

namespace TermView.Console

inductive Command where
  | enterAlternateScreen
  | leaveAlternateScreen
  | hideCursor
  | showCursor
  | moveTo (col row : UInt16)
  | setForeground (c : Rgb)
  | setBackground (c : Rgb)
  | print (c : Char)
  | resetColors
deriving DecidableEq

namespace Command

def components (c : Rgb) : String := s!"{c.red.toNat};{c.green.toNat};{c.blue.toNat}"

def text : Command → String
  | enterAlternateScreen => "\x1b[?1049h"
  | leaveAlternateScreen => "\x1b[?1049l"
  | hideCursor => "\x1b[?25l"
  | showCursor => "\x1b[?25h"
  | moveTo col row => s!"\x1b[{row.toNat + 1};{col.toNat + 1}H"
  | setForeground c => s!"\x1b[38;2;{components c}m"
  | setBackground c => s!"\x1b[48;2;{components c}m"
  | print c => String.singleton c
  | resetColors => "\x1b[0m"

end Command

def printable (c : Char) : Char := if isControl c then ' ' else c

/-- The commands that show some pixels, when the console prints in the colors `last`, and the
colors it prints in then. Colors are set only where they change. -/
def showPixels (last : Option (Rgb × Rgb)) : List Pixel → List Command × Option (Rgb × Rgb)
  | [] => ([], last)
  | p :: ps =>
    let colors := some (p.foreground, p.background)
    let rest := showPixels colors ps
    let shown := .print (printable p.char) :: rest.1
    if last = colors then (shown, rest.2)
    else (.setForeground p.foreground :: .setBackground p.background :: shown, rest.2)

def showRows (c : Canvas) (last : Option (Rgb × Rgb)) : List Nat → List Command
  | [] => []
  | y :: ys =>
    let row := showPixels last (c.row y)
    .moveTo 0 (.ofNat y) :: row.1 ++ showRows c row.2 ys

def frame (c : Canvas) : List Command :=
  showRows c none (List.range c.height.toNat) ++ [.resetColors]

end TermView.Console
