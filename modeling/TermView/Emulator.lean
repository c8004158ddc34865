import TermView.Escape.Scanner

namespace TermView

def Screen.receive (s : Screen) : Char → Screen
  | '\n' => s.lineFeed
  | '\r' => s.carriageReturn
  | '\x08' => s.backspace
  | '\t' => s.tab
  | c => s.put c

structure Emulator where
  screen : Screen
  scanner : Scanner
deriving DecidableEq

namespace Emulator

def blank (cols rows : UInt16) : Emulator := ⟨.blank cols rows, .ground⟩

def advance (e : Emulator) (c : Char) : Emulator × Bool :=
  let ⟨screen, scanner⟩ := e
  match scanner.step c with
  | (scanner, .text) => (⟨screen, scanner⟩, false)
  | (scanner, .held) => (⟨screen, scanner⟩, true)
  | (scanner, .command command) => (⟨screen.execute command, scanner⟩, true)

def receive (e : Emulator) (c : Char) : Emulator :=
  match e.advance c with
  | (e, true) => e
  | (⟨screen, scanner⟩, false) => ⟨screen.receive c, scanner⟩

def write (e : Emulator) (text : String) : Emulator := text.toList.foldl receive e

end Emulator

end TermView
