import TermView.Console.Event

namespace TermView.Console

def KeyState.none : KeyState := ⟨false, false, false, false, false, false⟩

namespace KeyEvent

def plain (code : KeyCode) : KeyEvent := ⟨code, .none, .press⟩

def withControl (c : Char) : KeyEvent := ⟨.char c, { KeyState.none with control := true }, .press⟩

def addAlt (e : KeyEvent) : KeyEvent := { e with state.alt := true }

def ofChar (c : Char) : KeyEvent :=
  match c with
  | '\x00' => withControl ' '
  | '\r' | '\n' => plain .enter
  | '\t' => plain .tab
  | '\x7f' => plain .backspace
  | '\x1b' => plain .esc
  | c =>
    if c.toNat < 0x1b then withControl (Char.ofNat (c.toNat + 0x60))
    else if c.toNat < 0x20 then withControl (Char.ofNat (c.toNat + 0x18))
    else plain (.char c)

def ofSequence? (introducer final : Char) : Option KeyEvent :=
  match introducer, final with
  | '[', 'A' | 'O', 'A' => some (plain (.arrow .up))
  | '[', 'B' | 'O', 'B' => some (plain (.arrow .down))
  | '[', 'C' | 'O', 'C' => some (plain (.arrow .right))
  | '[', 'D' | 'O', 'D' => some (plain (.arrow .left))
  | '[', 'H' | 'O', 'H' => some (plain .home)
  | '[', 'F' | 'O', 'F' => some (plain .toEnd)
  | '[', 'Z' => some (plain .backTab)
  | 'O', 'P' => some (plain (.function 1))
  | 'O', 'Q' => some (plain (.function 2))
  | 'O', 'R' => some (plain (.function 3))
  | 'O', 'S' => some (plain (.function 4))
  | _, _ => none

/-- The keys of some input. An escape character that begins no sequence is alt with the next
character. -/
def ofInput : List Char → List KeyEvent
  | [] => []
  | c :: rest =>
    if c = escapeChar then
      match rest with
      | [] => [plain .esc]
      | [d] => [(ofChar d).addAlt]
      | d :: final :: rest =>
        match ofSequence? d final with
        | some e => e :: ofInput rest
        | none => (ofChar d).addAlt :: ofInput (final :: rest)
    else ofChar c :: ofInput rest

end KeyEvent

end TermView.Console
