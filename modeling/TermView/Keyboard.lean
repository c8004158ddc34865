import TermView.Escape.Scanner

namespace TermView

structure Modifiers where
  shift : Bool
  control : Bool
  alt : Bool
  metaKey : Bool
deriving DecidableEq

namespace Modifiers

def none : Modifiers := ⟨false, false, false, false⟩

def bits (m : Modifiers) : Nat :=
  m.shift.toNat + 2 * m.control.toNat + 4 * m.alt.toNat + 8 * m.metaKey.toNat

end Modifiers

inductive ModifierKey where
  | shift
  | control
  | alt
  | metaKey
deriving DecidableEq

inductive Key where
  | char (c : Char)
  | enter
  | backspace
  | tab
  | escape
  | arrow (direction : Direction)
  | function (n : UInt8)
  | modifier (key : ModifierKey)
  | other
deriving DecidableEq

structure KeyPress where
  key : Key
  modifiers : Modifiers
deriving DecidableEq

def isControl (c : Char) : Bool := c.toNat ≤ 0x1f || (0x7f ≤ c.toNat && c.toNat ≤ 0x9f)

def Direction.final : Direction → Char
  | .up => 'A'
  | .down => 'B'
  | .right => 'C'
  | .left => 'D'

namespace KeyPress

def suppressesDefault (p : KeyPress) : Bool :=
  match p.key with
  | .tab | .arrow _ => true
  | _ => false

/-- Control and an ASCII letter are a control character; else alt puts an escape character before;
else control and meta send nothing. -/
def encodeChar (c : Char) (m : Modifiers) : Option (List Char) :=
  if isControl c then none
  else if m.control ∧ c.isAlpha then some [Char.ofNat (c.toUpper.toNat - 64)]
  else if m.alt then some [escapeChar, c]
  else if m.control ∨ m.metaKey then none
  else some [c]

def encode (p : KeyPress) : Option (List Char) :=
  match p.key with
  | .char c => encodeChar c p.modifiers
  | .enter => some ['\r']
  | .backspace => some ['\x7f']
  | .tab => some ['\t']
  | .arrow d => some [escapeChar, '[', d.final]
  | .escape | .function _ | .modifier _ | .other => none

end KeyPress

end TermView
