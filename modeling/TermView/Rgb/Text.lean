import TermView.Text.Basic
import TermView.Rgb
import TermView.Text.Quoted

namespace TermView

namespace Rgb

def hexByte (b : UInt8) : List Char :=
  [Nat.digitChar (b.toNat / 16), Nat.digitChar (b.toNat % 16)]

def text (c : Rgb) : String :=
  String.ofList ('#' :: hexByte c.red ++ hexByte c.green ++ hexByte c.blue)

inductive ParseError where
  | length (text : String)
  | digits (text : String)
deriving DecidableEq

def ParseError.message : ParseError → String
  | .length s => "expected #rrggbb, got " ++ Text.quote s
  | .digits s => "invalid hex color " ++ Text.quote s

def core (s : String) : List Char := (Text.trim s.toList).dropWhile (· == '#')

def parse (s : String) : Except ParseError Rgb :=
  let body := core s
  if (String.ofList body).utf8ByteSize ≠ 6 then .error (.length s)
  else
    match hexNumber? (if body.head? = some '+' then body.tail else body) with
    | some n => .ok (ofHex n)
    | none => .error (.digits s)

end Rgb

end TermView
