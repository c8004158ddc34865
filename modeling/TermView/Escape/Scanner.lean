import TermView.Escape.Command

namespace TermView

def escapeChar : Char := '\x1b'

def isFinal (c : Char) : Bool := 0x40 ≤ c.toNat && c.toNat ≤ 0x7e

inductive Scanner where
  | ground
  | escape
  | collecting (parameters : Parameters)
deriving DecidableEq

inductive Token where
  | text
  | held
  | command (c : Command)
deriving DecidableEq

namespace Scanner

def inSequence (s : Scanner) : Bool := s != .ground

def step : Scanner → Char → Scanner × Token
  | .ground, c => if c = escapeChar then (.escape, .held) else (.ground, .text)
  | .escape, c => if c = '[' then (.collecting .empty, .held) else (.ground, .held)
  | .collecting p, c =>
    if isFinal c then (.ground, .command (.ofSequence c p.finish))
    else (.collecting (p.push c), .held)

end Scanner

end TermView
