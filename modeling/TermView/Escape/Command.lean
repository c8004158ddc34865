import TermView.Escape.Parameters
import TermView.Screen

namespace TermView

inductive Command where
  | style (codes : List (Option Int))
  | moveTo (row col : UInt16)
  | move (direction : Direction) (amount : UInt16)
  | erase (extent : Extent)
  | eraseLine (extent : Extent)
  | ignored
deriving DecidableEq

namespace Command

def parameter (values : Array (Option Int)) (i : Nat) (default : Int) : Int :=
  (values[i]?.join).getD default

def clampWord (n : Int) : UInt16 := .ofNat (min n.toNat 65535)

def extent? : Int → Option Extent
  | 0 => some .fromCursor
  | 2 => some .whole
  | _ => none

def ofSequence (final : Char) (values : Array (Option Int)) : Command :=
  let word i := clampWord (parameter values i 1)
  let extent := extent? (parameter values 0 0)
  match final with
  | 'm' => .style values.toList
  | 'H' | 'f' => .moveTo (word 0) (word 1)
  | 'A' => .move .up (word 0)
  | 'B' => .move .down (word 0)
  | 'C' => .move .right (word 0)
  | 'D' => .move .left (word 0)
  | 'J' => extent.elim .ignored .erase
  | 'K' => extent.elim .ignored .eraseLine
  | _ => .ignored

end Command

def Pen.apply (p : Pen) (code : Int) : Pen :=
  let entry (first : Int) : UInt8 := .ofNat (code - first).toNat
  if code = 0 then .plain
  else if 30 ≤ code ∧ code ≤ 37 then { p with foreground := .basic (entry 30) }
  else if 40 ≤ code ∧ code ≤ 47 then { p with background := .basic (entry 40) }
  else if 90 ≤ code ∧ code ≤ 97 then { p with foreground := .bright (entry 90) }
  else if 100 ≤ code ∧ code ≤ 107 then { p with background := .bright (entry 100) }
  else p

def Pen.applyAll (p : Pen) : List (Option Int) → Pen
  | [] => .plain
  | codes => codes.foldl (fun p code => p.apply (code.getD 0)) p

def Screen.execute (s : Screen) : Command → Screen
  | .style codes => { s with pen := s.pen.applyAll codes }
  | .moveTo row col => s.moveTo row col
  | .move direction amount => s.move direction amount
  | .erase extent => s.erase extent
  | .eraseLine extent => s.eraseLine extent
  | .ignored => s

end TermView
