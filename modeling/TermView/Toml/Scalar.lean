import TermView.Text.Basic
import TermView.Toml.Value

namespace TermView.Toml

def grouped? (isDigit : Char → Bool) (cs : List Char) : Option (List Char) :=
  let groups := separate (· == '_') cs
  if groups.all fun g => !g.isEmpty && g.all isDigit then some groups.flatten else none

def decimal (digits : List Char) : Nat := digits.foldl (fun n c => 10 * n + (c.toNat - 48)) 0

def whole? (cs : List Char) : Option (List Char) :=
  (grouped? Char.isDigit cs).filter fun ds => ds.length == 1 || ds.head? != some '0'

def splitSign : List Char → Bool × List Char
  | '-' :: cs => (true, cs)
  | '+' :: cs => (false, cs)
  | cs => (false, cs)

def applySign (negative : Bool) (n : Nat) : Int := if negative then -n else n

def radix? (base : Nat) (cs : List Char) : Option Int := do
  let digits ← grouped? (fun c => (hexDigit? c).any (· < base)) cs
  pure (digits.foldl (fun n c => base * n + (hexDigit? c).getD 0) 0 : Nat)

def integer? (cs : List Char) : Option Int :=
  let n := match cs with
    | '0' :: 'x' :: ds => radix? 16 ds
    | '0' :: 'o' :: ds => radix? 8 ds
    | '0' :: 'b' :: ds => radix? 2 ds
    | cs =>
      let (negative, digits) := splitSign cs
      (whole? digits).map fun ds => applySign negative (decimal ds)
  n.filter fun n => -0x8000000000000000 ≤ n ∧ n < 0x8000000000000000

def isExponentMark (c : Char) : Bool := c == 'e' || c == 'E'

def exponent? : List Char → Option Int
  | [] => some 0
  | _ :: cs =>
    let (negative, digits) := splitSign cs
    (grouped? Char.isDigit digits).map fun ds => applySign negative (decimal ds)

def fraction? : List Char → Option (List Char)
  | [] => some []
  | _ :: cs => grouped? Char.isDigit cs

def fractional? (negative : Bool) (cs : List Char) : Option Binary64 := do
  let mantissa := cs.takeWhile (!isExponentMark ·)
  let whole ← whole? (mantissa.takeWhile (· != '.'))
  let fraction ← fraction? (mantissa.dropWhile (· != '.'))
  let exponent ← exponent? (cs.dropWhile (!isExponentMark ·))
  guard (cs.any fun c => c == '.' || isExponentMark c)
  let x := Binary64.ofDecimal negative (decimal (whole ++ fraction)) (exponent - fraction.length)
  guard (x ≠ .infinity false)
  pure x

def float? (cs : List Char) : Option Binary64 :=
  match splitSign cs with
  | (negative, ['i', 'n', 'f']) => some (.infinity negative)
  | (_, ['n', 'a', 'n']) => some .nan
  | (negative, cs) => fractional? negative cs

def fixed? (n : Nat) (cs : List Char) : Option (Nat × List Char) :=
  let digits := cs.take n
  if digits.length = n ∧ digits.all Char.isDigit then some (decimal digits, cs.drop n) else none

def after? (c : Char) : List Char → Option (List Char)
  | [] => none
  | x :: xs => if x = c then some xs else none

def isLeap (year : Nat) : Bool := year % 4 == 0 && (year % 100 != 0 || year % 400 == 0)

def daysIn (year month : Nat) : Nat :=
  if month = 2 then if isLeap year then 29 else 28
  else if month ∈ [4, 6, 9, 11] then 30
  else 31

def date? (cs : List Char) : Option (List Char) := do
  let (year, cs) ← fixed? 4 cs
  let (month, cs) ← fixed? 2 (← after? '-' cs)
  let (day, cs) ← fixed? 2 (← after? '-' cs)
  guard (1 ≤ month ∧ month ≤ 12 ∧ 1 ≤ day ∧ day ≤ daysIn year month)
  pure cs

def clock? (cs : List Char) : Option (List Char) := do
  let (hour, cs) ← fixed? 2 cs
  let (minute, cs) ← fixed? 2 (← after? ':' cs)
  guard (hour ≤ 23 ∧ minute ≤ 59)
  pure cs

def time? (cs : List Char) : Option (List Char) := do
  let cs ← clock? cs
  let (second, cs) ← fixed? 2 (← after? ':' cs)
  guard (second ≤ 60)
  match cs with
  | '.' :: fraction =>
    guard ((fraction.takeWhile Char.isDigit).length ≠ 0)
    pure (fraction.dropWhile Char.isDigit)
  | cs => pure cs

def offset? : List Char → Option (List Char)
  | 'Z' :: cs | 'z' :: cs => some cs
  | '+' :: cs | '-' :: cs => clock? cs
  | _ => none

def isMoment (cs : List Char) : Bool :=
  match date? cs with
  | none => time? cs == some []
  | some [] => true
  | some (mark :: cs) =>
    (mark == 'T' || mark == 't' || mark == ' ')
      && (time? cs).any fun rest => rest.isEmpty || offset? rest == some []

def scalar? (cs : List Char) : Option Value :=
  match String.ofList cs with
  | "true" => some (.boolean true)
  | "false" => some (.boolean false)
  | text =>
    if isMoment cs then some (.moment text)
    else (integer? cs).map Value.integer <|> (float? cs).map Value.float

end TermView.Toml
