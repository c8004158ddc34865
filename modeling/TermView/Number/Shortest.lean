import TermView.Number.Binary

/-!
Decimal text with the fewest digits that read back as the same binary number. On each decimal
grid only the two neighbours of the number can lie among the reals that round to it, so the
coarsest grid with such a neighbour is found by trying the grids in turn.
-/

namespace TermView

structure Decimal where
  digits : Nat
  exponent : Int
deriving DecidableEq

def Decimal.text (d : Decimal) : String :=
  let ds := Nat.toDigits 10 d.digits
  if 0 ≤ d.exponent then String.ofList (ds ++ List.replicate d.exponent.toNat '0')
  else
    let places := (-d.exponent).toNat
    let padded := List.replicate (places + 1 - ds.length) '0' ++ ds
    let whole := padded.length - places
    String.ofList (padded.take whole ++ '.' :: padded.drop whole)

structure Bracket where
  low : Nat
  high : Nat
  closed : Bool

def Bracket.holds (b : Bracket) (n : Nat) : Bool :=
  if b.closed then b.low ≤ n && n ≤ b.high else b.low < n && n < b.high

/-- The multiple of `10 ^ k` nearest to `value / scale` that the bracket holds; of two equally
near the greater. -/
def Bracket.onGrid? (b : Bracket) (value scale : Nat) (k : Int) : Option Decimal :=
  let fine := Nat.pow 10 (-k).toNat
  let step := scale * Nat.pow 10 k.toNat
  let b' : Bracket := ⟨b.low * fine, b.high * fine, b.closed⟩
  let q := value * fine / step
  let rest := value * fine % step
  match b'.holds (q * step), b'.holds ((q + 1) * step) with
  | false, false => none
  | true, false => some ⟨q, k⟩
  | false, true => some ⟨q + 1, k⟩
  | true, true => some ⟨if 2 * rest < step then q else q + 1, k⟩

namespace Binary32

def bracket (x : Binary32) : Bracket :=
  let n := x.units
  ⟨decodeUnits 23 (x.magnitude - 1) + n, n + decodeUnits 23 (x.magnitude + 1),
    x.magnitude % 2 == 0⟩

def gridExponents : List Int := (List.range 90).map fun k : Nat => 39 - (k : Int)

def shortest (x : Binary32) : Decimal :=
  if x.magnitude = 0 then ⟨0, 0⟩
  else (gridExponents.findSome? (x.bracket.onGrid? (2 * x.units) (2 * scale))).getD ⟨0, 0⟩

def text (x : Binary32) : String :=
  if x.isNaN then "NaN"
  else (if x.negative then "-" else "") ++ if x.isFinite then x.shortest.text else "inf"

end Binary32

end TermView
