namespace TermView

def nearestEven (num den : Nat) : Nat :=
  let q := num / den
  let twice := 2 * (num % den)
  if twice < den ∨ twice = den ∧ q % 2 = 0 then q else q + 1

def encodeUnits (p num den : Nat) : Nat :=
  let shift := (num / den).log2 - p
  shift * Nat.pow 2 p + nearestEven num (den * Nat.pow 2 shift)

def decodeUnits (p pattern : Nat) : Nat :=
  let hidden := Nat.pow 2 p
  if pattern < hidden then pattern
  else (hidden + pattern % hidden) * Nat.pow 2 (pattern / hidden - 1)

structure Binary64 where
  bits : UInt64
deriving DecidableEq

namespace Binary64

def infinite : Nat := 0x7ff0000000000000

def negative (x : Binary64) : Bool := 0x8000000000000000 ≤ x.bits.toNat

def magnitude (x : Binary64) : Nat := x.bits.toNat % 0x8000000000000000

def ofMagnitude (negative : Bool) (m : Nat) : Binary64 :=
  ⟨.ofNat (m + if negative then 0x8000000000000000 else 0)⟩

def nan : Binary64 := ofMagnitude false 0x7ff8000000000000

def infinity (negative : Bool) : Binary64 := ofMagnitude negative infinite

/-- The number nearest to `digits · 10 ^ exponent`. A value outside `10 ^ -330 … 10 ^ 310` is
settled by its size, so that no power is larger than the digits ask for. -/
def ofDecimal (negative : Bool) (digits : Nat) (exponent : Int) : Binary64 :=
  let size := (Nat.toDigits 10 digits).length + exponent
  if digits = 0 ∨ size < -330 then ofMagnitude negative 0
  else if 310 < size then infinity negative
  else
    let num := digits * Nat.pow 10 exponent.toNat * Nat.pow 2 1074
    ofMagnitude negative (min infinite (encodeUnits 52 num (Nat.pow 10 (-exponent).toNat)))

end Binary64

structure Binary32 where
  bits : UInt32
deriving DecidableEq

namespace Binary32

def infinite : Nat := 0x7f800000

def negative (x : Binary32) : Bool := 0x80000000 ≤ x.bits.toNat

def magnitude (x : Binary32) : Nat := x.bits.toNat % 0x80000000

def ofMagnitude (negative : Bool) (m : Nat) : Binary32 :=
  ⟨.ofNat (m + if negative then 0x80000000 else 0)⟩

def isNaN (x : Binary32) : Bool := infinite < x.magnitude

def isFinite (x : Binary32) : Bool := x.magnitude < infinite

def units (x : Binary32) : Nat := decodeUnits 23 x.magnitude

def scale : Nat := Nat.pow 2 149

def nan : Binary32 := ⟨0x7fc00000⟩

def zero : Binary32 := ⟨0⟩

def half : Binary32 := ⟨0x3f000000⟩

def one : Binary32 := ⟨0x3f800000⟩

def infinity (negative : Bool) : Binary32 := ofMagnitude negative infinite

def ofUnits (negative : Bool) (num den : Nat) : Binary32 :=
  ofMagnitude negative (min infinite (encodeUnits 23 num den))

def ofInt (n : Int) : Binary32 := ofUnits (n < 0) (n.natAbs * scale) 1

def ofBinary64 (x : Binary64) : Binary32 :=
  if Binary64.infinite < x.magnitude then nan
  else if x.magnitude = Binary64.infinite then infinity x.negative
  else ofUnits x.negative (decodeUnits 52 x.magnitude) (Nat.pow 2 925)

def key (x : Binary32) : Int := if x.negative then -x.magnitude else x.magnitude

instance : LT Binary32 := ⟨fun x y => !x.isNaN && !y.isNaN && x.key < y.key⟩

instance : LE Binary32 := ⟨fun x y => !x.isNaN && !y.isNaN && x.key ≤ y.key⟩

instance (x y : Binary32) : Decidable (x < y) :=
  inferInstanceAs (Decidable ((!x.isNaN && !y.isNaN && x.key < y.key) = true))

instance (x y : Binary32) : Decidable (x ≤ y) :=
  inferInstanceAs (Decidable ((!x.isNaN && !y.isNaN && x.key ≤ y.key) = true))

def clampUnit (x : Binary32) : Binary32 :=
  if x < zero then zero else if one < x then one else x

def round (x : Binary32) : Nat :=
  if x.negative then 0 else (x.units + scale / 2) / scale

end Binary32

end TermView
