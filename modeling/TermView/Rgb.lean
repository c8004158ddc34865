import TermView.Number.Binary

namespace TermView

structure Rgb where
  red : UInt8
  green : UInt8
  blue : UInt8
deriving DecidableEq

namespace Rgb

def ofHex (n : Nat) : Rgb := ⟨.ofNat (n / 65536), .ofNat (n / 256), .ofNat n⟩

def white : Rgb := ofHex 0xffffff

def black : Rgb := ofHex 0x000000

def luma (c : Rgb) : Nat := 299 * c.red.toNat + 587 * c.green.toNat + 114 * c.blue.toNat

def roundUnits (n : Nat) : Nat := decodeUnits 23 (encodeUnits 23 n 1)

/-- `top * opacity + under * (1 - opacity)`, each of the four operations rounded, then the
nearest byte. The opacity is in units and at most one. -/
def mixByte (opacity : Nat) (top under : UInt8) : UInt8 :=
  let share := roundUnits (top.toNat * opacity)
  let rest := roundUnits (under.toNat * roundUnits (Binary32.scale - opacity))
  .ofNat (min 255 ((roundUnits (share + rest) + Binary32.scale / 2) / Binary32.scale))

def blendOver (top under : Rgb) (opacity : Binary32) : Rgb :=
  if opacity.isNaN then black
  else
    let mix := mixByte opacity.clampUnit.units
    ⟨mix top.red under.red, mix top.green under.green, mix top.blue under.blue⟩

end Rgb

end TermView
