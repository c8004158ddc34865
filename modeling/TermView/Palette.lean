import TermView.Rgb

namespace TermView

inductive Color where
  | default
  | basic (n : UInt8)
  | bright (n : UInt8)
deriving DecidableEq

structure Scheme where
  name : String
  foreground : Rgb
  background : Rgb
  basic : Vector Rgb 8
  bright : Vector Rgb 8
deriving DecidableEq

namespace Scheme

def entry (colors : Vector Rgb 8) (n : UInt8) : Rgb :=
  colors.get ⟨n.toNat % 8, Nat.mod_lt _ (by decide)⟩

def resolve? (s : Scheme) : Color → Option Rgb
  | .default => none
  | .basic n => some (entry s.basic n)
  | .bright n => some (entry s.bright n)

def resolveForeground (s : Scheme) (c : Color) : Rgb := (s.resolve? c).getD s.foreground

def resolveBackground (s : Scheme) (c : Color) : Rgb := (s.resolve? c).getD s.background

def classic : Scheme where
  name := "default"
  foreground := .ofHex 0xe5e5e5
  background := .ofHex 0x000000
  basic := #v[.ofHex 0x000000, .ofHex 0xcd0000, .ofHex 0x00cd00, .ofHex 0xcdcd00,
    .ofHex 0x0000ee, .ofHex 0xcd00cd, .ofHex 0x00cdcd, .ofHex 0xe5e5e5]
  bright := #v[.ofHex 0x7f7f7f, .ofHex 0xff0000, .ofHex 0x00ff00, .ofHex 0xffff00,
    .ofHex 0x5c5cff, .ofHex 0xff00ff, .ofHex 0x00ffff, .ofHex 0xffffff]

def dracula : Scheme where
  name := "dracula"
  foreground := .ofHex 0xf8f8f2
  background := .ofHex 0x282a36
  basic := #v[.ofHex 0x21222c, .ofHex 0xff5555, .ofHex 0x50fa7b, .ofHex 0xf1fa8c,
    .ofHex 0xbd93f9, .ofHex 0xff79c6, .ofHex 0x8be9fd, .ofHex 0xf8f8f2]
  bright := #v[.ofHex 0x6272a4, .ofHex 0xff6e6e, .ofHex 0x69ff94, .ofHex 0xffffa5,
    .ofHex 0xd6acff, .ofHex 0xff92df, .ofHex 0xa4ffff, .ofHex 0xffffff]

def gruvboxDark : Scheme where
  name := "gruvbox-dark"
  foreground := .ofHex 0xebdbb2
  background := .ofHex 0x282828
  basic := #v[.ofHex 0x282828, .ofHex 0xcc241d, .ofHex 0x98971a, .ofHex 0xd79921,
    .ofHex 0x458588, .ofHex 0xb16286, .ofHex 0x689d6a, .ofHex 0xa89984]
  bright := #v[.ofHex 0x928374, .ofHex 0xfb4934, .ofHex 0xb8bb26, .ofHex 0xfabd2f,
    .ofHex 0x83a598, .ofHex 0xd3869b, .ofHex 0x8ec07c, .ofHex 0xebdbb2]

def tokyoNight : Scheme where
  name := "tokyo-night"
  foreground := .ofHex 0xc0caf5
  background := .ofHex 0x1a1b26
  basic := #v[.ofHex 0x15161e, .ofHex 0xf7768e, .ofHex 0x9ece6a, .ofHex 0xe0af68,
    .ofHex 0x7aa2f7, .ofHex 0xbb9af7, .ofHex 0x7dcfff, .ofHex 0xa9b1d6]
  bright := #v[.ofHex 0x414868, .ofHex 0xff899d, .ofHex 0x9fe044, .ofHex 0xfaba4a,
    .ofHex 0x8db0ff, .ofHex 0xc7a9ff, .ofHex 0xa4daff, .ofHex 0xc0caf5]

def all : List Scheme := [classic, dracula, gruvboxDark, tokyoNight]

/-- Lower case as far as it matters for a name in ASCII letters: of all other characters only
the kelvin sign has an ASCII letter for its lower case. -/
def foldCase (c : Char) : Char := if c = '\u212a' then 'k' else c.toLower

def named (name : String) : Scheme :=
  match String.ofList (name.toList.map foldCase) with
  | "dracula" => dracula
  | "gruvbox-dark" | "gruvbox_dark" | "gruvbox" => gruvboxDark
  | "tokyo-night" | "tokyo_night" | "tokyonight" => tokyoNight
  | _ => classic

end Scheme

end TermView
