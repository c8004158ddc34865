import TermView.Palette
import TermView.Surface

namespace TermView

structure Settings where
  fontSize : Binary32
  fontFamily : String
  cols : UInt16
  rows : UInt16
  cursorOpacity : Binary32
  schemeName : String
  foreground : Option Rgb
  background : Option Rgb
deriving DecidableEq

namespace Settings

def standard : Settings where
  fontSize := .ofInt 14
  fontFamily := "monospace"
  cols := 80
  rows := 24
  cursorOpacity := .half
  schemeName := "default"
  foreground := none
  background := none

def scheme (s : Settings) : Scheme :=
  let named := Scheme.named s.schemeName
  { named with
    foreground := s.foreground.getD named.foreground
    background := s.background.getD named.background }

def opacity (s : Settings) : Binary32 :=
  if s.cursorOpacity.isFinite then s.cursorOpacity.clampUnit else standard.cursorOpacity

def font (s : Settings) : Font := ⟨s.fontFamily, s.fontSize⟩

end Settings

end TermView
