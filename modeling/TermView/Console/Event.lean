import TermView.Keyboard

namespace TermView.Console

inductive ModifierCode where
  | leftShift
  | rightShift
  | leftControl
  | rightControl
  | leftAlt
  | rightAlt
  | leftSuper
  | rightSuper
  | leftHyper
  | rightHyper
  | leftMeta
  | rightMeta
  | isoLevel3Shift
  | isoLevel5Shift
deriving DecidableEq

inductive KeyCode where
  | char (c : Char)
  | enter
  | backspace
  | tab
  | backTab
  | esc
  | arrow (direction : Direction)
  | home
  | toEnd
  | pageUp
  | pageDown
  | delete
  | insert
  | function (n : UInt8)
  | null
  | lock
  | media
  | modifier (code : ModifierCode)
deriving DecidableEq

structure KeyState where
  shift : Bool
  control : Bool
  alt : Bool
  super : Bool
  hyper : Bool
  metaKey : Bool
deriving DecidableEq

inductive KeyKind where
  | press
  | repeated
  | release
deriving DecidableEq

structure KeyEvent where
  code : KeyCode
  state : KeyState
  kind : KeyKind
deriving DecidableEq

inductive Event where
  | key (e : KeyEvent)
  | resize (cols rows : UInt16)
  | other
deriving DecidableEq

def ModifierCode.toKey : ModifierCode → ModifierKey
  | .leftShift | .rightShift => .shift
  | .leftControl | .rightControl => .control
  | .leftAlt | .rightAlt => .alt
  | _ => .metaKey

def KeyCode.toKey : KeyCode → Key
  | .char c => .char c
  | .enter => .enter
  | .backspace => .backspace
  | .tab => .tab
  | .esc => .escape
  | .arrow d => .arrow d
  | .function n => .function n
  | .modifier code => .modifier code.toKey
  | _ => .other

def KeyState.toModifiers (s : KeyState) : Modifiers :=
  ⟨s.shift, s.control, s.alt, s.super || s.metaKey⟩

def KeyEvent.toPress (e : KeyEvent) : KeyPress := ⟨e.code.toKey, e.state.toModifiers⟩

end TermView.Console
