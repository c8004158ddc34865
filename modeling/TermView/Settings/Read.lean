import TermView.Rgb.Text
import TermView.Settings
import TermView.Toml.Document

namespace TermView.Settings

inductive Fault where
  | malformed
  | unsuitable (name : String)
  | color (e : Rgb.ParseError)
deriving DecidableEq

def Fault.message : Fault → String
  | .malformed => "malformed document"
  | .unsuitable name => "unsuitable value for " ++ name
  | .color e => e.message

def text? : Toml.Value → Option String
  | .string s => some s
  | _ => none

def number? : Toml.Value → Option Binary32
  | .integer n => some (.ofInt n)
  | .float x => some (.ofBinary64 x)
  | _ => none

def word? : Toml.Value → Option UInt16
  | .integer n => if 0 ≤ n ∧ n < 65536 then some (.ofNat n.toNat) else none
  | _ => none

def take (s : Settings) (name : String) (v : Toml.Value) : Except Fault Settings :=
  let setting {α : Type} (value : Option α) (set : α → Settings) : Except Fault Settings :=
    value.elim (.error (.unsuitable name)) fun a => .ok (set a)
  let color (set : Rgb → Settings) : Except Fault Settings :=
    match text? v with
    | none => .error (.unsuitable name)
    | some text => ((Rgb.parse text).map set).mapError .color
  match name with
  | "font_size" => setting (number? v) fun x => { s with fontSize := x }
  | "font_family" => setting (text? v) fun x => { s with fontFamily := x }
  | "cols" => setting (word? v) fun x => { s with cols := x }
  | "rows" => setting (word? v) fun x => { s with rows := x }
  | "cursor_alpha" => setting (number? v) fun x => { s with cursorOpacity := x }
  | "color_scheme" => setting (text? v) fun x => { s with schemeName := x }
  | "foreground" => color fun x => { s with foreground := some x }
  | "background" => color fun x => { s with background := some x }
  | _ => .ok s

def parse (text : String) : Except Fault Settings :=
  match Toml.parse? text with
  | none => .error .malformed
  | some entries => entries.foldlM (fun s (name, v) => s.take name v) standard

end TermView.Settings
