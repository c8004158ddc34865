import TermView.Console.Event
import TermView.Console.Surface
import TermView.Terminal

/-!
An interactive session: a terminal on the console, whose keys are sent to a loopback that echoes
them as a line discipline would.
-/

namespace TermView

open Console (Device Event KeyEvent)

def loopback (sent : List Char) : List Char :=
  sent.flatMap fun
    | '\r' => ['\r', '\n']
    | '\x7f' => ['\x08']
    | c => [c]

def Terminal.answer {σ : Type} [Surface σ] (t : Terminal σ) : Terminal σ :=
  let sent := t.notes.toList.flatMap String.toList
  let t := { t with notes := #[] }
  if sent.isEmpty then t else t.write (String.ofList (loopback sent))

def banner : String :=
  "\x1b[32mvtpane\x1b[0m loopback session. Keys echo back; Ctrl+Q quits.\r\n"

inductive SessionError where
  | size (reason : String)
  | surface (cause : SurfaceError)
  | events (reason : String)
  | restore (reason : String)
deriving DecidableEq

abbrev Session := Terminal Console.Display

namespace Session

def start (device : Device) (cols rows : UInt16) (settings : Settings) (replay : Option String) :
    Except (SurfaceError × Device) Session :=
  let terminal : Session := (Terminal.new settings).listen id
  match terminal.attach (.new device cols rows) with
  | .error (e, surface) => .error (e, surface.discard)
  | .ok (terminal, _) =>
    let terminal := match replay with
      | none => terminal
      | some text => terminal.write text
    .ok (terminal.write banner)

def isQuit (e : KeyEvent) : Bool := e.code == .char 'q' && e.state.control

/-- A new size wipes the canvas, so a frame is painted even if the grid keeps its size. -/
def resize (t : Session) (cols rows : UInt16) : Session :=
  Terminal.refresh { t with surface := t.surface.map (·.resize cols rows) }

def handle? (t : Session) : Event → Option Session
  | .key e =>
    if e.kind = .release then some t
    else if isQuit e then none
    else some ((t.keyDown? e.toPress).getD t).answer
  | .resize cols rows => some (t.resize cols rows)
  | .other => some t

def serve (t : Session) : List (Except String Event) → Except SessionError Unit × Session
  | [] => (.error (.events "end of input"), t)
  | .error reason :: _ => (.error (.events reason), t)
  | .ok e :: rest =>
    match t.handle? e with
    | none => (.ok (), t)
    | some t => t.serve rest

def finish (t : Session) (result : Except SessionError Unit) (device : Device) :
    Except SessionError Unit × Device :=
  match t.detach.1 with
  | none => (result, device)
  | some surface =>
    match surface.restore with
    | (.error reason, surface) => (.error (.restore reason), surface.discard)
    | (.ok (), surface) => (result, surface.discard)

def run (device : Device) (size : Except String (UInt16 × UInt16)) (settings : Settings)
    (replay : Option String) (events : List (Except String Event)) :
    Except SessionError Unit × Device :=
  match size with
  | .error reason => (.error (.size reason), device)
  | .ok (cols, rows) =>
    match start device cols rows settings replay with
    | .error (e, device) => (.error (.surface e), device)
    | .ok t =>
      let (result, t) := t.serve events
      t.finish result device

end Session

end TermView
