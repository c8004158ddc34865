import TermView.Console.Input
import TermView.Program

namespace TermView.Machine

open Console (Call Event KeyEvent)

def fileError : IO.Error → FileError
  | .noFileOrDirectory _ _ _ => .notFound
  | .inappropriateType _ 21 _ => .isDirectory
  | .inappropriateType _ _ _ => .notDirectory
  | .invalidArgument _ 22 _ => .nullInPath
  | .invalidArgument _ _ _ => .nameTooLong
  | e => .system (toString e)

def host : Host IO where
  getVariable name := IO.getEnv name
  read path := do
    match ← (IO.FS.readBinFile path).toBaseIO with
    | .ok bytes => pure (.ok bytes.toList)
    | .error e => pure (.error (fileError e))
  openLog directory name := do
    let _ ← (IO.FS.createDirAll directory).toBaseIO
    let _ ← (IO.FS.Handle.mk (joinPath directory name) .append).toBaseIO

def consoleSize : IO (UInt16 × UInt16) := do
  let length (name : String) (standard : Nat) : IO UInt16 := do
    pure (.ofNat (((← IO.getEnv name).bind String.toNat?).getD standard))
  pure (← length "COLUMNS" 80, ← length "LINES" 24)

def perform (calls : Array Call) : IO Unit := do
  let output ← IO.getStdout
  for call in calls do
    for command in call.commands do
      output.putStr command.text
  output.flush

def transmit (t : Session) : IO Session := do
  perform (t.surface.elim #[] (·.device.calls))
  pure { t with surface := t.surface.map ({ · with device := .fresh }) }

partial def converse (input : IO.FS.Stream) (t : Session) (events : List Event) :
    IO (Except SessionError Unit × Session) := do
  match events with
  | e :: rest =>
    match t.handle? e with
    | none => pure (.ok (), t)
    | some t => converse input (← transmit t) rest
  | [] =>
    let line ← input.getLine
    if line.isEmpty then pure (t.serve [])
    else converse input t ((KeyEvent.ofInput line.toList).map .key)

def runSession (settings : Settings) (replay : Option String) :
    IO (Except SessionError Unit) := do
  let (cols, rows) ← consoleSize
  match Session.start .fresh cols rows settings replay with
  | .error (e, device) =>
    perform device.calls
    pure (.error (.surface e))
  | .ok t =>
    let (result, t) ← converse (← IO.getStdin) (← transmit t) []
    let (result, device) := t.finish result .fresh
    perform device.calls
    pure result

def report (r : Program.Report) : IO UInt32 := do
  IO.print r.output
  IO.eprint r.errors
  pure r.exitCode

def run (arguments : List String) : IO UInt32 := do
  match ← Program.run host arguments with
  | .finished r => report r
  | .interactive settings replay =>
    match ← runSession settings replay with
    | .ok () => pure 0
    | .error e => report (Program.sessionError e)

end TermView.Machine

def main (arguments : List String) : IO UInt32 := TermView.Machine.run arguments
