import TermView.CommandLine
import TermView.Session
import TermView.Settings.Load

namespace TermView.Program

structure Report where
  exitCode : UInt32
  output : String
  errors : String
deriving DecidableEq

inductive Outcome where
  | finished (report : Report)
  | interactive (settings : Settings) (replay : Option String)

def errorText (message : String) (causes : List String) : String :=
  let listed := match causes with
    | [] => ""
    | [cause] => "\n\nCaused by:\n    " ++ cause
    | causes =>
      "\n\nCaused by:" ++ String.join (causes.zipIdx.map fun (cause, i) => s!"\n    {i}: {cause}")
  "Error: " ++ message ++ listed ++ "\n"

def failed (message : String) (causes : List String) : Report :=
  ⟨1, "", errorText message causes⟩

def sessionError : SessionError → Report
  | .size reason => failed (SurfaceError.io reason).message [reason]
  | .surface (.io reason) =>
    failed (SurfaceError.io reason).attachMessage [(SurfaceError.io reason).message, reason]
  | .surface e => failed e.attachMessage [e.message]
  | .events reason | .restore reason => failed reason []

def dump (settings : Settings) (text : String) : String :=
  ((Emulator.blank settings.cols settings.rows).write text).screen.picture

variable {m : Type → Type} [Monad m]

def openLog (host : Host m) : m Unit := do
  host.openLog ((← host.directory?).getD "") "vtpane.log"

def readReplay (host : Host m) : Option String → m (Except Report (Option String))
  | none => pure (.ok none)
  | some path => do
    match ← host.read path with
    | .error e => pure (.error (failed ("reading replay file " ++ path) [e.message]))
    | .ok bytes => pure (.ok (some (Text.decodeLossy bytes)))

def loadSettings (host : Host m) : Option String → m (Except Report Settings)
  | none => .ok <$> Settings.load host
  | some path => do
    pure ((← Settings.loadFrom host path).mapError fun e => failed e.message e.causes)

def runWith (host : Host m) (options : CommandLine.Options) : m Outcome := do
  openLog host
  match ← loadSettings host options.config with
  | .error report => pure (.finished report)
  | .ok settings =>
    match ← readReplay host options.replay with
    | .error report => pure (.finished report)
    | .ok replay =>
      if options.dump then pure (.finished ⟨0, dump settings (replay.getD ""), ""⟩)
      else pure (.interactive settings replay)

def run (host : Host m) (arguments : List String) : m Outcome :=
  match CommandLine.parse arguments with
  | .help => pure (.finished ⟨0, "", CommandLine.helpText⟩)
  | .version => pure (.finished ⟨0, "", CommandLine.version ++ "\n"⟩)
  | .refuse e =>
    pure (.finished ⟨1, "", s!"Error: {e.message}\nUse --help for usage information\n"⟩)
  | .run options => runWith host options

end TermView.Program
