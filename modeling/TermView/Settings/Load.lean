import TermView.Host
import TermView.Settings.Read
import TermView.Text.Utf8

namespace TermView

namespace Settings

inductive LoadError where
  | read (path : String) (cause : FileError)
  | parse (cause : Fault)
deriving DecidableEq

def LoadError.message : LoadError → String
  | .read path cause => "Failed to read config " ++ path ++ ": " ++ cause.message
  | .parse cause => "Failed to parse config: " ++ cause.message

def LoadError.causes : LoadError → List String
  | .read _ cause => [cause.message]
  | .parse cause => [cause.message]

def ofContent (path : String) : Except FileError (List UInt8) → Except LoadError Settings
  | .error e => .error (.read path e)
  | .ok bytes =>
    match Text.decode? bytes with
    | none => .error (.read path .invalidText)
    | some text => (parse text).mapError .parse

variable {m : Type → Type} [Monad m]

def loadFrom (host : Host m) (path : String) : m (Except LoadError Settings) :=
  ofContent path <$> host.read path

def load (host : Host m) : m Settings := do
  match ← host.configPath? with
  | none => pure standard
  | some path => pure ((← loadFrom host path).toOption.getD standard)

end Settings

end TermView
