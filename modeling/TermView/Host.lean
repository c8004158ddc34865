import TermView.Files

namespace TermView

structure Host (m : Type → Type) where
  getVariable : String → m (Option String)
  read : String → m (Except FileError (List UInt8))
  openLog (directory name : String) : m Unit

namespace Host

def ofTree (environment : List (String × String)) : Host (StateM FileTree) where
  getVariable name := pure (environment.lookup name)
  read path := do pure ((← get).read path)
  openLog directory name := modify (·.openForAppending directory name)

variable {m : Type → Type} [Monad m]

def home? (host : Host m) : m (Option String) := do
  match ← host.getVariable "HOME" with
  | some home => pure (some home)
  | none => host.getVariable "USERPROFILE"

def directory? (host : Host m) : m (Option String) := do
  pure ((← host.home?).map (joinPath · ".vtpane"))

def configPath? (host : Host m) : m (Option String) := do
  pure ((← host.directory?).map (joinPath · "config.toml"))

end Host

end TermView
