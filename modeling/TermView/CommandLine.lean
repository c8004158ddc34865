namespace TermView.CommandLine

structure Options where
  config : Option String
  replay : Option String
  dump : Bool
deriving DecidableEq

def Options.none : Options := ⟨.none, .none, false⟩

inductive UsageError where
  | missingConfig
  | missingReplay
  | unknown (argument : String)
  | dumpWithoutReplay
deriving DecidableEq

def UsageError.message : UsageError → String
  | .missingConfig => "Missing config path"
  | .missingReplay => "Missing replay file"
  | .unknown argument => "Unknown option: " ++ argument
  | .dumpWithoutReplay => "--dump needs --replay <FILE>"

inductive Request where
  | run (options : Options)
  | help
  | version
  | refuse (e : UsageError)
deriving DecidableEq

inductive Flag where
  | help
  | version
  | config
  | replay
  | dump
deriving DecidableEq

def flag? : String → Option Flag
  | "-h" | "--help" => some .help
  | "-v" | "--version" => some .version
  | "-c" | "--config" => some .config
  | "-r" | "--replay" => some .replay
  | "-d" | "--dump" => some .dump
  | _ => none

/-- Reads arguments on top of the options read before. The last value of an option counts, and
help, version and every error end the reading where they stand. -/
def read (options : Options) : List String → Request
  | [] =>
    if options.dump ∧ options.replay.isNone then .refuse .dumpWithoutReplay else .run options
  | argument :: rest =>
    match flag? argument with
    | none => .refuse (.unknown argument)
    | some .help => .help
    | some .version => .version
    | some .dump => read { options with dump := true } rest
    | some .config =>
      match rest with
      | [] => .refuse .missingConfig
      | path :: rest => read { options with config := some path } rest
    | some .replay =>
      match rest with
      | [] => .refuse .missingReplay
      | path :: rest => read { options with replay := some path } rest

def parse (arguments : List String) : Request := read .none arguments

def version : String := "vtpane 0.1.0"

def helpText : String := String.join (([
  version ++ " - VT terminal view demo",
  "",
  "Usage: vtpane [OPTIONS]",
  "",
  "Options:",
  "  -c, --config <PATH>   Load configuration from PATH",
  "  -r, --replay <FILE>   Write FILE into the terminal before starting",
  "  -d, --dump            Print a text snapshot and exit (needs --replay)",
  "  -v, --version         Show version",
  "  -h, --help            Show this help",
  "",
  "Configuration: ~/.vtpane/config.toml",
  "Log file:      ~/.vtpane/vtpane.log (RUST_LOG to adjust)"] : List String).map (· ++ "\n"))

end TermView.CommandLine
