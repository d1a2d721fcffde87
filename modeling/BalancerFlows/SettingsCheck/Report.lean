import BalancerFlows.Json.Printer
import BalancerFlows.Journal.Event
import BalancerFlows.Settings.Loading
import BalancerFlows.SettingsCheck.Arguments

/-!
# The settings check

Loads the settings and shows them, as a table or as JSON, or says what is wrong with them. With one
level of detail more it also notes that the settings are valid, and with two that a file is loaded.
-/
namespace BalancerFlows.SettingsCheck

inductive Ending where
  /-- What was asked for, on the standard output. -/
  | shown (output : String)
  /-- The command line cannot be understood. -/
  | misused
  /-- The settings cannot be loaded. -/
  | unloadable (output complaint : String)
  /-- The check breaks off. -/
  | broken (output complaint : String)
  /-- The settings are refused. -/
  | refused (output complaint : String)
  deriving Repr, DecidableEq, Inhabited

namespace Ending

def status : Ending → UInt32
  | shown _ => 0
  | misused => 2
  | unloadable .. | refused .. => 1
  | broken .. => 101

def output : Ending → String
  | shown output | unloadable output _ | broken output _ | refused output _ => output
  | misused => ""

end Ending

def version : String :=
  "flow-config-check 0.1.0\n"

def usage : String :=
  "Usage: flow-config-check [OPTIONS]\n"

def help : String :=
  "Validate lbflow configuration files\n\n" ++ usage ++ "\nOptions:\n" ++
  "  -c, --config <CONFIG>  Configuration file (TOML); omit to check defaults plus environment\n" ++
  "      --json             Print the effective configuration as JSON\n" ++
  "  -v, --verbose...       Verbose output level (use multiple times for more verbosity)\n" ++
  "  -h, --help             Print help\n" ++
  "  -V, --version          Print version\n"

/-- What is said about a command line that cannot be understood. -/
def misuse : String :=
  "error: the arguments cannot be understood\n\n" ++ usage ++
    "\nFor more information, try '--help'.\n"

def Ending.complaint : Ending → String
  | shown _ => ""
  | misused => misuse
  | unloadable _ complaint | broken _ complaint | refused _ complaint => complaint

/-- A text filled up with blanks behind it. -/
def padRight (width : Nat) (s : String) : String :=
  s ++ String.ofList (List.replicate (width - s.length) ' ')

def padLeft (width : Nat) (s : String) : String :=
  String.ofList (List.replicate (width - s.length) ' ') ++ s

def row (name value : String) : String :=
  padRight 24 name ++ " " ++ padLeft 8 value ++ "\n"

def table (s : Settings) : String :=
  "✅ configuration valid\n\n" ++ row "operation" "limit" ++
  String.join ((Vocabulary.all : List Operation).map fun o =>
    row (text o) (toString (s.limits.limitFor o))) ++
  "\nretry: " ++ toString s.retry.maxAttempts ++ " attempts, sleep " ++
  toString s.retry.minSleepMs ++ "..=" ++ toString s.retry.maxSleepMs ++ " ms\n" ++
  "default source: " ++ s.defaultSource ++ "\n"

def note (time : String) (level : Level) (message : String) : String :=
  time ++ " " ++ padLeft 5 level.text ++ " " ++ message ++ "\n"

/-- The note that a file is being loaded, if that much detail is wanted. -/
def loadingNote (o : Options) (time : String) : String :=
  match o.file with
  | some path =>
      if 2 ≤ o.verbosity then
        note time .debug ((Event.settingsLoading path).message ++ " path=" ++ path)
      else ""
  | none => ""

/-- The note that the settings are valid, if detail is wanted. -/
def validNote (o : Options) (time : String) : String :=
  if 1 ≤ o.verbosity then note time .info "Configuration is valid" else ""

def complaint (o : Options) (cause : String) : String :=
  let what := match o.file with
    | some path => "invalid configuration in " ++ path
    | none => "invalid default configuration"
  "Error: " ++ what ++ "\n\nCaused by:\n    " ++ cause ++ "\n"

/-- Checks the settings of a file that was looked up, at some time. -/
def check (o : Options) (file : Option SettingsFile) (e : Environment) (time : String) : Ending :=
  match Settings.load file e with
  | .ok s =>
      let shown := if o.json then (encode s).pretty ++ "\n" else table s
      .shown (loadingNote o time ++ validNote o time ++ shown)
  | .error (.refused objection) =>
      .refused (loadingNote o time) (complaint o objection.toFailure.message)
  | .error .malformed =>
      .unloadable (loadingNote o time)
        (complaint o (Failure.configuration "the settings cannot be read").message)
  | .error .misplaced =>
      .broken (loadingNote o time) "a key counts back to a place before the start of a list\n"

def run (request : Option Request) (file : Option SettingsFile) (e : Environment) (time : String) :
    Ending :=
  match request with
  | none => .misused
  | some .help => .shown help
  | some .version => .shown version
  | some (.check o) => check o file e time

end BalancerFlows.SettingsCheck
