/-!
# Arguments of the settings check

The options of the command line. Options of one letter may be joined, and the file may be joined to
its option; `--` ends the options, and nothing may follow it. An option with a value or a plain
switch is given at most once.
-/
namespace BalancerFlows.SettingsCheck

structure Options where
  /-- The file to check; without one the standard values and the environment are checked. -/
  file : Option String := none
  json : Bool := false
  verbosity : Nat := 0
  deriving Repr, DecidableEq, Inhabited

/-- What a command line that can be understood asks for. -/
inductive Request where
  | check (options : Options)
  | help
  | version
  deriving Repr, DecidableEq, Inhabited

namespace Options

/-- Takes the file, once, if its name is not empty. -/
def withFile? (o : Options) (file : String) : Option Options :=
  if o.file.isSome || file.isEmpty then none else some { o with file := some file }

def withJson? (o : Options) : Option Options :=
  if o.json then none else some { o with json := true }

/-- Asks for one more level of detail. -/
def moreVerbose (o : Options) : Options :=
  { o with verbosity := o.verbosity + 1 }

end Options

/-- What an argument leads to: more options, a value that is still to come, or an answer at once. -/
inductive Parsed where
  | options (o : Options)
  | awaitsFile (o : Options)
  | answer (r : Request)
  deriving Repr, DecidableEq, Inhabited

def letters? (o : Options) : List Char → Option Parsed
  | [] => some (.options o)
  | ['c'] => some (.awaitsFile o)
  | 'c' :: '=' :: file => (o.withFile? (String.ofList file)).map .options
  | 'c' :: file => (o.withFile? (String.ofList file)).map .options
  | 'v' :: rest => letters? o.moreVerbose rest
  | 'h' :: _ => some (.answer .help)
  | 'V' :: _ => some (.answer .version)
  | _ => none

/-- The word behind two dashes, with the value joined to it. -/
def word? (o : Options) (word : List Char) : Option Parsed :=
  match word.span fun c => c ≠ '=' with
  | (name, []) =>
      match String.ofList name with
      | "config" => some (.awaitsFile o)
      | "json" => o.withJson?.map .options
      | "verbose" => some (.options o.moreVerbose)
      | "help" => some (.answer .help)
      | "version" => some (.answer .version)
      | _ => none
  | (name, _ :: value) =>
      if String.ofList name = "config" then (o.withFile? (String.ofList value)).map .options
      else none

def argument? (o : Options) (argument : String) : Option Parsed :=
  match argument.toList with
  | '-' :: '-' :: word => word? o word
  | ['-'] => none
  | '-' :: rest => letters? o rest
  | _ => none

def isValue (argument : String) : Bool :=
  argument = "-" || argument.toList.head? ≠ some '-'

/-- Reads the arguments from left to right. -/
def parseOnto (o : Options) : List String → Option Request
  | [] => some (.check o)
  | ["--"] => some (.check o)
  | argument :: rest =>
      match argument? o argument with
      | none => none
      | some (.answer r) => some r
      | some (.options o) => parseOnto o rest
      | some (.awaitsFile o) =>
          match rest with
          | [] => none
          | file :: rest =>
              if isValue file then
                match o.withFile? file with
                | some o => parseOnto o rest
                | none => none
              else none

/-- Reads a command line; there is no answer when it cannot be understood. -/
def parse (arguments : List String) : Option Request :=
  parseOnto {} arguments

end BalancerFlows.SettingsCheck
