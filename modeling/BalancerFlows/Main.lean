import BalancerFlows.Clock
import BalancerFlows.SettingsCheck.Report

/-!
# The program `flow-config-check`

Reads the arguments, the environment, the file and the clock, and prints what the check says.
-/
namespace BalancerFlows.SettingsCheck

/-- One variable of a process, given as its name, a sign of equality and its value. -/
def variableOf? (bytes : List UInt8) : Option (String × String) := do
  let entry ← String.fromUTF8? ⟨bytes.toArray⟩
  match entry.toList.span fun c => c ≠ '=' with
  | (name, _ :: value) => return (String.ofList name, String.ofList value)
  | _ => none

def readEnvironment : IO Environment := do
  let bytes ← IO.FS.readBinFile "/proc/self/environ"
  return (bytes.toList.splitOn 0).filterMap variableOf?

def readSettingsFile (path : String) : IO SettingsFile :=
  try
    return .content (← IO.FS.readFile path)
  catch _ =>
    return .unreadable

/-- The number behind a name in a listing of the system. -/
def numberBehind? (name : String) (listing : String) : Option Nat :=
  (listing.splitOn "\n").findSome? fun line =>
    match line.splitOn " " with
    | first :: second :: _ => if first = name then second.toNat? else none
    | _ => none

/-- The hundredths of a second in a decimal with two places. -/
def hundredths? (s : String) : Option Nat :=
  Decimal.read? (s.toList.filter fun c => c ≠ '.')

/-- The time since the start of 1970 in microseconds: when the system started, and how long ago
that is. -/
def readClock : IO Nat := do
  let started := numberBehind? "btime" (← IO.FS.readFile "/proc/stat")
  let running := (← IO.FS.readFile "/proc/uptime").splitOn " "
  return started.getD 0 * 1000000 + (running.head?.bind hundredths?).getD 0 * 10000

/-- Carries out the request of the command line. -/
def perform (arguments : List String) : IO Ending := do
  let request := parse arguments
  let file ← match request with
    | some (.check { file := some path, .. }) => some <$> readSettingsFile path
    | _ => pure none
  return run request file (← readEnvironment) (Clock.text (← readClock))

end BalancerFlows.SettingsCheck

/-- Checks the settings and exits with the status of the check. -/
def main (arguments : List String) : IO UInt32 := do
  let ending ← BalancerFlows.SettingsCheck.perform arguments
  IO.print ending.output
  IO.eprint ending.complaint
  return ending.status
