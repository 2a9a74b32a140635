import Fanout.Console.Program
import Fanout.Identifier

/-! The edge of the program: it collects what surrounds the program, runs it, and
puts its result where it belongs. -/
namespace Fanout.Console

/-- The variables of the environment that have a meaning for the program. -/
def variableNames : List String := [
  "GRIDCAST_TOPOLOGY", "GRIDCAST_REJECT_EMPTY", "GRIDCAST_MAX_PARALLEL",
  "CLICOLOR_FORCE", "CLICOLOR", "NO_COLOR"]

/-- The variables that are set. -/
def readEnvironment : IO Environment := do
  let found ← variableNames.filterMapM fun name => do
    return (← IO.getEnv name).map (name, ·)
  return fun name => found.lookup name

/-- The text of a file, or the reason why it cannot be read. -/
def readText (path : String) : IO (Except String String) := do
  try
    return .ok (← IO.FS.readFile path)
  catch error =>
    return .error (toString error)

/-- The `n`-th number of 128 bits in some bytes. -/
def bitsAt (bytes : ByteArray) (n : Nat) : Nat :=
  (List.range 16).foldl (fun bits i => bits * 256 + ((bytes.data[16 * n + i]?).getD 0).toNat) 0

/-- The surroundings of a command line that was understood. Every run has a node that
the topology or the command line names, so there is an id for every character of
them. No clock reading is printed: they count from an arbitrary start. -/
def surround (env : Environment) (words : List String) (path : String) : IO Host := do
  let file ← readText path
  let text := match file with
    | .ok text => text
    | .error _ => ""
  let runs := text.length + words.foldl (fun n word => n + word.length) 1
  let bytes ← IO.getRandomBytes (16 * runs + 16).toUSize
  let now ← IO.monoMsNow
  let terminal ← (← IO.getStdout).isTty
  return {
    env
    file := fun _ => file
    ids := fun n => randomId (bitsAt bytes n)
    clock := fun _ => Int64.ofNat now
    draw := bitsAt bytes runs
    terminal }

/-- The surroundings of any command line; a topology is read only for one that was
understood. -/
def readHost (words : List String) : IO Host := do
  let env ← readEnvironment
  match Invocation.read env words with
  | .ok invocation => surround env words invocation.topologyPath
  | .error _ =>
    return { env, file := fun _ => .error "", ids := randomId, clock := fun _ => 0 }

/-- How the program is called. -/
def usage : String := "Usage: gridcast [OPTIONS] <COMMAND>"

/-- Writes an ending where it belongs and gives the exit code. -/
def emit (ending : Ending) : IO UInt32 := do
  IO.print ending.output
  match ending with
  | .printed _ => pure ()
  | .explained => IO.println usage
  | .failed failure => IO.eprint failure.report
  | .misused => IO.eprintln ("error: the command line is not understood\n\n" ++ usage)
  | .stopped => IO.eprintln "error: too many permits"
  return ending.exitCode.toUInt32

end Fanout.Console

def main (words : List String) : IO UInt32 := do
  let host ← Fanout.Console.readHost words
  Fanout.Console.emit (Fanout.Console.run host words)
