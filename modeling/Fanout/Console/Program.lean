import Fanout.Console.Failure
import Fanout.Console.Invocation
import Fanout.Console.Listing
import Fanout.Dispatch.Behavior
import Fanout.Service.Broadcast
import Fanout.Service.Submit
import Fanout.Version

/-! The program behind the command line: it loads a topology from a file, lists its
members or runs a job on them, and prints what came of it. Jobs are echoed by the
nodes. The program prints all of its result or, when it fails, nothing. -/
namespace Fanout.Console

/-- What surrounds the program. -/
structure Host where
  env : Environment
  /-- The text of a file, or the reason why it cannot be read. -/
  file : String → Except String String
  /-- Job ids and clock readings, by their number. -/
  ids : Nat → JobId
  clock : Nat → Millis
  /-- The draw that is made when there are candidates. -/
  draw : Nat := 0
  /-- The output is a terminal. -/
  terminal : Bool := false

/-- How the program ends. -/
inductive Ending where
  /-- It has printed its result. -/
  | printed (text : String)
  /-- It has shown how it is called. -/
  | explained
  | failed (failure : Failure)
  /-- The command line was not understood. -/
  | misused
  /-- It was stopped by a limit that asks for too many permits. -/
  | stopped
  deriving DecidableEq, Repr

namespace Ending

def exitCode : Ending → Nat
  | .printed _ | .explained => 0
  | .failed _ => 1
  | .misused => 2
  | .stopped => 101

/-- What is on the standard output at the end. The text of the help is left to the edge
of the program. -/
def output : Ending → String
  | .printed text => text
  | _ => ""

end Ending

/-- The nodes that names stand for. White space around a name does not count, blank
names are left out, and a name that no member has stands for a node of which the
id alone is known. -/
def resolve (topology : Topology) (names : List String) : List Node :=
  ((names.map Text.trim).filter (· ≠ "")).map fun id =>
    (topology.member? ⟨id⟩).getD (Node.ofId id)

/-- The service of the program; its nodes echo their jobs. -/
def Host.service (host : Host) (topology : Topology) (config : Config) : Service where
  topology := topology
  dispatcher := .echoing topology.localNode.id
  ids := host.ids
  clock := host.clock
  config := config

/-- The job that options describe. -/
def JobOptions.descriptor (job : JobOptions) : Except Failure JobDescriptor :=
  match Json.Value.parse job.args with
  | .ok args => .ok ⟨job.className, job.units, args⟩
  | .error fault => .error (.badArgs fault)

/-- The topology in a file. -/
def Host.load (host : Host) (path : String) : Except Failure Topology :=
  match host.file path with
  | .error reason => .error (.unreadable path reason)
  | .ok text =>
    match Topology.parse text with
    | .ok topology => .ok topology
    | .error error => .error (.badTopology error)

/-! ### Texts -/

/-- Colors are wanted when they are forced, and otherwise on a terminal unless they
are turned off. A variable that is `0` neither forces nor asks for colors. -/
def colorsWanted (env : String → Option String) (terminal : Bool) : Bool :=
  let on (name : String) : Option Bool := (env name).map (· ≠ "0")
  on "CLICOLOR_FORCE" == some true ||
    ((env "NO_COLOR").isNone && (on "CLICOLOR").getD true && terminal)

/-- A text between the codes of a color and the code that ends it. -/
def painted (colors : Bool) (code text : String) : String :=
  if colors then "\x1b[" ++ code ++ "m" ++ text ++ "\x1b[0m" else text

def yellow : String := "33"
def boldGreen : String := "1;32"
def boldRed : String := "1;31"

/-- The list of some executions; there is a word for an empty one. -/
def executionsText (asJson colors : Bool) (executions : List Execution) : String :=
  if !asJson && executions.isEmpty then painted colors yellow "No nodes selected" ++ "\n"
  else Listing.render asJson executionColumns executions

/-- The counts of a broadcast in words, green when no node failed. -/
def summary (colors : Bool) (report : BroadcastReport) : String :=
  painted colors (if report.failed = 0 then boldGreen else boldRed)
    (toString report.succeeded ++ " succeeded, " ++ toString report.failed ++ " failed")

/-- The report of a broadcast as it is printed. -/
def reportText (asJson colors : Bool) (report : BroadcastReport) : String :=
  executionsText asJson colors report.executions ++
    if asJson then "" else summary colors report ++ "\n"

/-- The nodes of a broadcast: those that are named, or all members. -/
def broadcastNodes (topology : Topology) : Option (List String) → List Node
  | some names => resolve topology names
  | none => topology.members

/-- The configuration of the service for a broadcast. -/
def broadcastConfig (rejectEmpty : Bool) (maxParallel : Option Nat) : Config where
  emptyPolicy := if rejectEmpty then .reject else .allow
  maxParallel := maxParallel

/-- Broadcasts a job. -/
def Host.broadcast (host : Host) (topology : Topology) (asJson : Bool) (nodes : List Node)
    (job : JobOptions) (config : Config) : Ending :=
  match job.descriptor with
  | .error failure => .failed failure
  | .ok job =>
    match ((host.service topology config).broadcast ⟨nodes⟩ job {}).1 with
    | .ok report => .printed (reportText asJson (colorsWanted host.env host.terminal) report)
    | .error (.refused error) => .failed (.broadcastRefused error)
    | .error .tooManyPermits => .stopped

/-- Submits a job. -/
def Host.submit (host : Host) (topology : Topology) (asJson : Bool) (target : JobTarget)
    (job : JobOptions) : Ending :=
  match job.descriptor with
  | .error failure => .failed failure
  | .ok job =>
    match ((host.service topology {}).submit target job host.draw {}).1 with
    | .ok execution =>
      .printed (executionsText asJson (colorsWanted host.env host.terminal) [execution])
    | .error error => .failed (.submitRefused error)

/-- Does what a command says. A node to submit to is looked at before the job. -/
def Host.perform (host : Host) (topology : Topology) (asJson : Bool) : Command → Ending
  | .nodes =>
    .printed (Listing.render asJson (nodeColumns topology.localNode.id) topology.members)
  | .broadcast names job rejectEmpty maxParallel =>
    host.broadcast topology asJson (broadcastNodes topology names) job
      (broadcastConfig rejectEmpty maxParallel)
  | .submitTo name job =>
    match resolve topology [name] with
    | [] => .failed .namelessNode
    | node :: _ => host.submit topology asJson (.node node) job
  | .submitAny names job =>
    host.submit topology asJson (.anyNode (resolve topology names)) job

/-- Runs a command line that was understood. The topology is loaded first. -/
def Invocation.run (invocation : Invocation) (host : Host) : Ending :=
  match host.load invocation.topologyPath with
  | .error failure => .failed failure
  | .ok topology => host.perform topology invocation.asJson invocation.command

/-- Runs the program on the words of a command line. -/
def run (host : Host) (words : List String) : Ending :=
  match Invocation.read host.env words with
  | .ok invocation => invocation.run host
  | .error .help => .explained
  | .error .version => .printed versionLine
  | .error .misuse => .misused

end Fanout.Console
