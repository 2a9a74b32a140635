import Fanout.Console.Setting
import Fanout.Text.Split

/-! What a command line asks for. Options that are not given are looked up in the
environment where they have a variable; what the environment says is looked at
only then, but has to be acceptable. The options that every command has may stand
before the command and after it, and the later ones count. -/
namespace Fanout.Console

/-- The variables of the environment. -/
abbrev Environment := String → Option String

/-- The job that a command line describes. -/
structure JobOptions where
  className : String
  units : List String
  /-- The arguments as JSON text. -/
  args : String
  deriving DecidableEq, Repr

/-- What to do. -/
inductive Command where
  /-- Lists the members of the topology. -/
  | nodes
  /-- Runs a job on the nodes that are named, or on all members. -/
  | broadcast (names : Option (List String)) (job : JobOptions) (rejectEmpty : Bool)
    (maxParallel : Option Nat)
  /-- Runs a job once on the node that is named. -/
  | submitTo (name : String) (job : JobOptions)
  /-- Runs a job once on any of the nodes that are named. -/
  | submitAny (names : List String) (job : JobOptions)
  deriving DecidableEq, Repr

/-- A command line that was understood. -/
structure Invocation where
  topologyPath : String
  asJson : Bool
  command : Command
  deriving DecidableEq, Repr

/-- The commands by name. -/
inductive CommandName where
  | nodes
  | broadcast
  | submit
  deriving DecidableEq, Repr

namespace CommandName

def ofText? : String → Option CommandName
  | "nodes" => some .nodes
  | "broadcast" => some .broadcast
  | "submit" => some .submit
  | _ => none

/-- The options that may stand before and after the name of a command. -/
def common : List Setting := [.topology, .json, .help]

/-- The options that may stand after the name of a command. -/
def settings : CommandName → List Setting
  | .nodes => common
  | .broadcast => common ++ [.nodes, .job, .units, .args, .rejectEmpty, .maxParallel]
  | .submit => common ++ [.node, .any, .job, .units, .args]

end CommandName

namespace Given

/-- All values of a list option, taken apart at their commas. -/
def listed (given : Given) (setting : Setting) : List String :=
  (given.values setting).flatMap Text.commaParts

/-- The job; its class has to be given. -/
def job? (given : Given) : Option JobOptions :=
  (given.value? .job).map fun className =>
    { className, units := given.listed .units, args := (given.value? .args).getD "null" }

/-- An empty broadcast is to be rejected: by the flag, or by a variable that is
`true` and not `false`. -/
def rejectEmpty? (given : Given) (env : Environment) : Option Bool :=
  if given.has .rejectEmpty then some true
  else
    match env "GRIDCAST_REJECT_EMPTY" with
    | none => some false
    | some "true" => some true
    | some "false" => some false
    | some _ => none

/-- The limit on dispatches at a time, by the option or else by the variable. -/
def maxParallel? (given : Given) (env : Environment) : Option (Option Nat) :=
  match given.value? .maxParallel <|> env "GRIDCAST_MAX_PARALLEL" with
  | none => some none
  | some text => (permits? text).map some

/-- What to do, by the options that stand after the name of a command. To submit,
a node has to be named in exactly one of two ways. -/
def command? (given : Given) (env : Environment) : CommandName → Option Command
  | .nodes => some .nodes
  | .broadcast => do
    let job ← given.job?
    let rejectEmpty ← given.rejectEmpty? env
    let maxParallel ← given.maxParallel? env
    let names := if given.has .nodes then some (given.listed .nodes) else none
    return .broadcast names job rejectEmpty maxParallel
  | .submit => do
    let job ← given.job?
    match given.value? .node, given.has .any with
    | some name, false => return .submitTo name job
    | none, true => return .submitAny (given.listed .any) job
    | _, _ => none

/-- The topology file: the later option counts, then the variable. The variable
must not be empty unless the option was given before the command and after it. -/
def topologyPath? (outer inner : Given) (env : Environment) : Option String :=
  match outer.value? .topology, inner.value? .topology, env "GRIDCAST_TOPOLOGY" with
  | some _, some path, _ => some path
  | _, _, some "" => none
  | some path, none, _ => some path
  | none, some path, _ => some path
  | none, none, some path => some path
  | none, none, none => some "topology.json"

end Given

namespace Invocation

/-- What asking for help leads to: there is help on every command, and on itself. -/
def helpOn : List String → Stop
  | [] => .help
  | [name] =>
    if (CommandName.ofText? name).isSome || name == "help" then .help else .misuse
  | _ => .misuse

/-- The command line that a command and the options around its name make up. -/
def ofGiven? (outer inner : Given) (name : CommandName) (env : Environment) :
    Option Invocation := do
  let command ← inner.command? env name
  let topologyPath ← Given.topologyPath? outer inner env
  return { topologyPath, asJson := outer.has .json || inner.has .json, command }

/-- Reads a command line. -/
def read (env : Environment) (words : List String) : Except Stop Invocation :=
  match Given.scan (CommandName.common ++ [.version]) {} none words with
  | .error stop => .error stop
  | .ok (_, []) => .error .misuse
  | .ok (outer, name :: rest) =>
    if name == "help" then .error (helpOn rest)
    else
      match CommandName.ofText? name with
      | none => .error .misuse
      | some name =>
        match Given.scan name.settings {} none rest with
        | .error stop => .error stop
        | .ok (_, _ :: _) => .error .misuse
        | .ok (inner, []) =>
          match ofGiven? outer inner name env with
          | some invocation => .ok invocation
          | none => .error .misuse

end Invocation

end Fanout.Console
