import Fanout.Console.Word
import Fanout.Json.Value
import Fanout.Version

/-! The options of the program and how they are read off the front of a command
line. Every option has a form: a flag stands alone, a single option has one value,
a list option has values with commas between them and may be repeated, and a final
one ends the reading at once. -/
namespace Fanout.Console

/-- An option. -/
inductive Setting where
  | topology
  | json
  | help
  | version
  | nodes
  | job
  | units
  | args
  | rejectEmpty
  | maxParallel
  | node
  | any
  deriving DecidableEq, Repr

/-- How an option is given. -/
inductive Form where
  | flag
  | single
  | list
  | final (stop : Stop)
  deriving DecidableEq, Repr

/-- The number that decimal digits stand for, if there is a digit and nothing else. -/
def decimal? (cs : List Char) : Option Nat :=
  if cs.isEmpty || !cs.all Char.isDigit then none
  else some (cs.foldl (fun n c => 10 * n + (c.toNat - '0'.toNat)) 0)

/-- The number of permits that a text asks for: at least one, of at most 64 bits. A
plus sign may stand in front. -/
def permits? (text : String) : Option Nat :=
  let digits := match text.toList with
    | '+' :: rest => rest
    | cs => cs
  (decimal? digits).filter fun n => 1 ≤ n && n < wordCount

namespace Setting

def name : Setting → String
  | .topology => "topology"
  | .json => "json"
  | .help => "help"
  | .version => "version"
  | .nodes => "nodes"
  | .job => "job"
  | .units => "units"
  | .args => "args"
  | .rejectEmpty => "reject-empty"
  | .maxParallel => "max-parallel"
  | .node => "node"
  | .any => "any"

/-- The letter that stands for an option. -/
def letter? : Setting → Option Char
  | .help => some 'h'
  | .version => some 'V'
  | .job => some 'j'
  | _ => none

def form : Setting → Form
  | .json | .rejectEmpty => .flag
  | .help => .final .help
  | .version => .final .version
  | .nodes | .units | .any => .list
  | .topology | .job | .args | .maxParallel | .node => .single

/-- The value is acceptable for an option. -/
def accepts : Setting → String → Bool
  | .topology, value => value ≠ ""
  | .maxParallel, value => (permits? value).isSome
  | _, _ => true

/-- The word names an option. -/
def isNamedBy (setting : Setting) : Word → Bool
  | .long name _ => setting.name == name
  | .short letter _ => setting.letter? == some letter
  | _ => false

end Setting

/-- The options that were given, each with its value; the value of a flag is empty. -/
structure Given where
  pairs : List (Setting × String) := []
  deriving DecidableEq, Repr

namespace Given

/-- The option was given. -/
def has (given : Given) (setting : Setting) : Bool :=
  given.pairs.any (·.1 == setting)

/-- The values of an option in the order in which they were given. -/
def values (given : Given) (setting : Setting) : List String :=
  (given.pairs.filter (·.1 == setting)).map (·.2)

/-- The first value of an option. -/
def value? (given : Given) (setting : Setting) : Option String :=
  (given.values setting).head?

/-- The option, once more. Only a list may be given again, and the value has to be
acceptable. -/
def add? (given : Given) (setting : Setting) (value : String) : Option Given :=
  if (setting.form == .list || !given.has setting) && setting.accepts value then
    some ⟨given.pairs ++ [(setting, value)]⟩
  else none

/-- What a word that names an option leads to. -/
inductive Next where
  /-- The option is complete. -/
  | complete (given : Given)
  /-- The next word is the value of the option. -/
  | awaits (setting : Setting)
  | stops (stop : Stop)

/-- Takes up a word that names an option. -/
def take (given : Given) (setting : Setting) (word : Word) : Next :=
  let added (value : String) : Next :=
    match given.add? setting value with
    | some given => .complete given
    | none => .stops .misuse
  match setting.form, word with
  | .final _, .long _ (some _) => .stops .misuse
  | .final stop, _ => .stops stop
  | .flag, .long _ none => added ""
  | .flag, _ => .stops .misuse
  | _, _ =>
    match word.value? with
    | some value => added value
    | none => .awaits setting

/-- Reads options up to a word that is none and begins what is left. The value of
the option that is awaited, if one is, comes first; it may not look like an
option. -/
def scan (level : List Setting) (given : Given) (awaited : Option Setting) :
    List String → Except Stop (Given × List String)
  | [] => if awaited.isSome then .error .misuse else .ok (given, [])
  | text :: rest =>
    match awaited, Word.ofText text with
    | some setting, .plain value =>
      match given.add? setting value with
      | some given => scan level given none rest
      | none => .error .misuse
    | some _, _ => .error .misuse
    | none, .plain _ => .ok (given, text :: rest)
    | none, .closing => if rest.isEmpty then .ok (given, []) else .error .misuse
    | none, word =>
      match level.find? (·.isNamedBy word) with
      | none => .error .misuse
      | some setting =>
        match given.take setting word with
        | .complete given => scan level given none rest
        | .awaits setting => scan level given (some setting) rest
        | .stops stop => .error stop

end Given

end Fanout.Console
