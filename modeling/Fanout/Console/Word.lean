/-! The words of a command line. What a word looks like is decided before anything
is known about the options there are: a word that begins with a dash names an
option, unless it is the dash alone. -/
namespace Fanout.Console

/-- How a word looks. -/
inductive Word where
  /-- A name or a value. -/
  | plain (text : String)
  /-- Two dashes alone, after which no option follows. -/
  | closing
  /-- An option by its name, perhaps with a value after an equals sign. -/
  | long (name : String) (value : Option String)
  /-- An option by its letter, and what follows the letter. -/
  | short (letter : Char) (rest : List Char)
  deriving DecidableEq, Repr

namespace Word

/-- The look of a word. -/
def ofText (text : String) : Word :=
  match text.toList with
  | ['-', '-'] => .closing
  | '-' :: '-' :: rest =>
    .long (String.ofList (rest.takeWhile (· != '=')))
      (match rest.dropWhile (· != '=') with
        | [] => none
        | _ :: value => some (String.ofList value))
  | '-' :: letter :: rest => .short letter rest
  | _ => .plain text

/-- The value that an option carries in its own word. The letter of an option and
its value may have an equals sign between them. -/
def value? : Word → Option String
  | .long _ value => value
  | .short _ [] => none
  | .short _ ('=' :: value) => some (String.ofList value)
  | .short _ value => some (String.ofList value)
  | _ => none

end Word

end Fanout.Console
