import Fanout.Json.Writer
import Fanout.Text.Quoted

/-! Why a JSON text is refused: it ends too early, it is no JSON, or it is JSON of
another shape than the one asked for. Only the last kind has a message of its
own. -/
namespace Fanout.Json

/-- What stands where something else was expected. -/
inductive Found where
  | null
  | bool (b : Bool)
  | int (i : Int)
  | float (x : Binary64)
  | string (s : String)
  | sequence
  | map
  deriving DecidableEq, Repr

/-- A text in backticks. -/
def ticked (s : String) : String :=
  "`" ++ s ++ "`"

/-- An integer in decimal. -/
def intText (i : Int) : String :=
  String.ofList (intChars i)

/-- How a message names what was found. -/
def Found.text : Found → String
  | .null => "null"
  | .bool b => "boolean " ++ ticked (if b then "true" else "false")
  | .int i => "integer " ++ ticked (intText i)
  | .float x => "floating point " ++ ticked x.text
  | .string s => "string " ++ Text.quoted s
  | .sequence => "sequence"
  | .map => "map"

/-- A value of the wrong shape. -/
inductive Mismatch where
  | missingField (name : String)
  | duplicateField (name : String)
  | wrongType (found : Found) (expected : String)
  | outOfRange (i : Int) (expected : String)
  | wrongLength (length : Nat) (title : String) (fields : Nat)
  | unknownVariant (name : String) (known : List String)
  deriving DecidableEq, Repr

/-- The message for a value of the wrong shape. -/
def Mismatch.message : Mismatch → String
  | .missingField name => "missing field " ++ ticked name
  | .duplicateField name => "duplicate field " ++ ticked name
  | .wrongType found expected => "invalid type: " ++ found.text ++ ", expected " ++ expected
  | .outOfRange i expected =>
    "invalid value: integer " ++ ticked (intText i) ++ ", expected " ++ expected
  | .wrongLength length title fields =>
    "invalid length " ++ toString length ++ ", expected " ++ title ++ " with " ++
      toString fields ++ " elements"
  | .unknownVariant name known =>
    "unknown variant " ++ ticked name ++ ", expected one of " ++
      ", ".intercalate (known.map ticked)

/-- Why a text is refused. -/
inductive Fault where
  /-- The text ends inside a value. -/
  | eof
  /-- The text is no JSON, or exceeds what a reader accepts. -/
  | grammar
  /-- The text is JSON so far, of another shape. -/
  | shape (mismatch : Mismatch)
  deriving DecidableEq, Repr

/-- The message for a refused text. -/
def Fault.message : Fault → String
  | .eof => "unexpected end of JSON text"
  | .grammar => "malformed JSON text"
  | .shape mismatch => mismatch.message

/-- A reader takes a value off the front of the text and leaves the rest. -/
abbrev Reader (α : Type) := List Char → Except Fault (α × List Char)

end Fanout.Json
