import Fanout.Json.Reader

/-! Reading values of a known shape: strings, integers, options, lists and
records. A record is read from an object, its fields in any order with other
members among them, or from an array that lists its fields in order. -/
namespace Fanout.Json

/-- What stands at the front of the text, read to its end when it is a scalar. -/
def found (s : List Char) : Except Fault Found :=
  match s with
  | [] => .error .eof
  | c :: rest =>
    if c = '[' then .ok .sequence
    else if c = '\x7b' then .ok .map
    else
      match scalar (c :: rest) with
      | .error fault => .error fault
      | .ok (v, _) =>
        match v with
        | .null => .ok .null
        | .bool b => .ok (.bool b)
        | .int i => .ok (.int i)
        | .float x => .ok (.float x)
        | .string s => .ok (.string s)
        | .array _ => .ok .sequence
        | .object _ => .ok .map

/-- The fault for a value that is not what was expected. A fault inside the value
itself comes first. -/
def refuse (expected : String) (s : List Char) : Fault :=
  match found s with
  | .error fault => fault
  | .ok f => .shape (.wrongType f expected)

/-- A string. -/
def string : Reader String := fun s =>
  match skipSpace s with
  | [] => .error .eof
  | c :: rest => if c = '"' then stringRest rest else .error (refuse "a string" (c :: rest))

/-- The null value. -/
def unit : Reader Unit := fun s =>
  match skipSpace s with
  | [] => .error .eof
  | c :: rest =>
    if c = 'n' then (literal ['u', 'l', 'l'] rest).map ((), ·)
    else .error (refuse "unit" (c :: rest))

/-- Null, or what `read` takes. -/
def optional {α : Type} (read : Reader α) : Reader (Option α) := fun s =>
  match skipSpace s with
  | 'n' :: rest => (literal ['u', 'l', 'l'] rest).map (none, ·)
  | s => (read s).map fun (a, rest) => (some a, rest)

/-- An array of what `read` takes, one level further inside. -/
def list {α : Type} (read : Nat → Reader α) (depth : Nat) : Reader (List α) := fun s =>
  match skipSpace s with
  | [] => .error .eof
  | c :: rest =>
    if c = '[' then
      match depth with
      | 0 => .error .grammar
      | depth + 1 => arrayRest (read depth) rest
    else .error (refuse "a sequence" (c :: rest))

/-- A signed integer of 64 bits. -/
def int64 : Reader Int64 := fun s =>
  match skipSpace s with
  | [] => .error .eof
  | c :: rest =>
    if c = '-' ∨ c.isDigit then
      match scalar (c :: rest) with
      | .error fault => .error fault
      | .ok (.int i, rest) =>
        if i < (wordCount / 2 : Nat) then .ok (Int64.ofInt i, rest)
        else .error (.shape (.outOfRange i "i64"))
      | .ok (.float x, _) => .error (.shape (.wrongType (.float x) "i64"))
      | .ok (_, _) => .error .grammar
    else .error (refuse "i64" (c :: rest))

/-! ### Records -/

/-- A field of a record that is being read into drafts of type `δ`. -/
structure Field (δ : Type) where
  name : String
  /-- The draft has a value for the field. -/
  filled : δ → Bool
  /-- Reads the value into the draft, at most so many levels deep. -/
  read : Nat → δ → Reader δ
  /-- An array may end before the field. -/
  trailing : Bool

/-- How a record of type `α` is read. -/
structure Shape (δ α : Type) where
  /-- What messages call the record. -/
  title : String
  fields : List (Field δ)
  /-- The draft with no field filled. -/
  blank : δ
  /-- The record, or the first field that is missing. -/
  finish : δ → Except Mismatch α

namespace Shape

variable {δ α : Type}

/-- One member of the object form. A field that comes a second time is refused
before its value is looked at; a member that is no field is skipped. -/
def member (shape : Shape δ α) (depth : Nat) (draft : δ) (key : String) : Reader δ := fun s =>
  match shape.fields.find? (·.name == key) with
  | none =>
    match colon s with
    | .error fault => .error fault
    | .ok s => (skip s).map fun (_, s) => (draft, s)
  | some field =>
    if field.filled draft then .error (.shape (.duplicateField key))
    else
      match colon s with
      | .error fault => .error fault
      | .ok s => field.read depth draft s

/-- The fields of the array form, `index` of them read already. -/
def listed (shape : Shape δ α) (depth : Nat) (index : Nat) : List (Field δ) → δ → Reader δ
  | [], draft, s => .ok (draft, s)
  | field :: rest, draft, s =>
    match nextItem (index == 0) s with
    | .error fault => .error fault
    | .ok (true, s) =>
      match field.read depth draft s with
      | .error fault => .error fault
      | .ok (draft, s) => listed shape depth (index + 1) rest draft s
    | .ok (false, s) =>
      if field.trailing then listed shape depth (index + 1) rest draft s
      else .error (.shape (.wrongLength index shape.title shape.fields.length))

/-- The record that a draft makes, together with the text after it. -/
def conclude (shape : Shape δ α) (draft : δ) (close : Except Fault (List Char)) :
    Except Fault (α × List Char) :=
  match shape.finish draft with
  | .error mismatch => .error (.shape mismatch)
  | .ok a => close.map (a, ·)

/-- Reads a record of at most `depth` levels from its object or its array form. -/
def read (shape : Shape δ α) (depth : Nat) : Reader α := fun s =>
  match skipSpace s with
  | [] => .error .eof
  | c :: rest =>
    if c = '\x7b' then
      match depth with
      | 0 => .error .grammar
      | depth + 1 =>
        match members stringRest (shape.member depth) (beyond rest) true shape.blank rest with
        | .error fault => .error fault
        | .ok (draft, s) => shape.conclude draft (closeObject s)
    else if c = '[' then
      match depth with
      | 0 => .error .grammar
      | depth + 1 =>
        match shape.listed depth 0 shape.fields shape.blank rest with
        | .error fault => .error fault
        | .ok (draft, s) => shape.conclude draft (closeArray s)
    else .error (refuse shape.title (c :: rest))

end Shape

/-- A field that has to be there. -/
def required {β : Type} (name : String) (value : Option β) : Except Mismatch β :=
  match value with
  | some b => .ok b
  | none => .error (.missingField name)

end Fanout.Json
