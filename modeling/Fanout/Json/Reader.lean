import Fanout.Json.Scan

/-! Reading JSON values. A text is read from left to right and the first fault met
is the answer. Arrays and objects nest at most `maxDepth` levels; a value that is
skipped may nest as deep as it likes. -/
namespace Fanout.Json

/-- The levels of arrays and objects that a reader enters. -/
def maxDepth : Nat := 127

/-! ### Arrays and objects, whatever they hold -/

/-- Whether an array goes on: `true` with the text of its next item, `false` with
the text at its closing bracket. -/
def nextItem (first : Bool) (s : List Char) : Except Fault (Bool × List Char) :=
  match skipSpace s with
  | [] => .error .eof
  | c :: rest =>
    if c = ']' then .ok (false, c :: rest)
    else if first then .ok (true, c :: rest)
    else if c = ',' then
      match skipSpace rest with
      | [] => .error .eof
      | d :: more => if d = ']' then .error .grammar else .ok (true, d :: more)
    else .error .grammar

/-- The end of an array. -/
def closeArray (s : List Char) : Except Fault (List Char) :=
  match skipSpace s with
  | [] => .error .eof
  | c :: rest => if c = ']' then .ok rest else .error .grammar

/-- A bound for what can be read from a text when every step takes a character: it
is never used up, since it is longer than the text. -/
def beyond (s : List Char) : List Char := ' ' :: s

/-- The items of an array up to its closing bracket, at most as many as the bound is
long. -/
def items {α : Type} (item : Reader α) : List Char → Bool → Reader (List α)
  | [], _, _ => .error .grammar
  | _ :: bound, first, s =>
    match nextItem first s with
    | .error fault => .error fault
    | .ok (false, s) => .ok ([], s)
    | .ok (true, s) =>
      match item s with
      | .error fault => .error fault
      | .ok (v, s) =>
        match items item bound false s with
        | .error fault => .error fault
        | .ok (vs, s) => .ok (v :: vs, s)

/-- An array, after its opening bracket. -/
def arrayRest {α : Type} (item : Reader α) : Reader (List α) := fun s =>
  match items item (beyond s) true s with
  | .error fault => .error fault
  | .ok (vs, s) => (closeArray s).map (vs, ·)

/-- Whether an object goes on: `true` with the text inside the quotes of its next
key, `false` with the text at its closing brace. -/
def nextKey (first : Bool) (s : List Char) : Except Fault (Bool × List Char) :=
  match skipSpace s with
  | [] => .error .eof
  | c :: rest =>
    if c = '\x7d' then .ok (false, c :: rest)
    else if first then
      if c = '"' then .ok (true, rest) else .error .grammar
    else if c = ',' then
      match skipSpace rest with
      | [] => .error .eof
      | d :: more => if d = '"' then .ok (true, more) else .error .grammar
    else .error .grammar

/-- The colon between a key and its value. -/
def colon (s : List Char) : Except Fault (List Char) :=
  match skipSpace s with
  | [] => .error .eof
  | c :: rest => if c = ':' then .ok rest else .error .grammar

/-- The end of an object. -/
def closeObject (s : List Char) : Except Fault (List Char) :=
  match skipSpace s with
  | [] => .error .eof
  | c :: rest => if c = '\x7d' then .ok rest else .error .grammar

/-- The members of an object up to its closing brace, each handed to `member` with
what was made of the members before it; at most as many as the bound is long. The
text given to `member` stands before the colon. -/
def members {κ σ : Type} (key : Reader κ) (member : σ → κ → Reader σ) :
    List Char → Bool → σ → Reader σ
  | [], _, _, _ => .error .grammar
  | _ :: bound, first, acc, s =>
    match nextKey first s with
    | .error fault => .error fault
    | .ok (false, s) => .ok (acc, s)
    | .ok (true, s) =>
      match key s with
      | .error fault => .error fault
      | .ok (k, s) =>
        match member acc k s with
        | .error fault => .error fault
        | .ok (acc, s) => members key member bound false acc s

/-- An object, after its opening brace. -/
def objectRest {κ σ : Type} (key : Reader κ) (member : σ → κ → Reader σ) (empty : σ) :
    Reader σ := fun s =>
  match members key member (beyond s) true empty s with
  | .error fault => .error fault
  | .ok (acc, s) => (closeObject s).map (acc, ·)

/-! ### Values -/

/-- A value that is no array and no object; the text starts with its word. -/
def scalar (s : List Char) : Except Fault (Value × List Char) :=
  match s with
  | [] => .error .eof
  | c :: rest =>
    if c = 'n' then (literal ['u', 'l', 'l'] rest).map (.null, ·)
    else if c = 't' then (literal ['r', 'u', 'e'] rest).map (.bool true, ·)
    else if c = 'f' then (literal ['a', 'l', 's', 'e'] rest).map (.bool false, ·)
    else if c = '"' then (stringRest rest).map fun (s, rest) => (.string s, rest)
    else if c = '-' then number true rest
    else if c.isDigit then number false (c :: rest)
    else .error .grammar

/-- A value of at most `depth` levels. Of two members with one key the later one
stays. -/
def value (depth : Nat) (s : List Char) : Except Fault (Value × List Char) :=
  match skipSpace s with
  | [] => .error .eof
  | c :: rest =>
    if c = '[' then
      match depth with
      | 0 => .error .grammar
      | depth + 1 => (arrayRest (value depth) rest).map fun (vs, rest) => (.array vs, rest)
    else if c = '\x7b' then
      match depth with
      | 0 => .error .grammar
      | depth + 1 =>
        let member (acc : List (String × Value)) (key : String) : Reader _ := fun s =>
          match colon s with
          | .error fault => .error fault
          | .ok s => (value depth s).map fun (v, s) => (setMember key v acc, s)
        (objectRest stringRest member [] rest).map fun (ms, rest) => (.object ms, rest)
    else scalar (c :: rest)

/-- Skips a value that is no array and no object. -/
def skipScalar (s : List Char) : Except Fault (Unit × List Char) :=
  match s with
  | [] => .error .eof
  | c :: rest =>
    if c = 'n' then (literal ['u', 'l', 'l'] rest).map ((), ·)
    else if c = 't' then (literal ['r', 'u', 'e'] rest).map ((), ·)
    else if c = 'f' then (literal ['a', 'l', 's', 'e'] rest).map ((), ·)
    else if c = '"' then skipString rest
    else if c = '-' then skipNumber rest
    else if c.isDigit then skipNumber (c :: rest)
    else .error .grammar

/-- Skips a value of at most as many levels as the bound is long. -/
def skipTo (bound : List Char) (s : List Char) : Except Fault (Unit × List Char) :=
  match skipSpace s with
  | [] => .error .eof
  | c :: rest =>
    if c = '[' then
      match bound with
      | [] => .error .grammar
      | _ :: bound => (arrayRest (skipTo bound) rest).map fun (_, rest) => ((), rest)
    else if c = '\x7b' then
      match bound with
      | [] => .error .grammar
      | _ :: bound =>
        let member (_ _ : Unit) : Reader Unit := fun s =>
          match colon s with
          | .error fault => .error fault
          | .ok s => skipTo bound s
        objectRest skipString member () rest
    else skipScalar (c :: rest)

/-- Skips a value of any depth: a text has no more levels than characters. -/
def skip : Reader Unit := fun s => skipTo s s

/-- The whole text is one value of the kind that `read` takes off its front. -/
def whole {α : Type} (read : Nat → Reader α) (text : String) : Except Fault α :=
  match read maxDepth text.toList with
  | .error fault => .error fault
  | .ok (a, rest) =>
    match skipSpace rest with
    | [] => .ok a
    | _ :: _ => .error .grammar

/-- The value that a text holds. -/
def Value.parse (text : String) : Except Fault Value :=
  whole value text

end Fanout.Json
