import Fanout.Json.Value
import Fanout.Json.Shortest

/-! The text of a JSON value, compact or laid out over lines. Quotes, backslashes
and controls are escaped and nothing else; members are written in the order they
have. A number that is no integer is written with the fewest digits that read
back. -/
namespace Fanout.Json

/-- One character inside a string: the short escapes where there is one, four
hexadecimal digits for the other controls. -/
def escapeChar (c : Char) : List Char :=
  match c with
  | '"' => ['\\', '"']
  | '\\' => ['\\', '\\']
  | '\n' => ['\\', 'n']
  | '\r' => ['\\', 'r']
  | '\t' => ['\\', 't']
  | '\x08' => ['\\', 'b']
  | '\x0c' => ['\\', 'f']
  | _ =>
    if c.toNat < 0x20 then
      ['\\', 'u', '0', '0', Nat.digitChar (c.toNat / 16), Nat.digitChar (c.toNat % 16)]
    else [c]

/-- A string in its quotes. -/
def stringChars (s : String) : List Char :=
  '"' :: s.toList.flatMap escapeChar ++ ['"']

/-- The decimal digits of a number. -/
def natChars (n : Nat) : List Char :=
  Nat.toDigits 10 n

/-- An integer, with a minus sign when it is negative. -/
def intChars (i : Int) : List Char :=
  if i < 0 then '-' :: natChars i.natAbs else natChars i.natAbs

/-- A decimal in text: positional as long as the first digit stands for a power
of ten from `-5` to `15`, with at least one digit after the point, and otherwise
with an exponent, whose sign is always written. -/
def Decimal.chars (d : Decimal) : List Char :=
  let digits := natChars d.digits
  let lead : Int := digits.length - 1 + d.exponent
  if d.digits = 0 then ['0', '.', '0']
  else if -5 ≤ lead ∧ lead ≤ 15 then
    if 0 ≤ d.exponent then digits ++ List.replicate d.exponent.toNat '0' ++ ['.', '0']
    else if 0 ≤ lead then
      digits.take (lead.toNat + 1) ++ '.' :: digits.drop (lead.toNat + 1)
    else ['0', '.'] ++ List.replicate (-lead - 1).toNat '0' ++ digits
  else
    let tail := match digits.drop 1 with
      | [] => []
      | more => '.' :: more
    digits.take 1 ++ tail ++ ['e', if lead < 0 then '-' else '+'] ++ natChars lead.natAbs

/-- A floating point number in text. -/
def Binary64.chars (x : Binary64) : List Char :=
  (if x.negative then ['-'] else []) ++ x.shortest.chars

/-- A floating point number in text. -/
def Binary64.text (x : Binary64) : String :=
  String.ofList x.chars

namespace Value

mutual

/-- The compact text of a value. -/
def chars : Value → List Char
  | .null => ['n', 'u', 'l', 'l']
  | .bool true => ['t', 'r', 'u', 'e']
  | .bool false => ['f', 'a', 'l', 's', 'e']
  | .int i => intChars i
  | .float x => x.chars
  | .string s => stringChars s
  | .array [] => ['[', ']']
  | .array (v :: rest) => '[' :: (v.chars ++ itemsChars rest)
  | .object [] => ['\x7b', '\x7d']
  | .object ((k, v) :: rest) =>
    '\x7b' :: (stringChars k ++ ':' :: (v.chars ++ membersChars rest))

/-- The items after the first one, and the end of the array. -/
def itemsChars : List Value → List Char
  | [] => [']']
  | v :: rest => ',' :: (v.chars ++ itemsChars rest)

/-- The members after the first one, and the end of the object. -/
def membersChars : List (String × Value) → List Char
  | [] => ['\x7d']
  | (k, v) :: rest => ',' :: (stringChars k ++ ':' :: (v.chars ++ membersChars rest))

end

/-- The compact text of a value. -/
def compact (v : Value) : String :=
  String.ofList v.chars

/-- A new line at the given level. -/
def newline (level : Nat) : List Char :=
  '\n' :: List.replicate (2 * level) ' '

mutual

/-- The text of a value over lines: one item or member a line, two spaces a level,
nothing between the brackets of an empty array or object. -/
def prettyChars (level : Nat) : Value → List Char
  | .array [] => ['[', ']']
  | .array (v :: rest) =>
    '[' :: (newline (level + 1) ++ v.prettyChars (level + 1) ++ prettyItems level rest)
  | .object [] => ['\x7b', '\x7d']
  | .object ((k, v) :: rest) =>
    '\x7b' :: (newline (level + 1) ++ stringChars k ++ ':' :: ' ' ::
      (v.prettyChars (level + 1) ++ prettyMembers level rest))
  | .null => ['n', 'u', 'l', 'l']
  | .bool true => ['t', 'r', 'u', 'e']
  | .bool false => ['f', 'a', 'l', 's', 'e']
  | .int i => intChars i
  | .float x => x.chars
  | .string s => stringChars s

/-- The items after the first one, and the end of the array. -/
def prettyItems (level : Nat) : List Value → List Char
  | [] => newline level ++ [']']
  | v :: rest =>
    ',' :: (newline (level + 1) ++ v.prettyChars (level + 1) ++ prettyItems level rest)

/-- The members after the first one, and the end of the object. -/
def prettyMembers (level : Nat) : List (String × Value) → List Char
  | [] => newline level ++ ['\x7d']
  | (k, v) :: rest =>
    ',' :: (newline (level + 1) ++ stringChars k ++ ':' :: ' ' ::
      (v.prettyChars (level + 1) ++ prettyMembers level rest))

end

/-- The text of a value over lines. -/
def pretty (v : Value) : String :=
  String.ofList (v.prettyChars 0)

end Value

end Fanout.Json
