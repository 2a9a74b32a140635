import Fanout.Json.Binary64

/-! Values of JSON texts. A number is an integer when it is written as one and fits
64 bits, signed or unsigned, and a binary floating point number otherwise. The
members of an object are a list; an object that was read has its keys in
increasing order, each once. -/
namespace Fanout

/-- How many words of 64 bits there are, `2 ^ 64`. Half of them are negative when a
word is read as signed. -/
def wordCount : Nat := 18446744073709551616

namespace Json

/-- A JSON value. -/
inductive Value where
  | null
  | bool (b : Bool)
  | int (i : Int)
  | float (x : Binary64)
  | string (s : String)
  | array (items : List Value)
  | object (members : List (String × Value))
  deriving Repr, Inhabited

/-- The least and the greatest integer that keeps its exact value. -/
def minInt : Int := -(wordCount / 2 : Nat)
def maxInt : Int := wordCount - 1

/-- Sets a member: its value is replaced when the key is there, and a new key
goes where the order of keys puts it. -/
def setMember (key : String) (value : Value) : List (String × Value) → List (String × Value)
  | [] => [(key, value)]
  | (k, v) :: rest =>
    if key = k then (key, value) :: rest
    else if key < k then (key, value) :: (k, v) :: rest
    else (k, v) :: setMember key value rest

namespace Value

mutual

/-- Levels of arrays and objects around the innermost value. -/
def depth : Value → Nat
  | .array items => itemsDepth items + 1
  | .object members => membersDepth members + 1
  | _ => 0

/-- The greatest depth among some items. -/
def itemsDepth : List Value → Nat
  | [] => 0
  | v :: rest => max v.depth (itemsDepth rest)

/-- The greatest depth among some members. -/
def membersDepth : List (String × Value) → Nat
  | [] => 0
  | (_, v) :: rest => max v.depth (membersDepth rest)

end

mutual

/-- The form in which a value is read back exactly: integers in range, objects
with increasing keys, and no number that needs rounding. -/
def Canonical : Value → Prop
  | .int i => minInt ≤ i ∧ i ≤ maxInt
  | .float _ => False
  | .array items => CanonicalItems items
  | .object members => members.Pairwise (fun a b => a.1 < b.1) ∧ CanonicalMembers members
  | _ => True

/-- Every item is canonical. -/
def CanonicalItems : List Value → Prop
  | [] => True
  | v :: rest => v.Canonical ∧ CanonicalItems rest

/-- The value of every member is canonical. -/
def CanonicalMembers : List (String × Value) → Prop
  | [] => True
  | (_, v) :: rest => v.Canonical ∧ CanonicalMembers rest

end

end Value

end Json

end Fanout
