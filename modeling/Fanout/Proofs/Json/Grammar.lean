import Fanout.Json.Decode

/-! The grammar of JSON texts. Blanks may stand on both sides of every comma, colon and
bracket, and the characters of a string may be escaped in any way. `JsonText` is what any
reader takes for JSON: nothing is asked of the size of a number, of what the halves of a
surrogate pair come to, or of the keys of an object. `ValueText` ties a text to the value
that it spells; it has exact integers only, and an object has each key once. -/
namespace Fanout.Json

/-- Nothing but white space. -/
def Blank (ws : List Char) : Prop := ∀ c ∈ ws, isSpace c = true

/-- The text does not go on with anything that could still belong to a number. -/
def Boundary (rest : List Char) : Prop :=
  ∀ c, rest.head? = some c → c.isDigit = false ∧ c ≠ '.' ∧ isExponentMark c = false

/-- The text begins with a word or a bracket that opens something. -/
def Opens (t : List Char) : Prop :=
  ∃ c more, t = c :: more ∧ isSpace c = false ∧ c ≠ ']'

/-! ### Items and members -/

/-- What stands in front of the first item of a series, or between two. -/
inductive Gap : Bool → List Char → Prop where
  | opening {ws : List Char} (blank : Blank ws) : Gap true ws
  | comma {ws more : List Char} (before : Blank ws) (after : Blank more) :
      Gap false (ws ++ ',' :: more)

/-- The texts of some items with the gaps before them. -/
inductive Series {α : Type} (E : α → List Char → Prop) : Bool → List α → List Char → Prop where
  | nil {first : Bool} : Series E first [] []
  | cons {first : Bool} {a : α} {as : List α} {gap t u : List Char} (between : Gap first gap)
      (item : E a t) (others : Series E false as u) : Series E first (a :: as) (gap ++ (t ++ u))

/-- A key in its quotes, a colon and a value. -/
inductive Entry {κ α : Type} (K : κ → List Char → Prop) (E : α → List Char → Prop) :
    κ × α → List Char → Prop where
  | mk {k : κ} {a : α} {kt ws more t : List Char} (key : K k kt) (before : Blank ws)
      (after : Blank more) (value : E a t) :
      Entry K E (k, a) ('"' :: (kt ++ (ws ++ ':' :: (more ++ t))))

/-! ### Strings and numbers -/

/-- Four hexadecimal digits. -/
def HexQuad (quad : List Char) (n : Nat) : Prop :=
  ∃ a b c d w x y z, quad = [a, b, c, d] ∧ hexValue? a = some w ∧ hexValue? b = some x ∧
    hexValue? c = some y ∧ hexValue? d = some z ∧ n = ((w * 16 + x) * 16 + y) * 16 + z

/-- A character that stands for itself in a string. -/
def Plain (c : Char) : Prop := c ≠ '"' ∧ c ≠ '\\' ∧ ¬ c.toNat < 0x20

/-- The ways to write a character inside a string. -/
inductive CharText : Char → List Char → Prop where
  | plain {c : Char} (plain : Plain c) : CharText c [c]
  | short {e c : Char} (stands : shortEscape? e = some c) : CharText c ['\\', e]
  | numeric {quad : List Char} {n : Nat} (digits : HexQuad quad n)
      (notLow : isLowSurrogate n = false) (notHigh : isHighSurrogate n = false) :
      CharText (Char.ofNat n) ('\\' :: 'u' :: quad)
  | pair {quad other : List Char} {high low : Nat} (digits : HexQuad quad high)
      (isHigh : isHighSurrogate high = true) (others : HexQuad other low)
      (isLow : isLowSurrogate low = true) :
      CharText (Char.ofNat ((high - 0xD800) * 0x400 + (low - 0xDC00) + 0x10000))
        ('\\' :: 'u' :: (quad ++ '\\' :: 'u' :: other))

/-- What may stand inside a string, whatever it stands for. -/
inductive StringPart : List Char → Prop where
  | plain {c : Char} (plain : Plain c) : StringPart [c]
  | short {e : Char} (stands : (shortEscape? e).isSome) : StringPart ['\\', e]
  | numeric {quad : List Char} {n : Nat} (digits : HexQuad quad n) :
      StringPart ('\\' :: 'u' :: quad)

/-- The parts of a string and its closing quote. -/
inductive Quoted {α : Type} (C : α → List Char → Prop) : List α → List Char → Prop where
  | close : Quoted C [] ['"']
  | char {a : α} {as : List α} {t u : List Char} (here : C a t) (others : Quoted C as u) :
      Quoted C (a :: as) (t ++ u)

/-- A string after its opening quote. -/
def StringRest (s : String) (t : List Char) : Prop := Quoted CharText s.toList t

/-- A string after its opening quote, whatever it stands for. -/
def AnyStringRest (_ : Unit) (t : List Char) : Prop :=
  ∃ parts : List Unit, Quoted (fun _ => StringPart) parts t

/-- Some decimal digits. -/
def Digits (ds : List Char) : Prop := ds ≠ [] ∧ ∀ c ∈ ds, c.isDigit = true

/-- The digits of a whole number, which has no zero in front. -/
def Whole (ds : List Char) : Prop := Digits ds ∧ (ds.head? = some '0' → ds = ['0'])

/-- A fraction, which may be left out. -/
inductive FractionText : List Char → Prop where
  | none : FractionText []
  | some {ds : List Char} (digits : Digits ds) : FractionText ('.' :: ds)

/-- An exponent, which may be left out. -/
inductive ExponentText : List Char → Prop where
  | none : ExponentText []
  | some {mark : Char} {sign ds : List Char} (marked : isExponentMark mark = true)
      (signed : sign ∈ [[], ['-'], ['+']]) (digits : Digits ds) :
      ExponentText (mark :: (sign ++ ds))

/-- A number of any size, after its minus sign if it has one. -/
inductive NumberRest : List Char → Prop where
  | mk {whole fraction exponent : List Char} (wholeDigits : Whole whole)
      (fractional : FractionText fraction) (exponential : ExponentText exponent) :
      NumberRest (whole ++ (fraction ++ exponent))

/-! ### Values -/

/-- Any JSON text, from its first word or bracket to its last one. -/
inductive JsonText : List Char → Prop where
  | null : JsonText ['n', 'u', 'l', 'l']
  | true : JsonText ['t', 'r', 'u', 'e']
  | false : JsonText ['f', 'a', 'l', 's', 'e']
  | number {t : List Char} (number : NumberRest t) : JsonText t
  | negative {t : List Char} (number : NumberRest t) : JsonText ('-' :: t)
  | string {t : List Char} (string : AnyStringRest () t) : JsonText ('"' :: t)
  | array {as : List Unit} {u ws : List Char} (items : Series (fun _ => JsonText) true as u)
      (blank : Blank ws) : JsonText ('[' :: (u ++ (ws ++ [']'])))
  | object {as : List (Unit × Unit)} {u ws : List Char}
      (members : Series (Entry AnyStringRest fun _ => JsonText) true as u) (blank : Blank ws) :
      JsonText ('\x7b' :: (u ++ (ws ++ ['\x7d'])))

/-- The members of an object that sets one after the other. -/
def arrange (ms : List (String × Value)) : List (String × Value) :=
  ms.foldl (fun set m => setMember m.1 m.2 set) []

/-- The texts of a value, from the first word or bracket to the last one. -/
inductive ValueText : Value → List Char → Prop where
  | null : ValueText .null ['n', 'u', 'l', 'l']
  | true : ValueText (.bool true) ['t', 'r', 'u', 'e']
  | false : ValueText (.bool false) ['f', 'a', 'l', 's', 'e']
  | int {i : Int} (least : minInt ≤ i) (most : i ≤ maxInt) : ValueText (.int i) (intChars i)
  | string {s : String} {t : List Char} (string : StringRest s t) :
      ValueText (.string s) ('"' :: t)
  | array {vs : List Value} {u ws : List Char} (items : Series ValueText true vs u)
      (blank : Blank ws) : ValueText (.array vs) ('[' :: (u ++ (ws ++ [']'])))
  | object {ms : List (String × Value)} {u ws : List Char}
      (members : Series (Entry StringRest ValueText) true ms u)
      (distinct : (ms.map Prod.fst).Nodup) (blank : Blank ws) :
      ValueText (.object (arrange ms)) ('\x7b' :: (u ++ (ws ++ ['\x7d'])))

end Fanout.Json
