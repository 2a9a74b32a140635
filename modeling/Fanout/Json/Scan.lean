import Fanout.Json.Fault

/-! The words of a JSON text: white space, the three literal names, strings and
numbers. A word can also be skipped, and then less is asked of it: a skipped
string may hold half a surrogate pair and a skipped number may be of any size. -/
namespace Fanout.Json

/-- The four characters that may stand between words. -/
def isSpace (c : Char) : Bool :=
  c == ' ' || c == '\n' || c == '\t' || c == '\r'

/-- The text from its next word on. -/
def skipSpace (s : List Char) : List Char :=
  s.dropWhile isSpace

/-- Takes exactly these characters off the front. -/
def literal : List Char → List Char → Except Fault (List Char)
  | [], s => .ok s
  | _ :: _, [] => .error .eof
  | w :: word, c :: s => if w = c then literal word s else .error .grammar

/-! ### Strings -/

/-- The value of a hexadecimal digit. -/
def hexValue? (c : Char) : Option Nat :=
  let n := c.toNat
  if 0x30 ≤ n ∧ n ≤ 0x39 then some (n - 0x30)
  else if 0x61 ≤ n ∧ n ≤ 0x66 then some (n - 0x61 + 10)
  else if 0x41 ≤ n ∧ n ≤ 0x46 then some (n - 0x41 + 10)
  else none

/-- The number of bytes of a text in UTF-8. -/
def byteLength : List Char → Nat
  | [] => 0
  | c :: rest => c.utf8Size + byteLength rest

/-- Four hexadecimal digits. Four bytes have to be there before they are looked
at, so a text that ends inside them has ended too early. -/
def hexQuad (s : List Char) : Except Fault (Nat × List Char) :=
  match s with
  | a :: b :: c :: d :: rest =>
    match hexValue? a, hexValue? b, hexValue? c, hexValue? d with
    | some a, some b, some c, some d => .ok (((a * 16 + b) * 16 + c) * 16 + d, rest)
    | _, _, _, _ => .error .grammar
  | _ => if byteLength s < 4 then .error .eof else .error .grammar

/-- The character that a one-letter escape stands for. -/
def shortEscape? (c : Char) : Option Char :=
  match c with
  | '"' => some '"'
  | '\\' => some '\\'
  | '/' => some '/'
  | 'b' => some '\x08'
  | 'f' => some '\x0c'
  | 'n' => some '\n'
  | 'r' => some '\r'
  | 't' => some '\t'
  | _ => none

def isHighSurrogate (n : Nat) : Bool := 0xD800 ≤ n && n ≤ 0xDBFF
def isLowSurrogate (n : Nat) : Bool := 0xDC00 ≤ n && n ≤ 0xDFFF

/-- The low half of a surrogate pair, in an escape of its own. -/
def lowSurrogate (high : Nat) (s : List Char) : Except Fault (Char × List Char) :=
  match s with
  | [] => .error .eof
  | ['\\'] => .error .eof
  | '\\' :: 'u' :: rest =>
    match hexQuad rest with
    | .error fault => .error fault
    | .ok (low, rest) =>
      if isLowSurrogate low then
        .ok (Char.ofNat ((high - 0xD800) * 0x400 + (low - 0xDC00) + 0x10000), rest)
      else .error .grammar
  | _ => .error .grammar

/-- The character of a numeric escape, after its `u`. -/
def numericEscape (s : List Char) : Except Fault (Char × List Char) :=
  match hexQuad s with
  | .error fault => .error fault
  | .ok (n, rest) =>
    if isLowSurrogate n then .error .grammar
    else if isHighSurrogate n then lowSurrogate n rest
    else .ok (Char.ofNat n, rest)

/-- The next character of a string, or none for its closing quote. -/
def nextChar (s : List Char) : Except Fault (Option Char × List Char) :=
  match s with
  | [] => .error .eof
  | c :: rest =>
    if c = '"' then .ok (none, rest)
    else if c = '\\' then
      match rest with
      | [] => .error .eof
      | 'u' :: rest =>
        match numericEscape rest with
        | .error fault => .error fault
        | .ok (c, rest) => .ok (some c, rest)
      | e :: rest =>
        match shortEscape? e with
        | some c => .ok (some c, rest)
        | none => .error .grammar
    else if c.toNat < 0x20 then .error .grammar
    else .ok (some c, rest)

theorem hexQuad_length {s rest : List Char} {n : Nat} (h : hexQuad s = .ok (n, rest)) :
    rest.length < s.length := by
  unfold hexQuad at h
  split at h
  · split at h
    · cases h
      simp only [List.length_cons]
      omega
    · cases h
  · split at h <;> cases h

theorem lowSurrogate_length {s rest : List Char} {high : Nat} {c : Char}
    (h : lowSurrogate high s = .ok (c, rest)) : rest.length < s.length := by
  unfold lowSurrogate at h
  split at h
  · cases h
  · cases h
  · split at h
    · cases h
    · rename_i quad
      have shorter := hexQuad_length quad
      split at h
      · simp only [Except.ok.injEq, Prod.mk.injEq] at h
        obtain ⟨_, rfl⟩ := h
        simp only [List.length_cons]
        omega
      · cases h
  · cases h

theorem numericEscape_length {s rest : List Char} {c : Char}
    (h : numericEscape s = .ok (c, rest)) : rest.length < s.length := by
  unfold numericEscape at h
  split at h
  · cases h
  · rename_i quad
    have shorter := hexQuad_length quad
    split at h
    · cases h
    · split at h
      · exact Nat.lt_trans (lowSurrogate_length h) shorter
      · simp only [Except.ok.injEq, Prod.mk.injEq] at h
        obtain ⟨_, rfl⟩ := h
        exact shorter

/-- A character of a string takes something off the text. -/
theorem nextChar_length {s rest : List Char} {c : Option Char}
    (h : nextChar s = .ok (c, rest)) : rest.length < s.length := by
  unfold nextChar at h
  split at h
  · cases h
  · split at h
    · cases h
      simp
    · split at h
      · split at h
        · cases h
        · split at h
          · cases h
          · rename_i escape
            have shorter := numericEscape_length escape
            cases h
            simp only [List.length_cons]
            omega
        · split at h <;> cases h
          simp only [List.length_cons]
          omega
      · split at h <;> cases h
        simp

/-- The characters of a string, after its opening quote. -/
def stringBody (s : List Char) : Except Fault (List Char × List Char) :=
  match _h : nextChar s with
  | .error fault => .error fault
  | .ok (none, rest) => .ok ([], rest)
  | .ok (some c, rest) =>
    match stringBody rest with
    | .error fault => .error fault
    | .ok (cs, rest) => .ok (c :: cs, rest)
  termination_by s.length
  decreasing_by exact nextChar_length _h

/-- A string, after its opening quote. -/
def stringRest : Reader String := fun s =>
  match stringBody s with
  | .error fault => .error fault
  | .ok (cs, rest) => .ok (String.ofList cs, rest)

/-- One character of a skipped string; `true` unless it was the closing quote. -/
def nextSkipped (s : List Char) : Except Fault (Bool × List Char) :=
  match s with
  | [] => .error .eof
  | c :: rest =>
    if c = '"' then .ok (false, rest)
    else if c = '\\' then
      match rest with
      | [] => .error .eof
      | 'u' :: rest =>
        match hexQuad rest with
        | .error fault => .error fault
        | .ok (_, rest) => .ok (true, rest)
      | e :: rest => if (shortEscape? e).isSome then .ok (true, rest) else .error .grammar
    else if c.toNat < 0x20 then .error .grammar
    else .ok (true, rest)

theorem nextSkipped_length {s rest : List Char} {more : Bool}
    (h : nextSkipped s = .ok (more, rest)) : rest.length < s.length := by
  unfold nextSkipped at h
  split at h
  · cases h
  · split at h
    · cases h
      simp
    · split at h
      · split at h
        · cases h
        · split at h
          · cases h
          · rename_i quad
            have shorter := hexQuad_length quad
            cases h
            simp only [List.length_cons]
            omega
        · split at h <;> cases h
          simp only [List.length_cons]
          omega
      · split at h <;> cases h
        simp

/-- Skips a string, after its opening quote. -/
def skipString (s : List Char) : Except Fault (Unit × List Char) :=
  match _h : nextSkipped s with
  | .error fault => .error fault
  | .ok (false, rest) => .ok ((), rest)
  | .ok (true, rest) => skipString rest
  termination_by s.length
  decreasing_by exact nextSkipped_length _h

/-! ### Numbers -/

/-- The value of a decimal digit. -/
def digitValue (c : Char) : Nat := c.toNat - '0'.toNat

/-- Appends digits to a number as long as it fits a word, and leaves the digits
from the first one that does not fit. -/
def absorb : Nat → List Char → Nat × List Char
  | n, [] => (n, [])
  | n, c :: cs =>
    let next := n * 10 + digitValue c
    if next < wordCount then absorb next cs else (n, c :: cs)

/-- A floating point number from its parts; too large a one is refused. -/
def floatOf (negative : Bool) (significand : Nat) (exponent : Int) : Except Fault Value :=
  match Binary64.ofDecimal significand exponent with
  | some x => .ok (.float (x.withSign negative))
  | none => .error .grammar

/-- The number after the `e` of its exponent. An exponent of 32 bits and more
makes zero of the number, or too large a number. -/
def exponentPart (negative : Bool) (significand : Nat) (exponent : Int) : Reader Value := fun s =>
  let down := s.head? == some '-'
  let s := if down || s.head? == some '+' then s.drop 1 else s
  match s with
  | [] => .error .eof
  | c :: rest =>
    if c.isDigit then
      let digits := c :: rest.takeWhile Char.isDigit
      let rest := rest.dropWhile Char.isDigit
      let size := digits.foldl (fun n c => n * 10 + digitValue c) 0
      if 0x80000000 ≤ size then
        if significand ≠ 0 ∧ ¬ down then .error .grammar
        else .ok (.float (Binary64.zero negative), rest)
      else
        match floatOf negative significand (if down then exponent - size else exponent + size) with
        | .error fault => .error fault
        | .ok v => .ok (v, rest)
    else .error .grammar

def isExponentMark (c : Char) : Bool := c == 'e' || c == 'E'

/-- The number after its decimal point. Digits of the fraction count as long as
the significand has room for them. -/
def fractionPart (negative : Bool) (significand : Nat) (exponent : Int) : Reader Value := fun s =>
  let digits := s.takeWhile Char.isDigit
  let rest := s.dropWhile Char.isDigit
  if digits.isEmpty then
    match rest with
    | [] => .error .eof
    | _ :: _ => .error .grammar
  else
    let (significand, left) := absorb significand digits
    let exponent := exponent - ((digits.length : Int) - left.length)
    match rest with
    | c :: more =>
      if isExponentMark c then exponentPart negative significand exponent more
      else (floatOf negative significand exponent).map (·, rest)
    | [] => (floatOf negative significand exponent).map (·, rest)

/-- A whole number that has no fraction and no exponent: exact when it fits, with
minus zero and what lies below the signed range as floating point. -/
def wholeNumber (negative : Bool) (n : Nat) : Except Fault Value :=
  if negative then
    if n = 0 ∨ wordCount / 2 < n then floatOf true n 0 else .ok (.int (-(n : Int)))
  else .ok (.int n)

/-- A number, after its minus sign if it has one. Whole digits that do not fit 64
bits only raise the exponent. -/
def number (negative : Bool) : Reader Value := fun s =>
  match s with
  | [] => .error .eof
  | c :: tail =>
    if ¬ c.isDigit then .error .grammar
    else if c = '0' ∧ (tail.head?.any Char.isDigit) then .error .grammar
    else
      let digits := c :: tail.takeWhile Char.isDigit
      let rest := tail.dropWhile Char.isDigit
      let (significand, left) := absorb 0 digits
      let plain :=
        if left.isEmpty then wholeNumber negative significand
        else floatOf negative significand left.length
      match rest with
      | d :: more =>
        if d = '.' then fractionPart negative significand left.length more
        else if isExponentMark d then exponentPart negative significand left.length more
        else plain.map (·, rest)
      | [] => plain.map (·, rest)

/-- Skips an exponent, after its mark. -/
def skipExponent (s : List Char) : Except Fault (List Char) :=
  let s := if s.head? == some '-' || s.head? == some '+' then s.drop 1 else s
  if s.head?.any Char.isDigit then .ok (s.dropWhile Char.isDigit) else .error .grammar

/-- Skips what may follow the whole digits and the fraction. -/
def skipMark (s : List Char) : Except Fault (List Char) :=
  match s with
  | c :: more => if isExponentMark c then skipExponent more else .ok s
  | [] => .ok s

/-- Skips a number, after its minus sign if it has one. A number that ends too
early is malformed here, since nothing is kept of it. -/
def skipNumber (s : List Char) : Except Fault (Unit × List Char) :=
  match s with
  | [] => .error .grammar
  | c :: tail =>
    if ¬ c.isDigit then .error .grammar
    else if c = '0' ∧ (tail.head?.any Char.isDigit) then .error .grammar
    else
      let rest := tail.dropWhile Char.isDigit
      let ended :=
        match rest with
        | '.' :: more =>
          if more.head?.any Char.isDigit then skipMark (more.dropWhile Char.isDigit)
          else .error .grammar
        | _ => skipMark rest
      ended.map ((), ·)

end Fanout.Json
