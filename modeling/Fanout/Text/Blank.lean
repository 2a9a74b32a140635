/-! Blank text. A name that only holds white space names nothing, and a name is
looked up without the white space around it. White space is the Unicode
property `White_Space`: the no-break space and the ideographic space belong to
it, the zero width space and the byte order mark do not. -/
namespace Fanout.Text

/-- A character of the Unicode property `White_Space`. -/
def isSpace (c : Char) : Bool :=
  let n := c.toNat
  (0x09 ≤ n && n ≤ 0x0D) || n == 0x20 || n == 0x85 || n == 0xA0 || n == 0x1680 ||
    (0x2000 ≤ n && n ≤ 0x200A) || n == 0x2028 || n == 0x2029 || n == 0x202F ||
    n == 0x205F || n == 0x3000

/-- The characters between the first and the last that are no white space. -/
def trimChars (cs : List Char) : List Char :=
  ((cs.dropWhile isSpace).reverse.dropWhile isSpace).reverse

/-- The text without the white space at its two ends. -/
def trim (s : String) : String :=
  String.ofList (trimChars s.toList)

/-- Blank text holds white space only; the empty text is blank. -/
def isBlank (s : String) : Bool :=
  s.toList.all isSpace

theorem isBlank_iff (s : String) : isBlank s = true ↔ ∀ c ∈ s.toList, isSpace c = true := by
  simp [isBlank]

end Fanout.Text
