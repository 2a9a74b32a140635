import Fanout.Proofs.Json.Grammar

/-! Reading the words of a JSON text. A string is read to what its characters stand for and
an integer to its exact value, whatever comes behind; a string or a number that is skipped
is skipped to its end. Behind a number something has to follow that cannot belong to it. -/
namespace Fanout.Json

variable {ws rest t : List Char} {c : Char}

/-! ### White space -/

theorem blank_nil : Blank [] := fun _ member => nomatch member

theorem skipSpace_blank (blank : Blank ws) (s : List Char) :
    skipSpace (ws ++ s) = skipSpace s :=
  List.dropWhile_append_of_pos blank

theorem skipSpace_word (word : isSpace c = false) (s : List Char) :
    skipSpace (c :: s) = c :: s := by
  simp [skipSpace, word]

/-- Blanks are skipped up to the next word. -/
theorem skipSpace_to (blank : Blank ws) (word : isSpace c = false) (s : List Char) :
    skipSpace (ws ++ c :: s) = c :: s := by
  rw [skipSpace_blank blank, skipSpace_word word]

theorem skipSpace_opens (blank : Blank ws) (opens : Opens t) :
    skipSpace (ws ++ (t ++ rest)) = t ++ rest := by
  obtain ⟨c, more, rfl, word, -⟩ := opens
  exact skipSpace_to blank word (more ++ rest)

theorem space_not_digit (space : isSpace c = true) : c.isDigit = false := by
  simp only [isSpace, Bool.or_eq_true, beq_iff_eq] at space
  rcases space with ((rfl | rfl) | rfl) | rfl <;> rfl

theorem digit_not_space (digit : c.isDigit = true) : isSpace c = false := by
  cases space : isSpace c with
  | false => rfl
  | true =>
    rw [space_not_digit space] at digit
    cases digit

theorem digit_ne {d : Char} (digit : c.isDigit = true) (other : d.isDigit = false) : c ≠ d := by
  rintro rfl
  rw [digit] at other
  cases other

/-! ### Boundaries -/

theorem boundary_nil : Boundary [] := fun _ found => nomatch found

/-- Blanks end every number, and so do quotes, brackets and what stands between words. -/
theorem boundary_blank (blank : Blank ws) (boundary : Boundary rest) : Boundary (ws ++ rest) := by
  cases ws with
  | nil => exact boundary
  | cons d more =>
    intro e found
    cases Option.some.inj found
    have space := blank d List.mem_cons_self
    refine ⟨space_not_digit space, ?_, ?_⟩ <;>
      · simp only [isSpace, Bool.or_eq_true, beq_iff_eq] at space
        rcases space with ((rfl | rfl) | rfl) | rfl <;> decide

theorem boundary_cons (ends : c ∈ [',', ':', '"', '[', ']', '\x7b', '\x7d']) (rest : List Char) :
    Boundary (c :: rest) := by
  intro d found
  cases Option.some.inj found
  simp only [List.mem_cons, List.not_mem_nil, or_false] at ends
  rcases ends with rfl | rfl | rfl | rfl | rfl | rfl | rfl <;> decide

/-! ### Strings -/

theorem hexQuad_reads {quad : List Char} {n : Nat} (digits : HexQuad quad n) (rest : List Char) :
    hexQuad (quad ++ rest) = .ok (n, rest) := by
  obtain ⟨a, b, c, d, w, x, y, z, rfl, first, second, third, fourth, rfl⟩ := digits
  simp [hexQuad, first, second, third, fourth]

theorem nextChar_reads (text : CharText c t) (rest : List Char) :
    nextChar (t ++ rest) = .ok (some c, rest) := by
  cases text with
  | plain plain => simp [nextChar, plain.1, plain.2.1, plain.2.2]
  | short stands =>
    unfold shortEscape? at stands
    split at stands <;> cases stands <;> rfl
  | numeric digits notLow notHigh =>
    simp [nextChar, numericEscape, hexQuad_reads digits, notLow, notHigh]
  | @pair quad other high low digits isHigh others isLow =>
    have notLow : isLowSurrogate high = false := by
      simp only [isHighSurrogate, isLowSurrogate, Bool.and_eq_true, decide_eq_true_eq,
        Bool.and_eq_false_imp, decide_eq_false_iff_not] at isHigh ⊢
      omega
    simp [nextChar, numericEscape, hexQuad_reads digits, notLow, isHigh, lowSurrogate,
      hexQuad_reads others, isLow]

theorem stringBody_close {s : List Char} (closes : nextChar s = .ok (none, rest)) :
    stringBody s = .ok ([], rest) := by
  rw [stringBody]
  split <;> rename_i found <;> cases closes.symm.trans found
  rfl

theorem stringBody_char {s : List Char} (goesOn : nextChar s = .ok (some c, rest)) :
    stringBody s = (stringBody rest).map fun (cs, rest) => (c :: cs, rest) := by
  rw [stringBody]
  split <;> rename_i found <;> cases goesOn.symm.trans found
  cases stringBody rest <;> rfl

theorem stringBody_reads {cs : List Char} (text : Quoted CharText cs t) (rest : List Char) :
    stringBody (t ++ rest) = .ok (cs, rest) := by
  induction text with
  | close => exact stringBody_close rfl
  | char here others ih =>
    rw [List.append_assoc, stringBody_char (nextChar_reads here _), ih]
    rfl

/-- A string is read to the characters that it stands for. -/
theorem stringRest_reads {s : String} (text : StringRest s t) (rest : List Char) :
    stringRest (t ++ rest) = .ok (s, rest) := by
  simp [stringRest, stringBody_reads text]

theorem nextSkipped_reads (part : StringPart t) (rest : List Char) :
    nextSkipped (t ++ rest) = .ok (true, rest) := by
  cases part with
  | plain plain => simp [nextSkipped, plain.1, plain.2.1, plain.2.2]
  | short stands =>
    unfold shortEscape? at stands
    split at stands <;> cases stands <;> rfl
  | numeric digits => simp [nextSkipped, hexQuad_reads digits]

/-- Any string is skipped. -/
theorem skipString_reads {u : Unit} (text : AnyStringRest u t) (rest : List Char) :
    skipString (t ++ rest) = .ok ((), rest) := by
  obtain ⟨parts, text⟩ := text
  induction text with
  | close =>
    rw [skipString]
    rfl
  | char here others ih =>
    rw [List.append_assoc, skipString]
    split <;> rename_i found <;> cases (nextSkipped_reads here _).symm.trans found
    exact ih

/-! ### Numbers -/

/-- No digit stands at the front. -/
def NoDigit (rest : List Char) : Prop := ∀ c, rest.head? = some c → c.isDigit = false

theorem boundary_noDigit (boundary : Boundary rest) : NoDigit rest :=
  fun c found => (boundary c found).1

theorem takeWhile_digits {ds : List Char} (digits : ∀ c ∈ ds, c.isDigit = true)
    (ends : NoDigit rest) : (ds ++ rest).takeWhile Char.isDigit = ds := by
  rw [List.takeWhile_append_of_pos digits]
  cases rest with
  | nil => simp
  | cons c more => simp [ends c rfl]

theorem dropWhile_digits {ds : List Char} (digits : ∀ c ∈ ds, c.isDigit = true)
    (ends : NoDigit rest) : (ds ++ rest).dropWhile Char.isDigit = rest := by
  rw [List.dropWhile_append_of_pos digits]
  cases rest with
  | nil => rfl
  | cons c more => simp [ends c rfl]

/-- The digits of a whole number are what the checks of a reader ask for. -/
theorem whole_front {ds : List Char} (whole : Whole ds) (ends : NoDigit rest) :
    ∃ c tail, ds = c :: tail ∧ c.isDigit = true ∧
      ¬ (c = '0' ∧ (tail ++ rest).head?.any Char.isDigit = true) ∧
      (tail ++ rest).takeWhile Char.isDigit = tail ∧
      (tail ++ rest).dropWhile Char.isDigit = rest := by
  obtain ⟨⟨some, digits⟩, noZero⟩ := whole
  cases ds with
  | nil => exact absurd rfl some
  | cons c tail =>
    have behind : ∀ d ∈ tail, d.isDigit = true :=
      fun d member => digits d (List.mem_cons_of_mem _ member)
    refine ⟨c, tail, rfl, digits c List.mem_cons_self, ?_, takeWhile_digits behind ends,
      dropWhile_digits behind ends⟩
    rintro ⟨rfl, next⟩
    cases noZero rfl
    cases front : rest.head? with
    | none => simp [front] at next
    | some d => simp [front, ends d front] at next

theorem exponent_noDigit {exponent : List Char} (text : ExponentText exponent)
    (boundary : Boundary rest) : NoDigit (exponent ++ rest) ∧
      ∀ c, (exponent ++ rest).head? = some c → c ≠ '.' := by
  cases text with
  | none => exact ⟨boundary_noDigit boundary, fun c found => (boundary c found).2.1⟩
  | @some mark sign ds marked _ _ =>
    simp only [isExponentMark, Bool.or_eq_true, beq_iff_eq] at marked
    constructor <;>
      · intro c found
        cases Option.some.inj found
        rcases marked with rfl | rfl <;> decide

theorem fraction_noDigit {fraction exponent : List Char} (fractional : FractionText fraction)
    (exponential : ExponentText exponent) (boundary : Boundary rest) :
    NoDigit (fraction ++ (exponent ++ rest)) := by
  cases fractional with
  | none => exact (exponent_noDigit exponential boundary).1
  | some digits =>
    intro c found
    cases Option.some.inj found
    rfl

theorem skipExponent_reads {sign ds : List Char} (signed : sign ∈ [[], ['-'], ['+']])
    (digits : Digits ds) (ends : NoDigit rest) :
    skipExponent (sign ++ (ds ++ rest)) = .ok rest := by
  obtain ⟨some, digits⟩ := digits
  obtain ⟨d, more, rfl⟩ := List.exists_cons_of_ne_nil some
  have digit := digits d List.mem_cons_self
  have notMinus : d ≠ '-' := digit_ne digit rfl
  have notPlus : d ≠ '+' := digit_ne digit rfl
  have dropped := dropWhile_digits digits ends
  simp only [List.mem_cons, List.not_mem_nil, or_false] at signed
  rcases signed with rfl | rfl | rfl <;>
    · simp only [List.cons_append, List.nil_append] at dropped ⊢
      simp [skipExponent, notMinus, notPlus, digit, dropped]

theorem skipMark_reads {exponent : List Char} (text : ExponentText exponent)
    (boundary : Boundary rest) : skipMark (exponent ++ rest) = .ok rest := by
  cases text with
  | none =>
    cases rest with
    | nil => rfl
    | cons c more => simp [skipMark, (boundary c rfl).2.2]
  | some marked signed digits =>
    rw [List.cons_append, List.append_assoc]
    simp only [skipMark, marked, if_true]
    exact skipExponent_reads signed digits (boundary_noDigit boundary)

/-- Any number is skipped. -/
theorem skipNumber_reads (text : NumberRest t) (boundary : Boundary rest) :
    skipNumber (t ++ rest) = .ok ((), rest) := by
  obtain ⟨whole, fractional, exponential⟩ := text
  have ends := fraction_noDigit fractional exponential boundary
  obtain ⟨c, tail, rfl, digit, noZero, -, dropped⟩ := whole_front whole ends
  simp only [List.cons_append, List.append_assoc, skipNumber, digit, noZero, dropped,
    not_true_eq_false, if_false]
  cases fractional with
  | none =>
    have noPoint := (exponent_noDigit exponential boundary).2
    rw [List.nil_append]
    split
    · rename_i found
      exact absurd rfl (noPoint '.' (by rw [found]; rfl))
    · rw [skipMark_reads exponential boundary]
      rfl
  | some digits =>
    obtain ⟨some, all⟩ := digits
    have after := dropWhile_digits all (exponent_noDigit exponential boundary).1
    obtain ⟨d, more, rfl⟩ := List.exists_cons_of_ne_nil some
    have front := all d List.mem_cons_self
    simp only [List.cons_append] at after ⊢
    simp only [List.head?_cons, Option.any_some, front, if_true, after,
      skipMark_reads exponential boundary]
    rfl

/-! ### Integers -/

theorem le_ofDigitChars (ds : List Char) (n : Nat) : n ≤ Nat.ofDigitChars 10 ds n := by
  induction ds generalizing n with
  | nil => exact Nat.le_refl n
  | cons c ds ih =>
    rw [Nat.ofDigitChars_cons]
    have more := ih (10 * n + (c.toNat - '0'.toNat))
    omega

/-- Digits of a number that fits a word are all absorbed. -/
theorem absorb_fits (ds : List Char) (n : Nat) (fits : Nat.ofDigitChars 10 ds n < wordCount) :
    absorb n ds = (Nat.ofDigitChars 10 ds n, []) := by
  induction ds generalizing n with
  | nil => rfl
  | cons c ds ih =>
    rw [Nat.ofDigitChars_cons] at fits ⊢
    have same : n * 10 + digitValue c = 10 * n + (c.toNat - '0'.toNat) := by
      rw [digitValue, Nat.mul_comm]
    have inside := Nat.lt_of_le_of_lt (le_ofDigitChars ds _) fits
    rw [absorb, same, if_pos inside, ih _ fits]

theorem natChars_head (n : Nat) (positive : 0 < n) : (natChars n).head? ≠ some '0' := by
  induction n using Nat.strongRecOn with
  | ind n ih =>
    rw [natChars, Nat.toDigits_eq_if (by decide)]
    split
    · rename_i small
      have least : ∀ m < 10, 0 < m → [Nat.digitChar m].head? ≠ some '0' := by decide
      exact least n small positive
    · rename_i large
      have front := ih (n / 10) (by omega) (by omega)
      obtain ⟨c, more, digits⟩ :=
        List.exists_cons_of_ne_nil (Nat.toDigits_ne_nil : Nat.toDigits 10 (n / 10) ≠ [])
      rw [natChars, digits] at front
      rw [digits]
      exact front

theorem natChars_whole (n : Nat) : Whole (natChars n) := by
  refine ⟨⟨Nat.toDigits_ne_nil, fun c member => ?_⟩, fun zero => ?_⟩
  · exact Nat.isDigit_of_mem_toDigits (by decide) (by decide) member
  · cases n with
    | zero => rfl
    | succ n => exact absurd zero (natChars_head (n + 1) (Nat.succ_pos n))

/-- A whole number that fits a word is read to its exact value. -/
theorem number_reads (negative : Bool) {n : Nat} (fits : n < wordCount)
    (boundary : Boundary rest) :
    number negative (natChars n ++ rest) = (wholeNumber negative n).map (·, rest) := by
  have absorbed : absorb 0 (natChars n) = (n, []) := by
    have value : Nat.ofDigitChars 10 (natChars n) 0 = n := Nat.ofDigitChars_ten_toDigits
    rw [absorb_fits _ 0 (value.symm ▸ fits), value]
  obtain ⟨c, tail, digits, digit, noZero, taken, dropped⟩ :=
    whole_front (natChars_whole n) (boundary_noDigit boundary)
  rw [digits] at absorbed ⊢
  simp only [List.cons_append, number, digit, noZero, taken, dropped, absorbed, not_true_eq_false,
    if_false, List.isEmpty_nil, if_true]
  cases rest with
  | nil => rfl
  | cons d more =>
    obtain ⟨-, noPoint, noMark⟩ := boundary d rfl
    simp [noPoint, noMark]

theorem wordCount_half : (wordCount : Int) = 2 * (wordCount / 2 : Nat) := by decide

theorem int_size {i : Int} (least : minInt ≤ i) (most : i ≤ maxInt) : i.natAbs < wordCount := by
  have half := wordCount_half
  simp only [minInt, maxInt] at least most
  omega

/-- An integer that fits a word, signed or not, is read to its exact value. -/
theorem scalar_reads_int {i : Int} (least : minInt ≤ i) (most : i ≤ maxInt)
    (boundary : Boundary rest) : scalar (intChars i ++ rest) = .ok (.int i, rest) := by
  have fits := int_size least most
  unfold intChars
  split
  · rename_i negative
    have inRange : ¬ (i.natAbs = 0 ∨ wordCount / 2 < i.natAbs) := by
      simp only [minInt] at least
      omega
    have whole : wholeNumber true i.natAbs = .ok (.int i) := by
      have value : -(i.natAbs : Int) = i := by omega
      simp only [wholeNumber, inRange, if_true, if_false, value]
    have reads : scalar ('-' :: natChars i.natAbs ++ rest) =
        number true (natChars i.natAbs ++ rest) := rfl
    rw [reads, number_reads true fits boundary, whole]
    rfl
  · rename_i negative
    have whole : wholeNumber false i.natAbs = .ok (.int i) := by
      have value : (i.natAbs : Int) = i := by omega
      simp [wholeNumber, value]
    obtain ⟨c, tail, digits, digit, -⟩ :=
      whole_front (natChars_whole i.natAbs) (boundary_noDigit boundary)
    have word (d : Char) (other : d.isDigit = false) : c ≠ d := digit_ne digit other
    have reads : scalar (natChars i.natAbs ++ rest) =
        number false (natChars i.natAbs ++ rest) := by
      rw [digits]
      simp [scalar, word 'n' rfl, word 't' rfl, word 'f' rfl, word '"' rfl, word '-' rfl, digit]
    rw [reads, number_reads false fits boundary, whole]
    rfl

end Fanout.Json
