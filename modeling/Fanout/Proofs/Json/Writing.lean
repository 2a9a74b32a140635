import Fanout.Proofs.Json.Words
import Mathlib.Data.List.Forall2

/-! What the compact writer writes is in the grammar. A canonical value is written as one of
its texts: integers are exact, characters are escaped as they have to be, and keys that are
in increasing order are set one behind the other. -/
namespace Fanout.Json

variable {k : String} {v : Value} {ms set : List (String × Value)}

/-! ### Strings -/

theorem hexValue_digitChar : ∀ n < 16, hexValue? (Nat.digitChar n) = some n := by decide

/-- The hexadecimal digits of a control. -/
def controlQuad (c : Char) : List Char :=
  ['0', '0', Nat.digitChar (c.toNat / 16), Nat.digitChar (c.toNat % 16)]

theorem controlQuad_digits {c : Char} (control : c.toNat < 0x20) :
    HexQuad (controlQuad c) c.toNat :=
  ⟨_, _, _, _, 0, 0, _, _, rfl, rfl, rfl, hexValue_digitChar _ (by omega),
    hexValue_digitChar _ (by omega), by omega⟩

/-- A character is written as it is, by its short escape or, being a control, by its
number. -/
theorem escapeChar_forms (c : Char) :
    (Plain c ∧ escapeChar c = [c]) ∨
    (∃ e, shortEscape? e = some c ∧ escapeChar c = ['\\', e]) ∨
    (c.toNat < 0x20 ∧ escapeChar c = '\\' :: 'u' :: controlQuad c) := by
  unfold escapeChar
  split
  case h_8 notQuote notSlash _ _ _ _ _ =>
    by_cases control : c.toNat < 0x20
    · exact .inr (.inr ⟨control, if_pos control⟩)
    · exact .inl ⟨⟨notQuote, notSlash, control⟩, if_neg control⟩
  all_goals exact .inr (.inl ⟨_, rfl, rfl⟩)

/-- A control is written by its number. -/
theorem control_text {c : Char} (control : c.toNat < 0x20) :
    CharText c ('\\' :: 'u' :: controlQuad c) := by
  have notLow : isLowSurrogate c.toNat = false := by
    simp only [isLowSurrogate, Bool.and_eq_false_imp, decide_eq_true_eq]
    omega
  have notHigh : isHighSurrogate c.toNat = false := by
    simp only [isHighSurrogate, Bool.and_eq_false_imp, decide_eq_true_eq]
    omega
  have text := CharText.numeric (controlQuad_digits control) notLow notHigh
  rwa [Char.ofNat_toNat] at text

theorem escapeChar_text (c : Char) : CharText c (escapeChar c) := by
  obtain ⟨plain, same⟩ | ⟨e, stands, same⟩ | ⟨control, same⟩ := escapeChar_forms c
  · exact same ▸ .plain plain
  · exact same ▸ .short stands
  · exact same ▸ control_text control

theorem escaped_text (cs : List Char) : Quoted CharText cs (cs.flatMap escapeChar ++ ['"']) := by
  induction cs with
  | nil => exact .close
  | cons c cs ih =>
    rw [List.flatMap_cons, List.append_assoc]
    exact .char (escapeChar_text c) ih

/-- The characters of a string between its quotes, and the closing one. -/
def quotedRest (s : String) : List Char := s.toList.flatMap escapeChar ++ ['"']

theorem stringChars_eq (s : String) : stringChars s = '"' :: quotedRest s := rfl

theorem quotedRest_text (s : String) : StringRest s (quotedRest s) := escaped_text s.toList

/-! ### Objects in order -/

/-- A key behind all others is set at the end. -/
theorem setMember_last (v : Value) (last : ∀ m ∈ set, m.1 < k) :
    setMember k v set = set ++ [(k, v)] := by
  induction set with
  | nil => rfl
  | cons m set ih =>
    have before : m.1 < k := last m List.mem_cons_self
    have others := ih fun m member => last m (List.mem_cons_of_mem _ member)
    simp only [setMember, if_neg (String.ne_of_lt before).symm, if_neg (String.lt_asymm before),
      others, List.cons_append]

theorem foldl_arrange_sorted (sorted : (set ++ ms).Pairwise fun a b => a.1 < b.1) :
    ms.foldl (fun set m => setMember m.1 m.2 set) set = set ++ ms := by
  induction ms generalizing set with
  | nil => exact (List.append_nil set).symm
  | cons m ms ih =>
    have last : ∀ other ∈ set, other.1 < m.1 := fun other member =>
      (List.pairwise_append.mp sorted).2.2 other member m List.mem_cons_self
    have more : set ++ m :: ms = (set ++ [m]) ++ ms := by simp
    rw [List.foldl_cons, setMember_last m.2 last, more]
    exact ih (more ▸ sorted)

/-- Members in increasing order of their keys are set as they are. -/
theorem arrange_sorted (sorted : ms.Pairwise fun a b => a.1 < b.1) : arrange ms = ms :=
  foldl_arrange_sorted sorted

theorem sorted_distinct (sorted : ms.Pairwise fun a b => a.1 < b.1) : (ms.map Prod.fst).Nodup :=
  List.pairwise_map.mpr (sorted.imp String.ne_of_lt)

/-! ### Arrays and objects -/

/-- A value is reached from its items and members. -/
@[elab_as_elim]
theorem value_induction {P : Value → Prop} (null : P .null) (bool : ∀ b, P (.bool b))
    (int : ∀ i, P (.int i)) (float : ∀ x, P (.float x)) (string : ∀ s, P (.string s))
    (array : ∀ vs, (∀ v ∈ vs, P v) → P (.array vs))
    (object : ∀ ms, (∀ m ∈ ms, P m.2) → P (.object ms)) (v : Value) : P v := by
  refine @Value.rec P (fun vs => ∀ v ∈ vs, P v) (fun ms => ∀ m ∈ ms, P m.2) (fun m => P m.2)
    null bool int float string array object ?_ ?_ ?_ ?_ ?_ v
  · simp
  · intro v vs here others
    exact List.forall_mem_cons.mpr ⟨here, others⟩
  · simp
  · intro m ms here others
    exact List.forall_mem_cons.mpr ⟨here, others⟩
  · exact fun _ _ here => here

section Series

variable {α κ : Type} {E : α → List Char → Prop} {K : κ → List Char → Prop} {as : List α}
  {vs : List Value} {entries : List (κ × α)}

theorem itemsChars_series (each : List.Forall₂ (fun a v => E a v.chars) as vs) :
    ∃ u, Value.itemsChars vs = u ++ [']'] ∧ Series E false as u := by
  induction each with
  | nil => exact ⟨[], rfl, .nil⟩
  | cons here others ih =>
    obtain ⟨u, text, series⟩ := ih
    refine ⟨_, ?_, .cons (.comma blank_nil blank_nil) here series⟩
    simp [Value.itemsChars, text]

/-- The items of an array are written as a series. -/
theorem array_chars (each : List.Forall₂ (fun a v => E a v.chars) as vs) :
    ∃ u, (Value.array vs).chars = '[' :: (u ++ [']']) ∧ Series E true as u := by
  cases each with
  | nil => exact ⟨[], rfl, .nil⟩
  | cons here others =>
    obtain ⟨u, text, series⟩ := itemsChars_series others
    refine ⟨_, ?_, .cons (.opening blank_nil) here series⟩
    simp [Value.chars, text]

theorem membersChars_series
    (each : List.Forall₂ (fun entry m => K entry.1 (quotedRest m.1) ∧ E entry.2 m.2.chars)
      entries ms) :
    ∃ u, Value.membersChars ms = u ++ ['\x7d'] ∧ Series (Entry K E) false entries u := by
  induction each with
  | nil => exact ⟨[], rfl, .nil⟩
  | cons here others ih =>
    obtain ⟨u, text, series⟩ := ih
    have entry := Entry.mk here.1 blank_nil blank_nil here.2
    refine ⟨_, ?_, .cons (.comma blank_nil blank_nil) entry series⟩
    simp [Value.membersChars, stringChars_eq, text]

/-- The members of an object are written as a series. -/
theorem object_chars
    (each : List.Forall₂ (fun entry m => K entry.1 (quotedRest m.1) ∧ E entry.2 m.2.chars)
      entries ms) :
    ∃ u, (Value.object ms).chars = '\x7b' :: (u ++ ['\x7d']) ∧
      Series (Entry K E) true entries u := by
  cases each with
  | nil => exact ⟨[], rfl, .nil⟩
  | cons here others =>
    obtain ⟨u, text, series⟩ := membersChars_series others
    have entry := Entry.mk here.1 blank_nil blank_nil here.2
    refine ⟨_, ?_, .cons (.opening blank_nil) entry series⟩
    simp [Value.chars, stringChars_eq, text]

end Series

/-! ### Values -/

theorem canonicalItems_iff {vs : List Value} :
    Value.CanonicalItems vs ↔ ∀ v ∈ vs, v.Canonical := by
  induction vs with
  | nil => simp [Value.CanonicalItems]
  | cons v vs ih => simp [Value.CanonicalItems, ih]

theorem canonicalMembers_iff : Value.CanonicalMembers ms ↔ ∀ m ∈ ms, m.2.Canonical := by
  induction ms with
  | nil => simp [Value.CanonicalMembers]
  | cons m ms ih => simp [Value.CanonicalMembers, ih]

/-- **The compact text of a canonical value is a text of the value.** -/
theorem chars_text (v : Value) (canonical : v.Canonical) : ValueText v v.chars := by
  induction v using value_induction with
  | null => exact .null
  | bool b =>
    cases b with
    | true => exact .true
    | false => exact .false
  | int i => exact .int canonical.1 canonical.2
  | float x => exact canonical.elim
  | string s => exact .string (quotedRest_text s)
  | array vs ih =>
    have each : ∀ v ∈ vs, ValueText v v.chars := fun v member =>
      ih v member (canonicalItems_iff.mp canonical v member)
    obtain ⟨u, text, series⟩ := array_chars (List.forall₂_same.mpr each)
    rw [text]
    exact .array series blank_nil
  | object ms ih =>
    obtain ⟨sorted, others⟩ := canonical
    have each : ∀ m ∈ ms, StringRest m.1 (quotedRest m.1) ∧ ValueText m.2 m.2.chars :=
      fun m member => ⟨quotedRest_text m.1, ih m member (canonicalMembers_iff.mp others m member)⟩
    obtain ⟨u, text, series⟩ := object_chars (List.forall₂_same.mpr each)
    have whole := ValueText.object series (sorted_distinct sorted) blank_nil
    rwa [arrange_sorted sorted, List.nil_append, ← text] at whole

/-! ### Any value -/

theorem escapeChar_part (c : Char) : StringPart (escapeChar c) := by
  obtain ⟨plain, same⟩ | ⟨e, stands, same⟩ | ⟨control, same⟩ := escapeChar_forms c
  · exact same ▸ .plain plain
  · exact same ▸ .short (Option.isSome_of_eq_some stands)
  · exact same ▸ .numeric (controlQuad_digits control)

theorem quotedRest_json (s : String) : AnyStringRest () (quotedRest s) := by
  refine ⟨s.toList.map fun _ => (), ?_⟩
  rw [quotedRest]
  induction s.toList with
  | nil => exact .close
  | cons c cs ih =>
    rw [List.flatMap_cons, List.append_assoc]
    exact .char (escapeChar_part c) ih

theorem natChars_number (n : Nat) : NumberRest (natChars n) := by
  simpa using NumberRest.mk (natChars_whole n) .none .none

theorem replicate_zero_digits (n : Nat) : ∀ c ∈ List.replicate n '0', c.isDigit = true :=
  fun _ member => (List.mem_replicate.mp member).2 ▸ rfl

theorem natChars_digits (n : Nat) : ∀ c ∈ natChars n, c.isDigit = true :=
  (natChars_whole n).1.2

/-- Digits that begin like those of a positive number are a whole number. -/
theorem whole_like {n : Nat} (positive : 0 < n) {ds : List Char}
    (digits : ∀ c ∈ ds, c.isDigit = true) (like : ds.head? = (natChars n).head?) : Whole ds := by
  have head := natChars_head n positive
  refine ⟨⟨?_, digits⟩, fun zero => absurd (like.symm.trans zero) head⟩
  rintro rfl
  have some : natChars n ≠ [] := Nat.toDigits_ne_nil
  exact some (List.head?_eq_none_iff.mp like.symm)

/-- The digits of a positive number with zeros for powers of ten. -/
theorem padded_number {n : Nat} (positive : 0 < n) (zeros : Nat) :
    NumberRest (natChars n ++ List.replicate zeros '0' ++ ['.', '0']) := by
  have some : natChars n ≠ [] := Nat.toDigits_ne_nil
  have whole : Whole (natChars n ++ List.replicate zeros '0') := by
    refine whole_like positive ?_ (List.head?_append_of_ne_nil _ some)
    exact List.forall_mem_append.mpr ⟨natChars_digits n, replicate_zero_digits zeros⟩
  have fraction : FractionText ['.', '0'] := .some (natChars_whole 0).1
  simpa using NumberRest.mk whole fraction .none

/-- The digits of a positive number with the point among them. -/
theorem pointed_number {n place : Nat} (positive : 0 < n)
    (inside : place + 1 < (natChars n).length) :
    NumberRest ((natChars n).take (place + 1) ++ '.' :: (natChars n).drop (place + 1)) := by
  have whole : Whole ((natChars n).take (place + 1)) := by
    refine whole_like positive (fun c member => ?_) (by simp [List.head?_take])
    exact natChars_digits n c (List.mem_of_mem_take member)
  have fraction : Digits ((natChars n).drop (place + 1)) := by
    refine ⟨?_, fun c member => natChars_digits n c (List.mem_of_mem_drop member)⟩
    rw [ne_eq, List.drop_eq_nil_iff]
    omega
  simpa using NumberRest.mk whole (.some fraction) .none

/-- All digits behind the point. -/
theorem behind_point_number (n zeros : Nat) :
    NumberRest (['0', '.'] ++ List.replicate zeros '0' ++ natChars n) := by
  have zero : Whole ['0'] := natChars_whole 0
  have some : natChars n ≠ [] := Nat.toDigits_ne_nil
  have fraction : Digits (List.replicate zeros '0' ++ natChars n) := by
    refine ⟨by simp [some], ?_⟩
    exact List.forall_mem_append.mpr ⟨replicate_zero_digits zeros, natChars_digits n⟩
  simpa using NumberRest.mk zero (.some fraction) .none

/-- One digit in front of the point, the others behind it, and an exponent. -/
theorem scientific_number {n : Nat} (positive : 0 < n) {sign : Char}
    (signed : sign = '-' ∨ sign = '+') (power : Nat) :
    NumberRest ((natChars n).take 1 ++ (match (natChars n).drop 1 with
      | [] => []
      | more => '.' :: more) ++ ['e', sign] ++ natChars power) := by
  have exponent : ExponentText ('e' :: ([sign] ++ natChars power)) := by
    refine .some rfl ?_ (natChars_whole power).1
    rcases signed with rfl | rfl <;> simp
  have whole : Whole ((natChars n).take 1) := by
    refine whole_like positive (fun c member => ?_) (by simp [List.head?_take])
    exact natChars_digits n c (List.mem_of_mem_take member)
  cases others : (natChars n).drop 1 with
  | nil => simpa using NumberRest.mk whole .none exponent
  | cons d more =>
    have fraction : Digits (d :: more) := by
      refine ⟨List.cons_ne_nil _ _, fun c member => natChars_digits n c ?_⟩
      exact List.mem_of_mem_drop (others ▸ member)
    simpa using NumberRest.mk whole (.some fraction) exponent

/-- A decimal is written as a number, whichever of its forms it takes. -/
theorem decimal_number (d : Decimal) : NumberRest d.chars := by
  unfold Decimal.chars
  simp only
  split
  · exact .mk (natChars_whole 0) (.some (natChars_whole 0).1) .none
  · rename_i nonzero
    have positive : 0 < d.digits := Nat.pos_of_ne_zero nonzero
    split
    · split
      · exact padded_number positive _
      · split
        · exact pointed_number positive (by omega)
        · exact behind_point_number d.digits _
    · refine scientific_number positive ?_ _
      split <;> simp

/-- **The compact text of any value is a JSON text.** -/
theorem chars_json (v : Value) : JsonText v.chars := by
  induction v using value_induction with
  | null => exact .null
  | bool b =>
    cases b with
    | true => exact .true
    | false => exact .false
  | int i =>
    rw [Value.chars, intChars]
    split
    · exact .negative (natChars_number _)
    · exact .number (natChars_number _)
  | float x =>
    rw [Value.chars, Binary64.chars]
    split
    · exact .negative (decimal_number _)
    · exact .number (decimal_number _)
  | string s => exact .string (quotedRest_json s)
  | array vs ih =>
    have each : List.Forall₂ (fun _ v => JsonText v.chars) (vs.map fun _ => ()) vs :=
      List.forall₂_map_left_iff.mpr (List.forall₂_same.mpr ih)
    obtain ⟨u, text, series⟩ := array_chars (E := fun _ => JsonText) each
    rw [text]
    exact .array series blank_nil
  | object ms ih =>
    have each : List.Forall₂ (fun entry m => AnyStringRest entry.1 (quotedRest m.1) ∧
        JsonText m.2.chars) (ms.map fun _ => ((), ())) ms :=
      List.forall₂_map_left_iff.mpr (List.forall₂_same.mpr fun m member =>
        ⟨quotedRest_json m.1, ih m member⟩)
    obtain ⟨u, text, series⟩ := object_chars (E := fun _ => JsonText) each
    rw [text]
    exact .object series blank_nil

end Fanout.Json
