import Fanout.Proofs.Json.Reading
import Fanout.Proofs.Json.Writing

/-! Texts over lines. They belong to the grammar like compact ones, with blanks after the
brackets, commas and colons. So what is printed over lines reads back, also an object whose
members are written in another order than that of their keys: it is read with the order of
its keys. -/
namespace Fanout.Json

variable {α κ : Type} {E : α → List Char → Prop} {K : κ → List Char → Prop} {as : List α}
  {vs : List Value} {entries : List (κ × α)} {ms : List (String × Value)} {level : Nat}

theorem newline_blank (level : Nat) : Blank (Value.newline level) := by
  intro c member
  rcases List.mem_cons.mp member with rfl | indent
  · rfl
  · rw [List.eq_of_mem_replicate indent]
    rfl

theorem space_blank : Blank [' '] := fun _ member => List.mem_singleton.mp member ▸ rfl

/-! ### Arrays and objects -/

theorem prettyItems_series
    (each : List.Forall₂ (fun a v => E a (v.prettyChars (level + 1))) as vs) :
    ∃ u, Value.prettyItems level vs = u ++ (Value.newline level ++ [']']) ∧
      Series E false as u := by
  induction each with
  | nil => exact ⟨[], rfl, .nil⟩
  | cons here others ih =>
    obtain ⟨u, text, series⟩ := ih
    refine ⟨_, ?_, .cons (.comma blank_nil (newline_blank (level + 1))) here series⟩
    simp [Value.prettyItems, text]

/-- The items of an array are laid out as a series. -/
theorem array_pretty
    (each : List.Forall₂ (fun a v => E a (v.prettyChars (level + 1))) as vs) :
    ∃ u ws, (Value.array vs).prettyChars level = '[' :: (u ++ (ws ++ [']'])) ∧
      Series E true as u ∧ Blank ws := by
  cases each with
  | nil => exact ⟨[], [], rfl, .nil, blank_nil⟩
  | cons here others =>
    obtain ⟨u, text, series⟩ := prettyItems_series others
    refine ⟨_, Value.newline level, ?_, .cons (.opening (newline_blank (level + 1))) here series,
      newline_blank level⟩
    simp [Value.prettyChars, text]

theorem prettyMembers_series
    (each : List.Forall₂ (fun entry m => K entry.1 (quotedRest m.1) ∧
      E entry.2 (m.2.prettyChars (level + 1))) entries ms) :
    ∃ u, Value.prettyMembers level ms = u ++ (Value.newline level ++ ['\x7d']) ∧
      Series (Entry K E) false entries u := by
  induction each with
  | nil => exact ⟨[], rfl, .nil⟩
  | cons here others ih =>
    obtain ⟨u, text, series⟩ := ih
    have entry := Entry.mk here.1 blank_nil space_blank here.2
    refine ⟨_, ?_, .cons (.comma blank_nil (newline_blank (level + 1))) entry series⟩
    simp [Value.prettyMembers, stringChars_eq, text]

/-- The members of an object are laid out as a series. -/
theorem object_pretty
    (each : List.Forall₂ (fun entry m => K entry.1 (quotedRest m.1) ∧
      E entry.2 (m.2.prettyChars (level + 1))) entries ms) :
    ∃ u ws, (Value.object ms).prettyChars level = '\x7b' :: (u ++ (ws ++ ['\x7d'])) ∧
      Series (Entry K E) true entries u ∧ Blank ws := by
  cases each with
  | nil => exact ⟨[], [], rfl, .nil, blank_nil⟩
  | cons here others =>
    obtain ⟨u, text, series⟩ := prettyMembers_series others
    have entry := Entry.mk here.1 blank_nil space_blank here.2
    refine ⟨_, Value.newline level, ?_, .cons (.opening (newline_blank (level + 1))) entry series,
      newline_blank level⟩
    simp [Value.prettyChars, stringChars_eq, text]

/-! ### Values -/

theorem array_laid_out {read : List Value}
    (each : List.Forall₂ (fun w v => ValueText w (v.prettyChars (level + 1))) read vs) :
    ValueText (.array read) ((Value.array vs).prettyChars level) := by
  obtain ⟨u, ws, text, series, blank⟩ := array_pretty each
  exact text ▸ .array series blank

/-- Members with distinct keys may be laid out in any order. -/
theorem object_laid_out (each : ∀ m ∈ ms, ValueText m.2 (m.2.prettyChars (level + 1)))
    (distinct : (ms.map Prod.fst).Nodup) :
    ValueText (.object (arrange ms)) ((Value.object ms).prettyChars level) := by
  have entries : ∀ m ∈ ms, StringRest m.1 (quotedRest m.1) ∧
      ValueText m.2 (m.2.prettyChars (level + 1)) := fun m member =>
    ⟨quotedRest_text m.1, each m member⟩
  obtain ⟨u, ws, text, series, blank⟩ := object_pretty (List.forall₂_same.mpr entries)
  exact text ▸ .object series distinct blank

/-- The text of a canonical value over lines is a text of the value. -/
theorem pretty_text (v : Value) (canonical : v.Canonical) (level : Nat) :
    ValueText v (v.prettyChars level) := by
  induction v using value_induction generalizing level with
  | null => exact .null
  | bool b =>
    cases b with
    | true => exact .true
    | false => exact .false
  | int i => exact .int canonical.1 canonical.2
  | float x => exact canonical.elim
  | string s => exact .string (quotedRest_text s)
  | array vs ih =>
    refine array_laid_out (List.forall₂_same.mpr fun v member => ?_)
    exact ih v member (canonicalItems_iff.mp canonical v member) (level + 1)
  | object ms ih =>
    obtain ⟨sorted, others⟩ := canonical
    have whole : ValueText (.object (arrange ms)) ((Value.object ms).prettyChars level) :=
      object_laid_out (fun m member =>
        ih m member (canonicalMembers_iff.mp others m member) (level + 1)) (sorted_distinct sorted)
    rwa [arrange_sorted sorted] at whole

/-- A text over lines reads back to what it is a text of, also with the end of its last
line. -/
theorem pretty_reads {v w : Value} (text : ValueText w (v.prettyChars 0))
    (shallow : w.depth ≤ maxDepth) : Value.parse (v.pretty ++ "\n") = .ok w := by
  have ended : Boundary ['\n'] := by
    rintro c found
    cases found
    decide
  have reads := value_reads maxDepth text blank_nil ended
  rw [within_eq_ok shallow] at reads
  have whole : value maxDepth (v.pretty ++ "\n").toList = .ok (w, ['\n']) := by
    simpa [Value.pretty, Except.map] using reads
  exact whole_reads whole fun _ member => List.mem_singleton.mp member ▸ rfl

end Fanout.Json
