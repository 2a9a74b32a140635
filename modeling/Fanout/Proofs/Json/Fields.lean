import Fanout.Proofs.Json.Reading

/-! Reading values of a known shape from their texts: strings, integers, options and
lists. -/
namespace Fanout.Json

variable {α β : Type} {E : α → List Char → Prop} {as : List α} {ws space rest t u : List Char}

/-- The wire form of something that may be absent, null when it is. -/
def orNull (write : β → Value) : Option β → Value
  | some b => write b
  | none => .null

theorem string_reads {s : String} (text : ValueText (.string s) t) (blank : Blank ws) :
    string (ws ++ (t ++ rest)) = .ok (s, rest) := by
  cases text with
  | string text =>
    rw [List.cons_append, string, skipSpace_to blank (show isSpace '"' = false from rfl)]
    exact stringRest_reads text rest

theorem int64_reads {i : Int64} (text : ValueText (.int i.toInt) t) (blank : Blank ws)
    (boundary : Boundary rest) : int64 (ws ++ (t ++ rest)) = .ok (i, rest) := by
  cases text with
  | int least most =>
    have reads := scalar_reads_int least most boundary
    have fits : i.toInt < (wordCount / 2 : Nat) := i.toInt_lt
    rw [int64, skipSpace_opens blank (intChars_opens _)]
    obtain ⟨c, more, same, front⟩ := intChars_front i.toInt
    rw [same] at reads ⊢
    simp only [List.cons_append] at reads ⊢
    simp only [front, if_true, reads, fits, Int64.ofInt_toInt]

theorem optional_reads_none {read : Reader β} (text : ValueText .null t) (blank : Blank ws) :
    optional read (ws ++ (t ++ rest)) = .ok (none, rest) := by
  cases text
  rw [List.cons_append, optional, skipSpace_to blank (show isSpace 'n' = false from rfl)]
  rfl

/-- A text that does not begin like null is read as something. -/
theorem optional_reads_some {read : Reader β} {b : β} (opens : Opens t)
    (notNull : t.head? ≠ some 'n') (reads : read (t ++ rest) = .ok (b, rest))
    (blank : Blank ws) : optional read (ws ++ (t ++ rest)) = .ok (some b, rest) := by
  rw [optional, skipSpace_opens blank opens]
  split
  · rename_i found
    obtain ⟨c, more, rfl, -⟩ := opens
    cases found
    exact absurd rfl notNull
  · rw [reads]
    rfl

/-- A list is read item by item, one level further inside. -/
theorem list_reads {read : Nat → Reader β} {out : α → Except Fault β} {depth : Nat}
    (opens : ∀ a t, E a t → Opens t) (reads : ReadsItems (read depth) E out as)
    (series : Series E true as u) (spaced : Blank space) (blank : Blank ws) :
    list read (depth + 1) (ws ++ '[' :: (u ++ (space ++ ']' :: rest))) =
      (as.mapM out).map (·, rest) := by
  rw [list, skipSpace_to blank (show isSpace '[' = false from rfl)]
  exact arrayRest_series opens reads series spaced

end Fanout.Json
