import Fanout.Text.Split
import Mathlib.Data.List.Basic

/-! Texts in parts. A text that is put together of parts with separators between them comes
apart into these parts again, if the separator is in none of them. -/
namespace Fanout.Text

variable {separator : Char} {part : List Char} {parts : List (List Char)}

theorem split_append (separator : Char) (front back : List Char) :
    split separator (front ++ separator :: back) =
      split separator front ++ split separator back := by
  induction front with
  | nil => simp [split]
  | cons c front ih =>
    obtain ⟨part, parts, shape⟩ := List.exists_cons_of_ne_nil (split_ne_nil separator front)
    simp only [List.cons_append, split, ih, shape]
    split <;> rfl

/-- A text without a separator is one part. -/
theorem split_part (whole : separator ∉ part) : split separator part = [part] := by
  induction part with
  | nil => rfl
  | cons c part ih =>
    rw [List.mem_cons, not_or] at whole
    rw [split, if_neg (Ne.symm whole.1), ih whole.2]

/-- Nothing is lost in a join. -/
theorem split_join (whole : ∀ part ∈ parts, separator ∉ part) (some : parts ≠ []) :
    split separator (join separator parts) = parts := by
  induction parts with
  | nil => exact absurd rfl some
  | cons part parts ih =>
    obtain ⟨here, others⟩ := List.forall_mem_cons.mp whole
    cases parts with
    | nil => exact split_part here
    | cons next more =>
      rw [join, split_append, split_part here, ih others (List.cons_ne_nil next more)]
      · rfl
      · exact List.cons_ne_nil next more

theorem join_eq_intercalate (separator : Char) (parts : List (List Char)) :
    join separator parts = [separator].intercalate parts := by
  induction parts with
  | nil => rfl
  | cons part parts ih =>
    cases parts with
    | nil => simp [join]
    | cons next more =>
      rw [List.intercalate_cons_cons, ← ih]
      simp [join]

/-- Words without a comma are read back from a list with commas between them. -/
theorem commaParts_intercalate {words : List String} (whole : ∀ word ∈ words, ',' ∉ word.toList)
    (some : words ≠ []) : commaParts (",".intercalate words) = words := by
  have lists : split ',' (",".intercalate words).toList = words.map String.toList := by
    rw [String.toList_intercalate]
    refine (congrArg _ (join_eq_intercalate ',' _).symm).trans (split_join ?_ (by simpa using some))
    simpa using whole
  rw [commaParts, lists, List.map_map]
  simp

end Fanout.Text
