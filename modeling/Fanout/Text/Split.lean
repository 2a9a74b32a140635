/-! Text in parts. A separator stands between any two parts, so a text without it
is one part, and the parts with the separator between them are the text again. -/
namespace Fanout.Text

/-- The parts of a text between its separators; there is always one. -/
def split (separator : Char) : List Char → List (List Char)
  | [] => [[]]
  | c :: rest =>
    if c = separator then [] :: split separator rest
    else
      match split separator rest with
      | [] => [[c]]
      | part :: parts => (c :: part) :: parts

/-- Some parts with a separator between them. -/
def join (separator : Char) : List (List Char) → List Char
  | [] => []
  | [part] => part
  | part :: parts => part ++ separator :: join separator parts

theorem split_ne_nil (separator : Char) (cs : List Char) : split separator cs ≠ [] := by
  cases cs with
  | nil => simp [split]
  | cons c rest =>
    rw [split]
    split
    · simp
    · split <;> simp

/-- The parts of a text between its commas. -/
def commaParts (s : String) : List String :=
  (split ',' s.toList).map String.ofList

end Fanout.Text
