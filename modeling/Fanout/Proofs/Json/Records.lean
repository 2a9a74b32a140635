import Fanout.Proofs.Json.Reading

/-! Reading records from objects. What a shape makes of an object depends only on the
members that name its fields, in whatever order they come, and on nothing that stands
behind the first fault. A shape reads a value if its fields read their parts of the value
into a draft; then it reads it from every object that has the fields it needs. -/
namespace Fanout.Json

variable {δ α : Type} {shape : Shape δ α} {depth : Nat} {entries : List (String × List Char)}
  {ws rest t u gap : List Char} {draft : δ} {key name : String}

/-- The text of an object with these members, each with the text of its value. -/
def ObjectText (entries : List (String × List Char)) (t : List Char) : Prop :=
  ∃ u ws, t = '\x7b' :: (u ++ (ws ++ ['\x7d'])) ∧
    Series (Entry StringRest Eq) true entries u ∧ Blank ws

/-- The field does with the text the same for every text that may follow. -/
def Field.Settles (field : Field δ) (depth : Nat) (t : List Char) : Prop :=
  ∀ draft, ∃ out : Except Fault δ, ∀ ws rest, Blank ws → Boundary rest →
    field.read depth draft (ws ++ (t ++ rest)) = out.map (·, rest)

/-- The text is one of a value that the field may have. -/
def Field.Takes (field : Field δ) (depth : Nat) (t : List Char) : Prop :=
  ∀ draft, ∃ next, ∀ ws rest, Blank ws → Boundary rest →
    field.read depth draft (ws ++ (t ++ rest)) = .ok (next, rest)

namespace Shape

/-- The field of that name. -/
def field? (shape : Shape δ α) (name : String) : Option (Field δ) :=
  shape.fields.find? (·.name == name)

/-- The members that name fields, by their names. -/
def named (shape : Shape δ α) (entries : List (String × List Char)) : List String :=
  (entries.map Prod.fst).filter fun name => (shape.field? name).isSome

/-- What a member does to a draft. -/
def take (shape : Shape δ α) (depth : Nat) (draft : δ) (entry : String × List Char) :
    Except Fault δ :=
  match shape.field? entry.1 with
  | none => .ok draft
  | some field =>
    if field.filled draft then .error (.shape (.duplicateField entry.1))
    else (field.read depth draft entry.2).map Prod.fst

/-- The record that a draft makes, or what is wrong with it. -/
def made (shape : Shape δ α) (draft : δ) : Except Fault α :=
  match shape.finish draft with
  | .error mismatch => .error (.shape mismatch)
  | .ok a => .ok a

/-- The member is no field and has any JSON text, or its field settles on its text. -/
def Settles (shape : Shape δ α) (depth : Nat) (entry : String × List Char) : Prop :=
  match shape.field? entry.1 with
  | none => JsonText entry.2
  | some field => field.Settles depth entry.2

/-- The member is well formed and well typed: it is no field and has any JSON text, or its
field takes its text. -/
def Fits (shape : Shape δ α) (depth : Nat) (entry : String × List Char) : Prop :=
  match shape.field? entry.1 with
  | none => JsonText entry.2
  | some field => field.Takes depth entry.2

end Shape

/-! ### Members of a record -/

theorem settles_of_fits {entry : String × List Char} (fits : shape.Fits depth entry) :
    shape.Settles depth entry := by
  unfold Shape.Fits at fits
  unfold Shape.Settles
  cases known : shape.field? entry.1 with
  | none => simpa only [known] using fits
  | some field =>
    simp only [known] at fits ⊢
    intro draft
    obtain ⟨next, reads⟩ := fits draft
    exact ⟨.ok next, reads⟩

/-- A member does to the draft what its text does on its own. -/
theorem member_take {entry : String × List Char} (settles : shape.Settles depth entry)
    {more : List Char} (before : Blank ws) (after : Blank more) (boundary : Boundary rest) :
    shape.member depth draft entry.1 (ws ++ ':' :: (more ++ (entry.2 ++ rest))) =
      (shape.take depth draft entry).map (·, rest) := by
  unfold Shape.Settles at settles
  unfold Shape.member Shape.take
  rw [← Shape.field?]
  cases known : shape.field? entry.1 with
  | none =>
    simp only [known] at settles ⊢
    simp only [colon_reads before, skip_reads settles after boundary]
    rfl
  | some field =>
    simp only [known] at settles ⊢
    obtain ⟨out, reads⟩ := settles draft
    have alone := reads [] [] blank_nil boundary_nil
    rw [List.nil_append, List.append_nil] at alone
    simp only [colon_reads before, reads more rest after boundary, alone]
    split
    · rfl
    · cases out <;> rfl

theorem record_members (settles : ∀ entry ∈ entries, shape.Settles depth entry) :
    ReadsMembers (shape.member depth) Eq (shape.take depth) entries := by
  intro entry listed draft ws more t rest before after same boundary
  subst same
  exact member_take (settles entry listed) before after boundary

theorem record_keys : ReadsKeys stringRest StringRest :=
  fun _ _ rest text => stringRest_reads text rest

/-- **A record is a fold over the members of its object.** -/
theorem record_reads (text : ObjectText entries t)
    (settles : ∀ entry ∈ entries, shape.Settles depth entry) (blank : Blank ws) :
    shape.read (depth + 1) (ws ++ (t ++ rest)) =
      ((entries.foldlM (shape.take depth) shape.blank).bind shape.made).map (·, rest) := by
  obtain ⟨u, space, rfl, series, spaced⟩ := text
  have whole := members_whole record_keys (record_members settles) series spaced shape.blank rest
  simp only [List.cons_append, List.append_assoc, List.nil_append]
  rw [Shape.read, skipSpace_to blank (show isSpace '\x7b' = false from rfl)]
  simp only [if_true, whole]
  cases entries.foldlM (shape.take depth) shape.blank with
  | error fault => rfl
  | ok draft =>
    simp only [Except.map, Except.bind, Shape.conclude, Shape.made]
    cases shape.finish draft <;> rfl

/-! ### Fields by their names -/

namespace Shape

/-- The draft has a value for the field of that name. -/
def has (shape : Shape δ α) (draft : δ) (name : String) : Bool :=
  shape.fields.any fun field => field.name == name && field.filled draft

/-- What makes a shape read by the names of its fields: a field fills itself and no other,
and the first needed field that a draft does not have is the one that is missed. -/
structure ByName (shape : Shape δ α) (needed : List String) : Prop where
  known : ∀ name ∈ needed, (shape.field? name).isSome
  blank : ∀ field ∈ shape.fields, field.filled shape.blank = false
  fills : ∀ field ∈ shape.fields, ∀ depth draft s next rest,
    field.read depth draft s = .ok (next, rest) → ∀ other ∈ shape.fields,
      other.filled next = (other.filled draft || other.name == field.name)
  misses : ∀ draft name, needed.find? (fun name => !shape.has draft name) = some name →
    shape.finish draft = .error (.missingField name)

end Shape

variable {needed : List String}

theorem field_of_name {field : Field δ} (known : shape.field? name = some field) :
    field ∈ shape.fields ∧ field.name = name := by
  have same := List.find?_some known
  exact ⟨List.mem_of_find?_eq_some known, beq_iff_eq.mp same⟩

theorem named_cons (entry : String × List Char) (rest : List (String × List Char)) :
    shape.named (entry :: rest) =
      if (shape.field? entry.1).isSome then entry.1 :: shape.named rest else shape.named rest := by
  simp [Shape.named, List.filter_cons]

theorem mem_named : name ∈ shape.named entries ↔
    name ∈ entries.map Prod.fst ∧ (shape.field? name).isSome := by
  simp [Shape.named]

/-- Members that are well formed and well typed, none of them twice, fill the fields that
they name. -/
theorem fits_fill (law : shape.ByName needed) (fits : ∀ entry ∈ entries, shape.Fits depth entry)
    (done : List String) (once : (done ++ shape.named entries).Nodup)
    (start : ∀ field ∈ shape.fields, field.filled draft = done.contains field.name) :
    ∃ last, entries.foldlM (shape.take depth) draft = .ok last ∧
      ∀ field ∈ shape.fields,
        field.filled last = (done ++ shape.named entries).contains field.name := by
  induction entries generalizing done draft with
  | nil =>
    refine ⟨draft, rfl, ?_⟩
    simpa [Shape.named] using start
  | cons entry rest ih =>
    have here := fits entry List.mem_cons_self
    have others : ∀ entry ∈ rest, shape.Fits depth entry :=
      fun entry member => fits entry (List.mem_cons_of_mem _ member)
    rw [named_cons] at once ⊢
    unfold Shape.Fits at here
    rw [List.foldlM_cons, Shape.take]
    cases known : shape.field? entry.1 with
    | none =>
      simp only [known, Option.isSome_none, Bool.false_eq_true, if_false] at once ⊢
      exact ih others done once start
    | some field =>
      simp only [known, Option.isSome_some, if_true] at here once ⊢
      obtain ⟨listed, same⟩ := field_of_name known
      obtain ⟨next, reads⟩ := here draft
      have alone := reads [] [] blank_nil boundary_nil
      rw [List.nil_append, List.append_nil] at alone
      have split : done ++ entry.1 :: shape.named rest =
          (done ++ [entry.1]) ++ shape.named rest := by simp
      have unfilled : field.filled draft = false := by
        rw [start field listed, same]
        have apart := (List.nodup_append.mp once).2.2
        simpa using fun member => apart entry.1 member entry.1 List.mem_cons_self rfl
      simp only [unfilled, alone, Bool.false_eq_true, if_false]
      rw [split] at once ⊢
      refine ih others _ once fun other member => ?_
      rw [law.fills field listed depth draft _ next [] alone other member, start other member, same,
        Bool.eq_iff_iff]
      simp

/-- The draft then has the fields that are named, and no others. -/
theorem fits_has (law : shape.ByName needed) (fits : ∀ entry ∈ entries, shape.Fits depth entry)
    (once : (shape.named entries).Nodup) :
    ∃ last, entries.foldlM (shape.take depth) shape.blank = .ok last ∧
      (∀ field ∈ shape.fields, field.filled last = (shape.named entries).contains field.name) ∧
      ∀ name, shape.has last name = (shape.named entries).contains name := by
  obtain ⟨last, folded, filled⟩ := fits_fill law fits [] once law.blank
  rw [List.nil_append] at filled
  refine ⟨last, folded, filled, fun name => ?_⟩
  rw [Bool.eq_iff_iff, Shape.has, List.any_eq_true, List.contains_iff_mem]
  constructor
  · rintro ⟨field, listed, found⟩
    rw [Bool.and_eq_true, beq_iff_eq, filled field listed, List.contains_iff_mem] at found
    exact found.1 ▸ found.2
  · intro member
    obtain ⟨field, known⟩ := Option.isSome_iff_exists.mp (mem_named.mp member).2
    obtain ⟨listed, same⟩ := field_of_name known
    refine ⟨field, listed, ?_⟩
    rw [Bool.and_eq_true, beq_iff_eq, filled field listed, List.contains_iff_mem, same]
    exact ⟨rfl, member⟩

/-! ### Objects that are refused -/

/-- The beginnings of objects that are refused, whatever comes behind them, with what is
wrong. An object that has come to its end without a needed field misses the first one, in
the order in which they are declared. An object in which a field is named for a second time
has it twice. What stands before is well formed and well typed. -/
inductive Shape.Refused (shape : Shape δ α) (needed : List String) (depth : Nat) :
    Mismatch → List Char → Prop where
  | missing {entries : List (String × List Char)} {t : List Char} {name : String}
      (text : ObjectText entries t) (fits : ∀ entry ∈ entries, shape.Fits depth entry)
      (once : (shape.named entries).Nodup)
      (first : needed.find? (· ∉ entries.map Prod.fst) = some name) :
      Refused shape needed depth (.missingField name) t
  | repeated {entries : List (String × List Char)} {u gap kt : List Char} {key : String}
      (series : Series (Entry StringRest Eq) true entries u)
      (fits : ∀ entry ∈ entries, shape.Fits depth entry) (once : (shape.named entries).Nodup)
      (again : key ∈ shape.named entries) (between : Gap false gap) (text : StringRest key kt) :
      Refused shape needed depth (.duplicateField key) ('\x7b' :: (u ++ (gap ++ '"' :: kt)))

theorem missing_reads (law : shape.ByName needed) (text : ObjectText entries t)
    (fits : ∀ entry ∈ entries, shape.Fits depth entry) (once : (shape.named entries).Nodup)
    (first : needed.find? (· ∉ entries.map Prod.fst) = some name) (blank : Blank ws) :
    shape.read (depth + 1) (ws ++ (t ++ rest)) = .error (.shape (.missingField name)) := by
  obtain ⟨last, folded, -, has⟩ := fits_has law fits once
  have same : needed.find? (fun name => !shape.has last name) =
      needed.find? (· ∉ entries.map Prod.fst) := by
    rw [← List.head?_filter, ← List.head?_filter]
    refine congrArg List.head? (List.filter_congr fun other member => ?_)
    rw [has, Bool.eq_iff_iff]
    simp only [Bool.not_eq_eq_eq_not, Bool.not_true, decide_eq_true_eq]
    rw [← Bool.not_eq_true, List.contains_iff_mem, mem_named, law.known other member]
    simp
  rw [record_reads text (fun entry member => settles_of_fits (fits entry member)) blank, folded]
  simp only [Except.bind, Shape.made, law.misses last name (same.trans first)]
  rfl

/-- What a member is refused for is what the record is refused for. -/
theorem record_fault {last : δ} {kt : List Char} {fault : Fault}
    (series : Series (Entry StringRest Eq) true entries u)
    (fits : ∀ entry ∈ entries, shape.Fits depth entry)
    (folded : entries.foldlM (shape.take depth) shape.blank = .ok last)
    (between : Gap entries.isEmpty gap) (text : StringRest key kt)
    (refused : shape.member depth last key rest = .error fault) (blank : Blank ws) :
    shape.read (depth + 1) (ws ++ '\x7b' :: (u ++ (gap ++ '"' :: (kt ++ rest)))) =
      .error fault := by
  have walk := members_fault record_keys
    (record_members fun entry member => settles_of_fits (fits entry member)) series folded between
    text refused
  rw [Shape.read, skipSpace_to blank (show isSpace '\x7b' = false from rfl)]
  simp only [if_true, walk]

theorem repeated_reads (law : shape.ByName needed)
    (series : Series (Entry StringRest Eq) true entries u)
    (fits : ∀ entry ∈ entries, shape.Fits depth entry) (once : (shape.named entries).Nodup)
    (again : key ∈ shape.named entries) (between : Gap false gap) {kt : List Char}
    (text : StringRest key kt) (blank : Blank ws) :
    shape.read (depth + 1) (ws ++ '\x7b' :: (u ++ (gap ++ '"' :: (kt ++ rest)))) =
      .error (.shape (.duplicateField key)) := by
  obtain ⟨last, folded, filled, -⟩ := fits_has law fits once
  obtain ⟨field, known⟩ := Option.isSome_iff_exists.mp (mem_named.mp again).2
  obtain ⟨listed, same⟩ := field_of_name known
  have taken : field.filled last = true := by
    rw [filled field listed, same, List.contains_iff_mem]
    exact again
  have started : entries.isEmpty = false := by
    cases entries with
    | nil => cases again
    | cons => rfl
  refine record_fault series fits folded (started ▸ between) text ?_ blank
  rw [Shape.field?] at known
  simp only [Shape.member, known, taken, if_true]

/-- **A record is refused at the first fault in its object.** -/
theorem refused_reads (law : shape.ByName needed) {mismatch : Mismatch}
    (refused : shape.Refused needed depth mismatch t) (blank : Blank ws) (rest : List Char) :
    shape.read (depth + 1) (ws ++ (t ++ rest)) = .error (.shape mismatch) := by
  cases refused with
  | missing text fits once first => exact missing_reads law text fits once first blank
  | repeated series fits once again between text =>
    simp only [List.cons_append, List.append_assoc]
    exact repeated_reads law series fits once again between text blank

/-! ### Objects that spell a record -/

variable {Writes : String → List Char → Prop} {Default : String → Prop}

/-- The member is no field and has any JSON text, or it has a text of that field. -/
def Shape.Spells (shape : Shape δ α) (Writes : String → List Char → Prop)
    (entry : String × List Char) : Prop :=
  match shape.field? entry.1 with
  | none => JsonText entry.2
  | some field => Writes field.name entry.2

/-- An object that spells a record: it has texts of the fields, in any order and none twice,
and other members among them, and a field that it does not have may be left out. -/
def Shape.ObjectOf (shape : Shape δ α) (Writes : String → List Char → Prop)
    (Default : String → Prop) (t : List Char) : Prop :=
  ∃ entries, ObjectText entries t ∧ (∀ entry ∈ entries, shape.Spells Writes entry) ∧
    (shape.named entries).Nodup ∧
    ∀ field ∈ shape.fields, field.name ∉ entries.map Prod.fst → Default field.name

theorem objectOf_opens (text : shape.ObjectOf Writes Default t) : Opens t := by
  obtain ⟨entries, ⟨u, ws, rfl, -⟩, -⟩ := text
  exact ⟨'\x7b', _, rfl, rfl, by decide⟩

/-- The field does with the text what puts its part of the record into the portions that are
there. -/
def Field.Puts (field : Field δ) (depth : Nat) (portion : (String → Bool) → δ)
    (t : List Char) : Prop :=
  ∃ put : δ → δ,
    (∀ draft ws rest, Blank ws → Boundary rest →
      field.read depth draft (ws ++ (t ++ rest)) = .ok (put draft, rest)) ∧
    ∀ present, put (portion present) = portion fun name => present name || name == field.name

/-- What makes a shape read back one record from the texts of its fields. `portion` is the
draft that has some of the fields of the record; the text of one more field puts that field
there, and the record is made as soon as what is not there are defaults. -/
structure Shape.Portions (shape : Shape δ α) (depth : Nat) (a : α)
    (Writes : String → List Char → Prop) (Default : String → Prop)
    (portion : (String → Bool) → δ) : Prop where
  blank : portion (fun _ => false) = shape.blank
  filled : ∀ field ∈ shape.fields, ∀ present, field.filled (portion present) = present field.name
  puts : ∀ field ∈ shape.fields, ∀ t, Writes field.name t → field.Puts depth portion t
  finish : ∀ present,
    (∀ name, (shape.field? name).isSome → present name = false → Default name) →
      shape.finish (portion present) = .ok a

variable {a : α} {portion : (String → Bool) → δ}

/-- A field that reads a part of the record, and puts it into the draft where it belongs. -/
theorem part_puts {β : Type} {field : Field δ} {read : Reader β} {b : β} (put : δ → β → δ)
    (same : ∀ draft s, field.read depth draft s = (read s).map fun (b, s) => (put draft b, s))
    (reads : ∀ ws rest, Blank ws → Boundary rest → read (ws ++ (t ++ rest)) = .ok (b, rest))
    (puts : ∀ present, put (portion present) b =
      portion fun name => present name || name == field.name) :
    field.Puts depth portion t := by
  refine ⟨(put · b), fun draft ws rest blank boundary => ?_, puts⟩
  rw [same, reads ws rest blank boundary]
  rfl

/-- The texts of a record are well formed and well typed. -/
theorem fits_of_spells (law : shape.Portions depth a Writes Default portion)
    {entry : String × List Char} (spells : shape.Spells Writes entry) :
    shape.Fits depth entry := by
  unfold Shape.Spells at spells
  unfold Shape.Fits
  cases known : shape.field? entry.1 with
  | none => simpa only [known] using spells
  | some field =>
    simp only [known] at spells ⊢
    obtain ⟨put, reads, -⟩ := law.puts field (field_of_name known).1 entry.2 spells
    exact fun draft => ⟨put draft, reads draft⟩

/-- One member after the other puts its field into the portion that is there. -/
theorem spells_fold (law : shape.Portions depth a Writes Default portion)
    (spells : ∀ entry ∈ entries, shape.Spells Writes entry) (once : (shape.named entries).Nodup)
    (present : String → Bool) (apart : ∀ name ∈ shape.named entries, present name = false) :
    entries.foldlM (shape.take depth) (portion present) =
      .ok (portion fun name => present name || (shape.named entries).contains name) := by
  induction entries generalizing present with
  | nil => simp [Shape.named, pure, Except.pure]
  | cons entry rest ih =>
    have here := spells entry List.mem_cons_self
    have others : ∀ entry ∈ rest, shape.Spells Writes entry :=
      fun entry member => spells entry (List.mem_cons_of_mem _ member)
    rw [named_cons] at once apart ⊢
    unfold Shape.Spells at here
    rw [List.foldlM_cons, Shape.take]
    cases known : shape.field? entry.1 with
    | none =>
      simp only [known, Option.isSome_none, Bool.false_eq_true, if_false] at once apart ⊢
      exact ih others once present apart
    | some field =>
      simp only [known, Option.isSome_some, if_true] at here once apart ⊢
      obtain ⟨listed, same⟩ := field_of_name known
      obtain ⟨put, reads, puts⟩ := law.puts field listed entry.2 here
      have alone := reads (portion present) [] [] blank_nil boundary_nil
      rw [List.nil_append, List.append_nil] at alone
      have unfilled : field.filled (portion present) = false := by
        rw [law.filled field listed, same]
        exact apart entry.1 List.mem_cons_self
      obtain ⟨new, onceOthers⟩ := List.nodup_cons.mp once
      simp only [unfilled, alone, Bool.false_eq_true, if_false, Except.map, puts]
      refine (ih others onceOthers _ fun name member => ?_).trans ?_
      · have different : name ≠ field.name := by
          rintro rfl
          exact new (same ▸ member)
        simp [apart name (List.mem_cons_of_mem _ member), different]
      · congr 2
        funext name
        rw [List.contains_cons, Bool.or_assoc, same]

/-- **A record is read back from every object that spells it.** -/
theorem spelled_reads (law : shape.Portions depth a Writes Default portion)
    (text : shape.ObjectOf Writes Default t) (blank : Blank ws) (rest : List Char) :
    shape.read (depth + 1) (ws ++ (t ++ rest)) = .ok (a, rest) := by
  obtain ⟨entries, text, spells, once, spare⟩ := text
  have folded := spells_fold law spells once (fun _ => false) fun _ _ => rfl
  rw [law.blank] at folded
  rw [record_reads text (fun entry member => settles_of_fits (fits_of_spells law
    (spells entry member))) blank, folded]
  have made : shape.finish (portion fun name => false || (shape.named entries).contains name) =
      .ok a := by
    refine law.finish _ fun name known absent => ?_
    obtain ⟨field, found⟩ := Option.isSome_iff_exists.mp known
    obtain ⟨listed, rfl⟩ := field_of_name found
    refine spare field listed fun member => ?_
    rw [Bool.false_or, ← Bool.not_eq_true, List.contains_iff_mem] at absent
    exact absent (mem_named.mpr ⟨member, known⟩)
  simp only [Except.bind, Shape.made, made]
  rfl

end Fanout.Json
