import Fanout.Proofs.Json.Sequences

/-! What the readers of values do with the texts of the grammar. The text of a value is read
back to that value, as long as the reader may enter as many levels as the value has, and is
refused as malformed otherwise. Any JSON text is skipped, however deep it is. -/
namespace Fanout.Json

variable {ws rest t u : List Char} {c : Char} {v : Value} {n : Nat}

/-! ### The depth of an object -/

theorem setMember_keys (key : String) (v : Value) (ms : List (String × Value)) :
    ∀ k, k ∈ (setMember key v ms).map Prod.fst ↔ k = key ∨ k ∈ ms.map Prod.fst := by
  intro k
  induction ms with
  | nil => simp [setMember]
  | cons m ms ih =>
    obtain ⟨k', v'⟩ := m
    simp only [setMember]
    split
    · rename_i same
      subst same
      simp
    · split
      · simp
      · simp only [List.map_cons, List.mem_cons, ih]
        exact or_left_comm

/-- A new member adds its own depth. -/
theorem setMember_depth {key : String} (v : Value) {ms : List (String × Value)}
    (new : key ∉ ms.map Prod.fst) :
    Value.membersDepth (setMember key v ms) = max v.depth (Value.membersDepth ms) := by
  induction ms with
  | nil => rfl
  | cons m ms ih =>
    obtain ⟨k, w⟩ := m
    simp only [List.map_cons, List.mem_cons, not_or] at new
    simp only [setMember, if_neg new.1]
    split
    · rfl
    · simp only [Value.membersDepth, ih new.2]
      exact Nat.max_left_comm ..

theorem foldl_arrange_depth (ms set : List (String × Value)) (distinct : (ms.map Prod.fst).Nodup)
    (new : ∀ k ∈ ms.map Prod.fst, k ∉ set.map Prod.fst) :
    Value.membersDepth (ms.foldl (fun set m => setMember m.1 m.2 set) set) =
      max (Value.membersDepth ms) (Value.membersDepth set) := by
  induction ms generalizing set with
  | nil => exact (Nat.zero_max _).symm
  | cons m ms ih =>
    obtain ⟨k, v⟩ := m
    simp only [List.map_cons, List.nodup_cons] at distinct
    have fresh : k ∉ set.map Prod.fst := new k (by simp)
    rw [List.foldl_cons, ih _ distinct.2, setMember_depth v fresh, Value.membersDepth]
    · exact (Nat.max_left_comm ..).trans (Nat.max_assoc ..).symm
    · intro other member among
      rcases (setMember_keys k v set other).mp among with rfl | before
      · exact distinct.1 member
      · exact new other (List.mem_cons_of_mem _ member) before

/-- Setting members with different keys makes an object as deep as the deepest of them. -/
theorem arrange_depth {ms : List (String × Value)} (distinct : (ms.map Prod.fst).Nodup) :
    Value.membersDepth (arrange ms) = Value.membersDepth ms := by
  rw [arrange, foldl_arrange_depth ms [] distinct (by simp)]
  exact Nat.max_zero _

/-! ### Values -/

/-- The value, unless it has more levels than that. -/
def within (n : Nat) (v : Value) : Except Fault Value :=
  if v.depth ≤ n then .ok v else .error .grammar

theorem within_eq_ok (shallow : v.depth ≤ n) : within n v = .ok v := if_pos shallow

theorem within_eq_error (deep : ¬ v.depth ≤ n) : within n v = .error .grammar := if_neg deep

theorem items_depth_le {vs : List Value} :
    Value.itemsDepth (v :: vs) ≤ n ↔ v.depth ≤ n ∧ Value.itemsDepth vs ≤ n := Nat.max_le

theorem members_depth_le {k : String} {ms : List (String × Value)} :
    Value.membersDepth ((k, v) :: ms) ≤ n ↔ v.depth ≤ n ∧ Value.membersDepth ms ≤ n := Nat.max_le

theorem mapM_within (n : Nat) (vs : List Value) :
    vs.mapM (within n) = if Value.itemsDepth vs ≤ n then .ok vs else .error .grammar := by
  induction vs with
  | nil => rfl
  | cons v vs ih =>
    simp only [List.mapM_cons, ih, items_depth_le]
    by_cases here : v.depth ≤ n
    · by_cases there : Value.itemsDepth vs ≤ n
      · simp only [within_eq_ok here, here, there, and_self, if_true]
        rfl
      · simp only [within_eq_ok here, there, and_false, if_false]
        rfl
    · simp only [within_eq_error here, here, false_and, if_false]
      rfl

theorem foldlM_within (n : Nat) (ms set : List (String × Value)) :
    ms.foldlM (fun set m => (within n m.2).map (setMember m.1 · set)) set =
      if Value.membersDepth ms ≤ n then
        .ok (ms.foldl (fun set m => setMember m.1 m.2 set) set)
      else .error .grammar := by
  induction ms generalizing set with
  | nil => rfl
  | cons m ms ih =>
    obtain ⟨k, v⟩ := m
    simp only [List.foldlM_cons, members_depth_le]
    by_cases here : v.depth ≤ n
    · simp only [within_eq_ok here, here, true_and]
      exact ih (setMember k v set)
    · simp only [within_eq_error here, here, false_and, if_false]
      rfl

theorem digit_opens {more : List Char} (digit : c.isDigit = true) : Opens (c :: more) :=
  ⟨c, more, rfl, digit_not_space digit, digit_ne digit rfl⟩

theorem intChars_front (i : Int) :
    ∃ c more, intChars i = c :: more ∧ (c = '-' ∨ c.isDigit = true) := by
  unfold intChars
  split
  · exact ⟨'-', _, rfl, .inl rfl⟩
  · obtain ⟨c, tail, digits, digit, -⟩ := whole_front (natChars_whole i.natAbs)
      (boundary_noDigit boundary_nil)
    exact ⟨c, tail, digits, .inr digit⟩

theorem intChars_opens (i : Int) : Opens (intChars i) := by
  obtain ⟨c, more, same, rfl | digit⟩ := intChars_front i
  · exact ⟨'-', more, same, rfl, by decide⟩
  · exact same ▸ digit_opens digit

theorem intChars_head (i : Int) (notMinus : c ≠ '-') (notDigit : c.isDigit = false) :
    (intChars i).head? ≠ some c := by
  obtain ⟨d, more, same, front⟩ := intChars_front i
  rw [same]
  intro found
  cases Option.some.inj found
  rcases front with minus | digit
  · exact notMinus minus
  · exact digit_ne digit notDigit rfl

theorem value_opens {t : List Char} (text : ValueText v t) : Opens t := by
  cases text with
  | int => exact intChars_opens _
  | _ => exact ⟨_, _, rfl, rfl, by decide⟩

/-- A word that opens no array and no object is a scalar. -/
theorem value_scalar (blank : Blank ws) (opens : Opens t) (notArray : t.head? ≠ some '[')
    (notObject : t.head? ≠ some '\x7b') (n : Nat) :
    value n (ws ++ (t ++ rest)) = scalar (t ++ rest) := by
  obtain ⟨c, more, rfl, word, -⟩ := opens
  rw [value.eq_def]
  simp only [List.cons_append, skipSpace_to blank word]
  have first : c ≠ '[' := fun same => notArray (congrArg some same)
  have second : c ≠ '\x7b' := fun same => notObject (congrArg some same)
  simp [first, second]

theorem value_array (blank : Blank ws) (n : Nat) :
    value (n + 1) (ws ++ '[' :: rest) =
      (arrayRest (value n) rest).map fun (vs, rest) => (.array vs, rest) := by
  rw [value, skipSpace_to blank (show isSpace '[' = false from rfl)]
  rfl

theorem value_object (blank : Blank ws) (n : Nat) :
    value (n + 1) (ws ++ '\x7b' :: rest) =
      (objectRest stringRest (fun acc key s =>
          match colon s with
          | .error fault => .error fault
          | .ok s => (value n s).map fun (v, s) => (setMember key v acc, s)) [] rest).map
        fun (ms, rest) => (.object ms, rest) := by
  rw [value, skipSpace_to blank (show isSpace '\x7b' = false from rfl)]
  rfl

theorem value_deep (blank : Blank ws) (opens : c = '[' ∨ c = '\x7b') :
    value 0 (ws ++ c :: rest) = .error .grammar := by
  rw [value.eq_def]
  rcases opens with rfl | rfl
  · simp [skipSpace_to blank (show isSpace '[' = false from rfl)]
  · simp [skipSpace_to blank (show isSpace '\x7b' = false from rfl)]

theorem value_reads_scalar (n : Nat) {v : Value} {t : List Char} (text : ValueText v t)
    (flat : v.depth = 0) (blank : Blank ws) (boundary : Boundary rest) :
    value n (ws ++ (t ++ rest)) = .ok (v, rest) := by
  have opens := value_opens text
  cases text with
  | array => cases flat
  | object => cases flat
  | null | true | false =>
    rw [value_scalar blank opens (by decide) (by decide)]
    simp [scalar, literal, Except.map]
  | string text =>
    rw [value_scalar blank opens (by simp) (by simp)]
    simp [scalar, stringRest_reads text, Except.map]
  | @int i least most =>
    rw [value_scalar blank opens (intChars_head i (by decide) rfl)
      (intChars_head i (by decide) rfl)]
    exact scalar_reads_int least most boundary

/-- The reader of values takes the texts of values with that many levels, and no others. -/
def ReadsWithin (n : Nat) : Prop :=
  ∀ v t ws rest, ValueText v t → Blank ws → Boundary rest →
    value n (ws ++ (t ++ rest)) = (within n v).map (·, rest)

theorem value_reads_array (inside : ReadsWithin n) {vs : List Value} {space : List Char}
    (items : Series ValueText true vs u) (spaced : Blank space) (blank : Blank ws) :
    value (n + 1) (ws ++ '[' :: (u ++ (space ++ ']' :: rest))) =
      (within (n + 1) (.array vs)).map (·, rest) := by
  have reads : ReadsItems (value n) ValueText (within n) vs :=
    fun v _ t rest text boundary => inside v t [] rest text blank_nil boundary
  rw [value_array blank, arrayRest_series (fun _ _ => value_opens) reads items spaced,
    mapM_within, within, Value.depth]
  simp only [Nat.add_le_add_iff_right]
  split <;> rfl

theorem value_reads_object (inside : ReadsWithin n) {ms : List (String × Value)}
    {space : List Char} (members : Series (Entry StringRest ValueText) true ms u)
    (distinct : (ms.map Prod.fst).Nodup) (spaced : Blank space) (blank : Blank ws) :
    value (n + 1) (ws ++ '\x7b' :: (u ++ (space ++ '\x7d' :: rest))) =
      (within (n + 1) (.object (arrange ms))).map (·, rest) := by
  have reads : ReadsMembers (fun acc key s =>
      match colon s with
      | .error fault => .error fault
      | .ok s => (value n s).map fun (v, s) => (setMember key v acc, s)) ValueText
      (fun set m => (within n m.2).map (setMember m.1 · set)) ms := by
    intro m _ acc ws more t rest before after text boundary
    simp only [colon_reads before, inside m.2 t more rest text after boundary]
    cases within n m.2 <;> rfl
  rw [value_object blank, objectRest_series (fun _ _ rest => (stringRest_reads · rest)) reads
    members spaced, foldlM_within, within, Value.depth, arrange_depth distinct]
  simp only [Nat.add_le_add_iff_right]
  split <;> rfl

/-- **The text of a value is read back to the value**, unless it has more levels than the
reader may enter; then it is malformed. The items of an array and the members of an object
are one level further inside. -/
theorem value_reads (n : Nat) {v : Value} {t : List Char} (text : ValueText v t)
    (blank : Blank ws) (boundary : Boundary rest) :
    value n (ws ++ (t ++ rest)) = (within n v).map (·, rest) := by
  induction n generalizing v t ws rest with
  | zero =>
    by_cases flat : v.depth = 0
    · rw [value_reads_scalar 0 text flat blank boundary, within_eq_ok (Nat.le_zero.mpr flat)]
      rfl
    · rw [within_eq_error fun shallow => flat (Nat.le_zero.mp shallow)]
      cases text with
      | array => exact value_deep blank (.inl rfl)
      | object => exact value_deep blank (.inr rfl)
      | _ => exact absurd rfl flat
  | succ n ih =>
    have inside : ReadsWithin n := fun _ _ _ _ text blank boundary => ih text blank boundary
    by_cases flat : v.depth = 0
    · rw [value_reads_scalar _ text flat blank boundary, within_eq_ok (flat ▸ Nat.zero_le _)]
      rfl
    · cases text with
      | array items spaced =>
        simp only [List.cons_append, List.append_assoc, List.nil_append]
        exact value_reads_array inside items spaced blank
      | object members distinct spaced =>
        simp only [List.cons_append, List.append_assoc, List.nil_append]
        exact value_reads_object inside members distinct spaced blank
      | _ => exact absurd rfl flat

/-! ### Skipping -/

theorem number_opens (number : NumberRest t) :
    ∃ c more, t = c :: more ∧ c.isDigit = true := by
  obtain ⟨whole, -, -⟩ := number
  obtain ⟨c, tail, rfl, digit, -⟩ := whole_front whole (boundary_noDigit boundary_nil)
  exact ⟨c, _, rfl, digit⟩

theorem json_opens (text : JsonText t) : Opens t := by
  cases text with
  | number number =>
    obtain ⟨c, more, rfl, digit⟩ := number_opens number
    exact digit_opens digit
  | _ => exact ⟨_, _, rfl, rfl, by decide⟩

theorem skipScalar_digit {c : Char} {more : List Char} (digit : c.isDigit = true) :
    skipScalar (c :: more) = skipNumber (c :: more) := by
  have word (d : Char) (other : d.isDigit = false) : c ≠ d := digit_ne digit other
  simp [skipScalar, word 'n' rfl, word 't' rfl, word 'f' rfl, word '"' rfl, word '-' rfl, digit]

theorem skipTo_scalar {bound : List Char} (blank : Blank ws) (opens : Opens t)
    (notArray : t.head? ≠ some '[') (notObject : t.head? ≠ some '\x7b') :
    skipTo bound (ws ++ (t ++ rest)) = skipScalar (t ++ rest) := by
  obtain ⟨c, more, rfl, word, -⟩ := opens
  rw [skipTo.eq_def]
  simp only [List.cons_append, skipSpace_to blank word]
  have first : c ≠ '[' := fun same => notArray (congrArg some same)
  have second : c ≠ '\x7b' := fun same => notObject (congrArg some same)
  simp [first, second]

theorem skipTo_array {bound : List Char} (blank : Blank ws) (b : Char) :
    skipTo (b :: bound) (ws ++ '[' :: rest) =
      (arrayRest (skipTo bound) rest).map fun (_, rest) => ((), rest) := by
  rw [skipTo, skipSpace_to blank (show isSpace '[' = false from rfl)]
  rfl

theorem skipTo_object {bound : List Char} (blank : Blank ws) (b : Char) :
    skipTo (b :: bound) (ws ++ '\x7b' :: rest) =
      objectRest skipString (fun _ _ s =>
        match colon s with
        | .error fault => .error fault
        | .ok s => skipTo bound s) () rest := by
  rw [skipTo, skipSpace_to blank (show isSpace '\x7b' = false from rfl)]
  rfl

/-- The reader with that bound skips every JSON text that is no longer. -/
def SkipsWithin (bound : List Char) : Prop :=
  ∀ t ws rest, JsonText t → t.length ≤ bound.length → Blank ws → Boundary rest →
    skipTo bound (ws ++ (t ++ rest)) = .ok ((), rest)

/-- A JSON text that is no longer than the bound. -/
def ShortText (bound : List Char) (_ : Unit) (t : List Char) : Prop :=
  JsonText t ∧ t.length ≤ bound.length

theorem skipTo_reads_array {bound : List Char} (inside : SkipsWithin bound) {as : List Unit}
    {space : List Char} (items : Series (fun _ => JsonText) true as u)
    (short : u.length ≤ bound.length) (spaced : Blank space) (blank : Blank ws) (b : Char) :
    skipTo (b :: bound) (ws ++ '[' :: (u ++ (space ++ ']' :: rest))) = .ok ((), rest) := by
  have items := series_imp (F := ShortText bound) items
    fun _ t text within => ⟨text, Nat.le_trans within short⟩
  have reads : ReadsItems (skipTo bound) (ShortText bound) (fun _ => .ok ()) as :=
    fun _ _ t rest text => inside t [] rest text.1 text.2 blank_nil
  have all : as.mapM (fun _ => (.ok () : Except Fault Unit)) = .ok (as.map fun _ => ()) :=
    List.mapM_pure ..
  rw [skipTo_array blank, arrayRest_series (fun _ _ text => json_opens text.1) reads items
    spaced, all]
  rfl

theorem skipTo_reads_object {bound : List Char} (inside : SkipsWithin bound)
    {entries : List (Unit × Unit)} {space : List Char}
    (members : Series (Entry AnyStringRest fun _ => JsonText) true entries u)
    (short : u.length ≤ bound.length) (spaced : Blank space) (blank : Blank ws) (b : Char) :
    skipTo (b :: bound) (ws ++ '\x7b' :: (u ++ (space ++ '\x7d' :: rest))) =
      .ok ((), rest) := by
  have members := series_imp (F := Entry AnyStringRest (ShortText bound)) members (by
    rintro entry t ⟨key, before, after, value⟩ within
    refine ⟨key, before, after, value, ?_⟩
    simp only [List.length_cons, List.length_append] at within
    omega)
  have reads : ReadsMembers (fun _ _ s =>
      match colon s with
      | .error fault => .error fault
      | .ok s => skipTo bound s) (ShortText bound) (fun _ _ => .ok ()) entries := by
    intro _ _ acc ws more t rest before after text boundary
    simp only [colon_reads before]
    exact inside t more rest text.1 text.2 after boundary
  have all : entries.foldlM (fun _ _ => (.ok () : Except Fault Unit)) () = .ok () :=
    List.foldlM_pure ..
  rw [skipTo_object blank, objectRest_series (fun _ _ rest => (skipString_reads · rest)) reads
    members spaced, all]
  rfl

/-- Any JSON text is skipped by a reader whose bound is at least as long. -/
theorem skipTo_reads (bound : List Char) (text : JsonText t) (room : t.length ≤ bound.length)
    (blank : Blank ws) (boundary : Boundary rest) :
    skipTo bound (ws ++ (t ++ rest)) = .ok ((), rest) := by
  have opens := json_opens text
  induction bound generalizing t ws rest with
  | nil =>
    obtain ⟨c, more, rfl, -⟩ := opens
    simp at room
  | cons b bound ih =>
    have inside : SkipsWithin bound :=
      fun _ _ _ text room blank boundary => ih text room blank boundary (json_opens text)
    cases text with
    | null | true | false =>
      rw [skipTo_scalar blank opens (by decide) (by decide)]
      simp [skipScalar, literal, Except.map]
    | string text =>
      rw [skipTo_scalar blank opens (by simp) (by simp)]
      exact skipString_reads text rest
    | number number =>
      obtain ⟨c, more, rfl, digit⟩ := number_opens number
      have word (d : Char) (other : d.isDigit = false) : (c :: more).head? ≠ some d :=
        fun same => digit_ne digit other (Option.some.inj same)
      rw [skipTo_scalar blank opens (word '[' rfl) (word '\x7b' rfl), List.cons_append,
        skipScalar_digit digit]
      exact skipNumber_reads number boundary
    | negative number =>
      rw [skipTo_scalar blank opens (by simp) (by simp)]
      exact skipNumber_reads number boundary
    | array items spaced =>
      simp only [List.length_cons, List.length_append] at room
      simp only [List.cons_append, List.append_assoc, List.nil_append]
      exact skipTo_reads_array inside items (by omega) spaced blank b
    | object members spaced =>
      simp only [List.length_cons, List.length_append] at room
      simp only [List.cons_append, List.append_assoc, List.nil_append]
      exact skipTo_reads_object inside members (by omega) spaced blank b

/-- **Any JSON text is skipped**, however deep it is. -/
theorem skip_reads (text : JsonText t) (blank : Blank ws) (boundary : Boundary rest) :
    skip (ws ++ (t ++ rest)) = .ok ((), rest) := by
  refine skipTo_reads _ text ?_ blank boundary
  simp only [List.length_append]
  omega

/-! ### Whole texts -/

variable {α : Type} {read : Nat → Reader α} {text : String}

theorem whole_reads {a : α} {after : List Char}
    (reads : read maxDepth text.toList = .ok (a, after)) (blank : Blank after) :
    whole read text = .ok a := by
  have ends : skipSpace (after ++ []) = [] := skipSpace_blank blank []
  rw [List.append_nil] at ends
  simp only [whole, reads, ends]

theorem whole_refuses {fault : Fault}
    (refuses : read maxDepth text.toList = .error fault) : whole read text = .error fault := by
  simp only [whole, refuses]

end Fanout.Json
