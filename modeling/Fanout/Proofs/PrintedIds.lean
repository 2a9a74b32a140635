import Fanout.Identifier
import Fanout.Proofs.EchoedRecords
import Fanout.Proofs.TextParts
import Mathlib.Data.List.Forall2

/-! Texts that are the same but for job ids. Random ids all have the same length and consist
of digits and dashes, so in a listing one of them can stand where another one stood: for
programs it needs no escapes, and in a table all columns keep their widths. What is printed of
two reports with the same nodes and fates is therefore the same apart from the ids. -/
namespace Fanout.Console

open Json

/-- All ids are random bits in the form of an identifier. -/
def RandomIds (ids : Nat → JobId) : Prop := ∀ n, ∃ bits, ids n = randomId bits

/-- Two texts are the same, except that at places one has a job id of one source, and the
other one of another source. -/
inductive SameButIds (mine yours : Nat → JobId) : List Char → List Char → Prop where
  | done : SameButIds mine yours [] []
  | char (c : Char) {xs ys : List Char} (rest : SameButIds mine yours xs ys) :
      SameButIds mine yours (c :: xs) (c :: ys)
  | id (n m : Nat) {xs ys : List Char} (rest : SameButIds mine yours xs ys) :
      SameButIds mine yours ((mine n).toList ++ xs) ((yours m).toList ++ ys)

/-- Two cells of a table are the same, or have an id each. -/
inductive SameCell (mine yours : Nat → JobId) : String → String → Prop where
  | same (cell : String) : SameCell mine yours cell cell
  | ids (n m : Nat) : SameCell mine yours (mine n) (yours m)

/-- Two values are laid out the same but for ids. -/
def SameLayout (mine yours : Nat → JobId) (v w : Value) : Prop :=
  ∀ level, SameButIds mine yours (v.prettyChars level) (w.prettyChars level)

/-- Two records are listed the same but for their job ids, which are of the two sources. -/
structure SameListing (mine yours : Nat → JobId) (e f : Execution) : Prop where
  name : e.node.id.text = f.node.id.text
  fate : listedFate e = listedFate f
  ids : ∃ n m, e.status.id = mine n ∧ f.status.id = yours m

variable {mine yours : Nat → JobId} {xs ys us vs : List Char} {bits : Nat} {c : Char}

/-! ### Random ids -/

/-- The characters of a random id: hexadecimal digits and dashes. -/
def IdChar (c : Char) : Prop := c = '-' ∨ ∃ n < 16, c = Nat.digitChar n

theorem hexField_length (width n : Nat) : (hexField width n).length = width := by
  induction width generalizing n with
  | zero => rfl
  | succ width ih => rw [hexField, List.length_append, ih, List.length_singleton]

theorem hexField_chars (width n : Nat) : ∀ c ∈ hexField width n, IdChar c := by
  induction width generalizing n with
  | zero => exact fun _ member => nomatch member
  | succ width ih =>
    rw [hexField, List.forall_mem_append]
    refine ⟨ih (n / 16), fun c member => .inr ⟨n % 16, Nat.mod_lt n (by decide), ?_⟩⟩
    exact List.mem_singleton.mp member

theorem random_id_length (bits : Nat) : (randomId bits).toList.length = 36 := by
  simp [randomId, hexField_length]

theorem random_id_chars (bits : Nat) : ∀ c ∈ (randomId bits).toList, IdChar c := by
  have dash : IdChar '-' := .inl rfl
  simp only [randomId, String.toList_ofList, List.forall_mem_append, List.forall_mem_cons]
  exact ⟨⟨⟨⟨hexField_chars _ _, dash, hexField_chars _ _⟩, dash, hexField_chars _ _⟩, dash,
    hexField_chars _ _⟩, dash, hexField_chars _ _⟩

/-- A character of an id takes one column, is never escaped and does not end a line. -/
theorem id_char_plain (idChar : IdChar c) :
    Text.charColumns c = 1 ∧ escapeChar c = [c] ∧ c ≠ '\n' := by
  rcases idChar with rfl | ⟨n, digit, rfl⟩
  · decide
  · revert n
    decide

theorem columns_plain {cs : List Char} (plain : ∀ c ∈ cs, Text.charColumns c = 1) :
    Text.columns cs = cs.length := by
  induction cs with
  | nil => rfl
  | cons c cs ih =>
    obtain ⟨here, others⟩ := List.forall_mem_cons.mp plain
    rw [Text.columns, here, ih others, List.length_cons, Nat.add_comm]

theorem random_columns (random : RandomIds mine) (n : Nat) :
    Text.columns (mine n).toList = 36 := by
  obtain ⟨bits, same⟩ := random n
  rw [same, columns_plain fun c member => (id_char_plain (random_id_chars bits c member)).1,
    random_id_length]

theorem random_unescaped (random : RandomIds mine) (n : Nat) :
    stringChars (mine n) = '"' :: ((mine n).toList ++ ['"']) := by
  obtain ⟨bits, same⟩ := random n
  have plain : (randomId bits).toList.flatMap escapeChar = (randomId bits).toList := by
    conv_rhs => rw [← List.flatMap_singleton' (randomId bits).toList]
    exact List.flatMap_congr fun c member => (id_char_plain (random_id_chars bits c member)).2.1
  rw [stringChars, same, plain, List.cons_append]

theorem random_one_line (random : RandomIds mine) (n : Nat) :
    Table.cellLines (mine n) = [(mine n).toList] := by
  obtain ⟨bits, same⟩ := random n
  refine Text.split_part fun member => ?_
  rw [same] at member
  exact (id_char_plain (random_id_chars bits _ member)).2.2 rfl

/-! ### Texts -/

theorem same_refl (xs : List Char) : SameButIds mine yours xs xs := by
  induction xs with
  | nil => exact .done
  | cons c xs ih => exact .char c ih

theorem same_append (first : SameButIds mine yours xs ys) (second : SameButIds mine yours us vs) :
    SameButIds mine yours (xs ++ us) (ys ++ vs) := by
  induction first with
  | done => exact second
  | char c _ ih => exact .char c ih
  | id n m _ ih =>
    rw [List.append_assoc, List.append_assoc]
    exact .id n m ih

theorem same_id (n m : Nat) : SameButIds mine yours (mine n).toList (yours m).toList := by
  have alone := SameButIds.id n m (SameButIds.done : SameButIds mine yours [] [])
  rwa [List.append_nil, List.append_nil] at alone

/-- Lines that are the same one by one make up texts that are the same. -/
theorem same_join {separator : Char} {xss yss : List (List Char)}
    (each : List.Forall₂ (SameButIds mine yours) xss yss) :
    SameButIds mine yours (Text.join separator xss) (Text.join separator yss) := by
  induction each with
  | nil => exact .done
  | cons here others ih =>
    cases others with
    | nil => exact here
    | cons next more => exact same_append here (.char separator ih)

theorem same_flatMap {α β : Type} {f : α → List Char} {g : β → List Char} {as : List α}
    {bs : List β} (each : List.Forall₂ (fun a b => SameButIds mine yours (f a) (g b)) as bs) :
    SameButIds mine yours (as.flatMap f) (bs.flatMap g) := by
  induction each with
  | nil => exact .done
  | cons here _ ih => exact same_append here ih

/-! ### Listings for programs -/

theorem layout_refl (v : Value) : SameLayout mine yours v v := fun _ => same_refl _

theorem layout_id (random : RandomIds mine) (otherRandom : RandomIds yours) (n m : Nat) :
    SameLayout mine yours (.string (mine n)) (.string (yours m)) := by
  intro level
  simp only [Value.prettyChars, random_unescaped random, random_unescaped otherRandom]
  exact .char _ (same_append (same_id n m) (same_refl _))

theorem same_items {level : Nat} {vs ws : List Value}
    (each : List.Forall₂ (SameLayout mine yours) vs ws) :
    SameButIds mine yours (Value.prettyItems level vs) (Value.prettyItems level ws) := by
  induction each with
  | nil => exact same_refl _
  | cons here _ ih =>
    exact .char _ (same_append (same_append (same_refl _) (here (level + 1))) ih)

theorem layout_array {vs ws : List Value} (each : List.Forall₂ (SameLayout mine yours) vs ws) :
    SameLayout mine yours (.array vs) (.array ws) := by
  intro level
  cases each with
  | nil => exact same_refl _
  | cons here others =>
    exact .char _ (same_append (same_append (same_refl _) (here (level + 1))) (same_items others))

theorem same_members {level : Nat} {ms ns : List (String × Value)}
    (each : List.Forall₂ (fun m n => m.1 = n.1 ∧ SameLayout mine yours m.2 n.2) ms ns) :
    SameButIds mine yours (Value.prettyMembers level ms) (Value.prettyMembers level ns) := by
  induction each with
  | nil => exact same_refl _
  | @cons m n _ _ here _ ih =>
    obtain ⟨k, v⟩ := m
    obtain ⟨_, w⟩ := n
    obtain ⟨rfl, value⟩ := here
    have member := same_append (value (level + 1)) ih
    exact .char _ (same_append (same_refl _) (.char ':' (.char ' ' member)))

theorem layout_object {ms ns : List (String × Value)}
    (each : List.Forall₂ (fun m n => m.1 = n.1 ∧ SameLayout mine yours m.2 n.2) ms ns) :
    SameLayout mine yours (.object ms) (.object ns) := by
  intro level
  cases each with
  | nil => exact same_refl _
  | @cons m n _ _ here others =>
    obtain ⟨k, v⟩ := m
    obtain ⟨_, w⟩ := n
    obtain ⟨rfl, value⟩ := here
    have rest : SameButIds mine yours (Value.prettyMembers level _) (Value.prettyMembers level _) :=
      same_members others
    have member := same_append (value (level + 1)) rest
    exact .char _ (same_append (same_refl _) (.char ':' (.char ' ' member)))

/-! ### Tables -/

/-- Two lines of cells are the same but for ids, and equally wide. -/
def SameLine (mine yours : Nat → JobId) (xs ys : List Char) : Prop :=
  SameButIds mine yours xs ys ∧ Text.columns xs = Text.columns ys

/-- Lists of which corresponding elements are mapped to the same are mapped to the same. -/
theorem mapped_eq {α β γ : Type} {corresponds : α → β → Prop} {f : α → γ} {g : β → γ} {as : List α}
    {bs : List β} (same : ∀ a b, corresponds a b → f a = g b)
    (each : List.Forall₂ corresponds as bs) : as.map f = bs.map g := by
  rw [← List.forall₂_eq_eq_eq]
  exact List.rel_map same each

theorem cell_lines (random : RandomIds mine) (otherRandom : RandomIds yours) {cell other : String}
    (same : SameCell mine yours cell other) :
    List.Forall₂ (SameLine mine yours) (Table.cellLines cell) (Table.cellLines other) := by
  cases same with
  | same => exact List.forall₂_same.mpr fun line _ => ⟨same_refl line, rfl⟩
  | ids n m =>
    rw [random_one_line random, random_one_line otherRandom]
    refine .cons ⟨same_id n m, ?_⟩ .nil
    rw [random_columns random, random_columns otherRandom]

theorem cell_width (random : RandomIds mine) (otherRandom : RandomIds yours) {cell other : String}
    (same : SameCell mine yours cell other) : Table.cellWidth cell = Table.cellWidth other := by
  have widths : (Table.cellLines cell).map Text.columns =
      (Table.cellLines other).map Text.columns :=
    mapped_eq (fun _ _ line => line.2) (cell_lines random otherRandom same)
  rw [Table.cellWidth, widths, Table.cellWidth]

/-- The columns of two tables are equally wide if their cells are the same but for ids, as a
table only looks at the widths of its cells. -/
theorem same_widths (random : RandomIds mine) (otherRandom : RandomIds yours)
    (titles : List String) {rows others : List (List String)}
    (each : List.Forall₂ (List.Forall₂ (SameCell mine yours)) rows others) :
    Table.widths ⟨titles, rows⟩ = Table.widths ⟨titles, others⟩ := by
  have widths : rows.map (·.map Table.cellWidth) = others.map (·.map Table.cellWidth) :=
    mapped_eq (fun _ _ => mapped_eq fun _ _ => cell_width random otherRandom) each
  have folded (rows : List (List String)) (start : List Nat) :
      rows.foldl (fun soFar row => List.zipWith max soFar (row.map Table.cellWidth)) start =
        (rows.map (·.map Table.cellWidth)).foldl (List.zipWith max) start := by
    rw [List.foldl_map]
  rw [Table.widths, Table.widths, folded, folded, widths]

theorem same_line (widths : List Nat) {texts others : List (List Char)}
    (each : List.Forall₂ (SameLine mine yours) texts others) :
    SameButIds mine yours (Table.line widths texts) (Table.line widths others) := by
  refine .char _ (same_flatMap ?_)
  induction each generalizing widths with
  | nil => simp
  | cons here _ ih =>
    cases widths with
    | nil => exact .nil
    | cons width widths =>
      refine .cons ?_ (ih widths)
      simp only [here.2]
      exact .char ' ' (same_append (same_append here.1 (same_refl _)) (same_refl _))

/-- Past the last line of a cell there is nothing. -/
theorem line_at {lines others : List (List Char)}
    (each : List.Forall₂ (SameLine mine yours) lines others) (i : Nat) :
    SameLine mine yours (lines.getD i []) (others.getD i []) := by
  induction each generalizing i with
  | nil => exact ⟨.done, rfl⟩
  | cons here _ ih =>
    cases i with
    | zero => exact here
    | succ i => exact ih i

theorem row_lines (random : RandomIds mine) (otherRandom : RandomIds yours) (widths : List Nat)
    {row other : List String} (cells : List.Forall₂ (SameCell mine yours) row other) :
    List.Forall₂ (SameButIds mine yours) (Table.rowLines widths row)
      (Table.rowLines widths other) := by
  have lines : List.Forall₂ (List.Forall₂ (SameLine mine yours)) (row.map Table.cellLines)
      (other.map Table.cellLines) :=
    List.rel_map (fun _ _ same => cell_lines random otherRandom same) cells
  have heights : (row.map Table.cellLines).map List.length =
      (other.map Table.cellLines).map List.length :=
    mapped_eq (fun _ _ each => each.length_eq) lines
  simp only [Table.rowLines, heights]
  rw [List.forall₂_map_left_iff, List.forall₂_map_right_iff]
  refine List.forall₂_same.mpr fun i _ => same_line widths (List.rel_map ?_ lines)
  exact fun _ _ each => line_at each i

/-- Two tables with the same cells but for ids are printed the same but for ids. -/
theorem same_tables (random : RandomIds mine) (otherRandom : RandomIds yours)
    (titles : List String) {rows others : List (List String)}
    (each : List.Forall₂ (List.Forall₂ (SameCell mine yours)) rows others) :
    SameButIds mine yours (Table.render ⟨titles, rows⟩).toList
      (Table.render ⟨titles, others⟩).toList := by
  have whole : List.Forall₂ (List.Forall₂ (SameCell mine yours)) (titles :: rows)
      (titles :: others) := .cons (List.forall₂_same.mpr fun cell _ => .same cell) each
  simp only [Table.render, String.toList_ofList, same_widths random otherRandom titles each]
  refine same_join (.cons (same_refl _) (List.rel_flatMap whole fun row other cells => ?_))
  exact List.rel_append (row_lines random otherRandom _ cells) (.cons (same_refl _) .nil)

/-! ### Reports -/

/-- The cells of two records that are listed the same are the same but for the job id. -/
theorem listing_cells {e f : Execution} (same : SameListing mine yours e f) :
    List.Forall₂ (SameCell mine yours)
      (executionColumns.map fun column => cellText (column.value e))
      (executionColumns.map fun column => cellText (column.value f)) := by
  obtain ⟨name, fate, n, m, id, otherId⟩ := same
  obtain ⟨route, state, result⟩ := Fate.mk.inj fate
  simp only [executionColumns, List.map_cons, List.map_nil, cellText, name, route, state, result,
    id, otherId]
  exact .cons (.same _) (.cons (.ids n m) (.cons (.same _) (.cons (.same _)
    (.cons (.same _) .nil))))

theorem listing_object (random : RandomIds mine) (otherRandom : RandomIds yours) {e f : Execution}
    (same : SameListing mine yours e f) : SameLayout mine yours
      (Listing.record executionColumns e) (Listing.record executionColumns f) := by
  obtain ⟨name, fate, n, m, id, otherId⟩ := same
  obtain ⟨route, state, result⟩ := Fate.mk.inj fate
  refine layout_object ?_
  simp only [executionColumns, List.map_cons, List.map_nil, name, route, state, result, id, otherId]
  have equal (title : String) (v : Value) : title = title ∧ SameLayout mine yours v v :=
    ⟨rfl, layout_refl v⟩
  exact .cons (equal ..) (.cons ⟨rfl, layout_id random otherRandom n m⟩
    (.cons (equal ..) (.cons (equal ..) (.cons (equal ..) .nil))))

theorem same_listings (random : RandomIds mine) (otherRandom : RandomIds yours) (asJson : Bool)
    {executions others : List Execution}
    (each : List.Forall₂ (SameListing mine yours) executions others) :
    SameButIds mine yours (Listing.render asJson executionColumns executions).toList
      (Listing.render asJson executionColumns others).toList := by
  cases asJson with
  | true =>
    have objects : List.Forall₂ (SameLayout mine yours)
        (executions.map (Listing.record executionColumns))
        (others.map (Listing.record executionColumns)) :=
      List.rel_map (fun _ _ same => listing_object random otherRandom same) each
    have array := layout_array objects 0
    simpa [Listing.render, Listing.toJson, Value.pretty] using same_append array (same_refl ['\n'])
  | false =>
    have rows : List.Forall₂ (List.Forall₂ (SameCell mine yours))
        (Listing.toTable executionColumns executions).rows
        (Listing.toTable executionColumns others).rows :=
      List.rel_map (fun _ _ same => listing_cells same) each
    have tables : SameButIds mine yours (Listing.toTable executionColumns executions).render.toList
        (Listing.toTable executionColumns others).render.toList :=
      same_tables random otherRandom _ rows
    simpa [Listing.render] using same_append tables (same_refl ['\n'])

/-- **Records that are listed the same are printed the same but for their job ids.** -/
theorem same_executions (random : RandomIds mine) (otherRandom : RandomIds yours)
    (asJson colors : Bool) {executions others : List Execution}
    (each : List.Forall₂ (SameListing mine yours) executions others) :
    SameButIds mine yours (executionsText asJson colors executions).toList
      (executionsText asJson colors others).toList := by
  have empty : executions.isEmpty = others.isEmpty := by
    rw [Bool.eq_iff_iff, List.isEmpty_iff_length_eq_zero, List.isEmpty_iff_length_eq_zero,
      each.length_eq]
  rw [executionsText, executionsText, empty]
  split
  · exact same_refl _
  · exact same_listings random otherRandom asJson each

section Echoes

variable {host other : Host} {topology : Topology} {job : JobDescriptor} {nodes : List Node}
  {report again : BroadcastReport}

/-- What is listed of a report beside the job ids. -/
theorem echoed_listing (echoes : Echoes host topology job nodes report) :
    report.executions.map (fun e => (e.node.id.text, listedFate e)) =
      (distinctNodes nodes).map fun n => (n.id.text, fate topology job n.id.text) := by
  rw [← echoes.nodes, List.map_map]
  exact List.map_congr_left fun e member => by simp [echoes.fates e member]

theorem echoed_id (echoes : Echoes host topology job nodes report) :
    ∀ e ∈ report.executions, ∃ n, e.status.id = host.ids n := by
  intro e member
  obtain ⟨n, -, same⟩ := List.mem_map.mp (echoes.ids.mem_iff.mp (List.mem_map_of_mem member))
  exact ⟨n, same.symm⟩

/-- Two reports on the same nodes are listed the same but for their job ids. -/
theorem echoed_alike (echoes : Echoes host topology job nodes report)
    (echoesAgain : Echoes other topology job nodes again) :
    List.Forall₂ (SameListing host.ids other.ids) report.executions again.executions := by
  have listing := (echoed_listing echoes).trans (echoed_listing echoesAgain).symm
  rw [← List.forall₂_eq_eq_eq, List.forall₂_map_left_iff, List.forall₂_map_right_iff] at listing
  have mine := (List.forall₂_and_left _ _).mpr ⟨echoed_id echoes, listing⟩
  have both := ((List.forall₂_and_left _ _).mpr ⟨echoed_id echoesAgain, mine.flip⟩).flip
  refine both.imp fun e f each => ?_
  obtain ⟨⟨m, otherId⟩, ⟨n, id⟩, same⟩ := each
  obtain ⟨name, fate⟩ := Prod.mk.inj same
  exact ⟨name, fate, n, m, id, otherId⟩

theorem echoed_counts (echoes : Echoes host topology job nodes report) :
    report.size = (distinctNodes nodes).length ∧ report.succeeded =
      (distinctNodes nodes).countP fun n => n.id ∈ topology.members.map Node.id := by
  rw [← echoes.nodes, List.length_map, List.countP_map]
  refine ⟨rfl, List.countP_congr fun e member => ?_⟩
  rw [echoes.members e member, Function.comp_apply, decide_eq_true_iff]

/-- **Two reports on the same nodes are printed the same but for their job ids.** -/
theorem same_reports (random : RandomIds host.ids) (otherRandom : RandomIds other.ids)
    (echoes : Echoes host topology job nodes report)
    (echoesAgain : Echoes other topology job nodes again) (asJson colors : Bool) :
    SameButIds host.ids other.ids (reportText asJson colors report).toList
      (reportText asJson colors again).toList := by
  obtain ⟨size, succeeded⟩ := echoed_counts echoes
  obtain ⟨sizeAgain, succeededAgain⟩ := echoed_counts echoesAgain
  have counts : summary colors report = summary colors again := by
    simp only [summary, BroadcastReport.failed, size, sizeAgain, succeeded, succeededAgain]
  rw [reportText, reportText, counts, String.toList_append, String.toList_append]
  exact same_append
    (same_executions random otherRandom asJson colors (echoed_alike echoes echoesAgain))
    (same_refl _)

end Echoes

end Fanout.Console
