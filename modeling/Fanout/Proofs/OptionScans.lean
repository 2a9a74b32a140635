import Fanout.Console.Invocation
import Mathlib.Data.List.Basic

/-! How options are read off a command line. The words in front stop the reading, end it, or are
read, whatever follows them, and behind them the options that were read count only as far as some
may not be given again. A list of nodes may be given again, so one can take the place of another,
and it can be put in where an option is expected. -/
namespace Fanout.Console

/-- The option that names nodes, with its list, as one word. -/
def nodesWord (list : String) : String := "--nodes=" ++ list

/-- The option that names nodes, with its list, in one word or in two. A list that looks like an
option itself cannot stand alone. -/
inductive NamesNodes : List String → String → Prop where
  | joined (list : String) : NamesNodes [nodesWord list] list
  | apart {list : String} (plain : Word.ofText list = .plain list) :
      NamesNodes ["--nodes", list] list

namespace Given

/-- What a scan makes of the words in front, whatever follows them. -/
inductive Front (level : List Setting) (given : Given) (awaited : Option Setting)
    (before : List String) : Prop where
  | stops (stop : Stop) (same : ∀ rest, scan level given awaited (before ++ rest) = .error stop)
  /-- They close the options, so nothing may follow. -/
  | closed (later : Given) (last : before.getLast? = some "--")
      (same : ∀ rest, scan level given awaited (before ++ rest) =
        if rest.isEmpty then .ok (later, []) else .error .misuse)
  /-- One of them is no option and begins what is left. -/
  | left (later : Given) {name : String} {back : List String} (unread : name :: back <:+ before)
      (same : ∀ rest, scan level given awaited (before ++ rest) =
        .ok (later, name :: (back ++ rest)))
  /-- They are read, and the scan goes on behind them. -/
  | read (later : Given) (wait : Option Setting)
      (same : ∀ rest, scan level given awaited (before ++ rest) = scan level later wait rest)

/-- The same options with a list of nodes among them. -/
def WithNodes (list : String) (given more : Given) : Prop :=
  ∃ front back, given.pairs = front ++ back ∧ more.pairs = front ++ (.nodes, list) :: back

variable {level : List Setting} {given more later between : Given} {awaited wait : Option Setting}
  {text list : String} {rest left before after option : List String} {setting : Setting}

/-! ### The words in front -/

theorem closing_text (closes : Word.ofText text = .closing) : text = "--" := by
  unfold Word.ofText at closes
  split at closes
  · rename_i dashes
    exact String.toList_inj.mp dashes
  all_goals cases closes

/-- A word that is read is one more in front. -/
theorem Front.cons (front : Front level between wait before)
    (read : ∀ rest, scan level given awaited (text :: rest) = scan level between wait rest) :
    Front level given awaited (text :: before) := by
  cases front with
  | stops stop same => exact .stops stop fun rest => (read _).trans (same rest)
  | closed later last same =>
    refine .closed later ?_ fun rest => (read _).trans (same rest)
    rw [List.getLast?_cons, last]
    rfl
  | left later unread same =>
    exact .left later (unread.trans (List.suffix_cons _ _)) fun rest => (read _).trans (same rest)
  | read later wait same => exact .read later wait fun rest => (read _).trans (same rest)

/-- There is nothing else that a scan can make of the words in front. It judges a word before
it looks at the next one, except at the end of all options. -/
theorem scan_front (level : List Setting) (given : Given) (awaited : Option Setting)
    (before : List String) : Front level given awaited before := by
  induction before generalizing given awaited with
  | nil => exact .read given awaited fun _ => rfl
  | cons text before ih =>
    cases awaited with
    | some setting =>
      cases word : Word.ofText text with
      | plain value =>
        cases added : given.add? setting value with
        | none =>
          exact .stops .misuse fun rest => by simp only [List.cons_append, scan, word, added]
        | some later => exact (ih later none).cons fun rest => by simp only [scan, word, added]
      | closing | long | short =>
        exact .stops .misuse fun rest => by simp only [List.cons_append, scan, word]
    | none =>
      cases word : Word.ofText text with
      | plain value =>
        refine .left given (List.suffix_refl _) fun rest => ?_
        simp only [List.cons_append, scan, word]
      | closing =>
        cases before with
        | nil =>
          refine .closed given (congrArg some (closing_text word)) fun rest => ?_
          simp only [List.cons_append, List.nil_append, scan, word]
        | cons => exact .stops .misuse fun rest => by simp [scan, word]
      | long | short =>
        cases named : level.find? (·.isNamedBy (Word.ofText text)) with
        | none =>
          rw [word] at named
          exact .stops .misuse fun rest => by simp only [List.cons_append, scan, word, named]
        | some setting =>
          cases taken : given.take setting (Word.ofText text) with
          | complete later =>
            rw [word] at named taken
            exact (ih later none).cons fun rest => by simp only [scan, word, named, taken]
          | awaits setting =>
            rw [word] at named taken
            exact (ih given (some setting)).cons fun rest => by simp only [scan, word, named, taken]
          | stops stop =>
            rw [word] at named taken
            exact .stops stop fun rest => by simp only [List.cons_append, scan, word, named, taken]

/-! ### What a scan reads -/

/-- Two scans that begin with some options each stop alike, or read the same options and leave
the same words. -/
inductive SameScan (given more : Given) :
    Except Stop (Given × List String) → Except Stop (Given × List String) → Prop where
  | stops (stop : Stop) : SameScan given more (.error stop) (.error stop)
  | reads (added : List (Setting × String)) (left : List String) :
      SameScan given more (.ok (⟨given.pairs ++ added⟩, left)) (.ok (⟨more.pairs ++ added⟩, left))

/-- Of the options that may be given only once, the same ones are given. -/
def AlikeOnce (given more : Given) : Prop :=
  ∀ setting, setting.form ≠ .list → more.has setting = given.has setting

theorem SameScan.behind {pair : Setting × String}
    {scanned again : Except Stop (Given × List String)}
    (same : SameScan ⟨given.pairs ++ [pair]⟩ ⟨more.pairs ++ [pair]⟩ scanned again) :
    SameScan given more scanned again := by
  cases same with
  | stops stop => exact .stops stop
  | reads added left => simpa using SameScan.reads (pair :: added) left

theorem AlikeOnce.behind (alike : AlikeOnce given more) (pair : Setting × String) :
    AlikeOnce ⟨given.pairs ++ [pair]⟩ ⟨more.pairs ++ [pair]⟩ := fun setting once => by
  have same := alike setting once
  simp only [has] at same
  simp only [has, List.any_append, same]

theorem add_alike (alike : AlikeOnce given more) (setting : Setting) (value : String) :
    (given.add? setting value = none ∧ more.add? setting value = none) ∨
    (given.add? setting value = some ⟨given.pairs ++ [(setting, value)]⟩ ∧
      more.add? setting value = some ⟨more.pairs ++ [(setting, value)]⟩) := by
  have asked : (setting.form == .list || !more.has setting) =
      (setting.form == .list || !given.has setting) := by
    by_cases list : setting.form = .list
    · rw [list]
      rfl
    · rw [alike setting list]
  rw [add?, add?, asked]
  split
  · exact .inr ⟨rfl, rfl⟩
  · exact .inl ⟨rfl, rfl⟩

/-- An option that is added with a value, if the value can be added. -/
def addedNext (given : Given) (setting : Setting) (value : String) : Next :=
  match given.add? setting value with
  | some later => .complete later
  | none => .stops .misuse

theorem take_valued (given : Given) (word : Word)
    (form : setting.form = .list ∨ setting.form = .single) : given.take setting word =
      match word.value? with
      | some value => given.addedNext setting value
      | none => .awaits setting := by
  rcases form with form | form <;>
    · simp only [take, form]
      rfl

/-- What a word leads to depends on the options before it only as far as they let its value be
added. -/
theorem take_cases (setting : Setting) (word : Word) :
    (∃ value, ∀ given : Given, given.take setting word = given.addedNext setting value) ∨
    (∀ given : Given, given.take setting word = .awaits setting) ∨
    ∃ stop, ∀ given : Given, given.take setting word = .stops stop := by
  cases form : setting.form with
  | final stop =>
    refine .inr (.inr ?_)
    cases word with
    | long name value => cases value <;> exact ⟨_, fun given => by simp only [take, form]; rfl⟩
    | _ => exact ⟨stop, fun given => by simp only [take, form]⟩
  | flag =>
    cases word with
    | long name value =>
      cases value with
      | none => exact .inl ⟨"", fun given => by simp only [take, form]; rfl⟩
      | some value => exact .inr (.inr ⟨_, fun given => by simp only [take, form]; rfl⟩)
    | _ => exact .inr (.inr ⟨_, fun given => by simp only [take, form]; rfl⟩)
  | list | single =>
    cases own : word.value? with
    | some value => exact .inl ⟨value, fun given => by rw [take_valued _ _ (by simp [form]), own]⟩
    | none => exact .inr (.inl fun given => by rw [take_valued _ _ (by simp [form]), own])

/-- What a scan reads depends on the options before it only as far as some of them may be given
only once. -/
theorem scan_alike (alike : AlikeOnce given more) (level : List Setting) (awaited : Option Setting)
    (words : List String) :
    SameScan given more (scan level given awaited words) (scan level more awaited words) := by
  induction words generalizing given more awaited with
  | nil =>
    rw [scan, scan]
    split
    · exact .stops _
    · simpa using @SameScan.reads given more [] []
  | cons text rest ih =>
    have added (setting : Setting) (value : String) := add_alike alike setting value
    cases awaited with
    | some setting =>
      cases word : Word.ofText text with
      | plain value =>
        simp only [scan, word]
        rcases added setting value with ⟨refused, again⟩ | ⟨taken, again⟩
        · rw [refused, again]
          exact .stops _
        · rw [taken, again]
          exact (ih (alike.behind _) none).behind
      | closing | long | short =>
        simp only [scan, word]
        exact .stops _
    | none =>
      cases word : Word.ofText text with
      | plain value =>
        simp only [scan, word]
        simpa using @SameScan.reads given more [] (text :: rest)
      | closing =>
        simp only [scan, word]
        split
        · simpa using @SameScan.reads given more [] []
        · exact .stops _
      | long | short =>
        simp only [scan, word]
        split
        · exact .stops _
        · rename_i setting named
          have leads := take_cases setting (Word.ofText text)
          rw [word] at leads
          rcases leads with ⟨value, leads⟩ | leads | ⟨stop, leads⟩ <;> simp only [leads]
          · rcases added setting value with ⟨refused, again⟩ | ⟨taken, again⟩
            · simp only [addedNext, refused, again]
              exact .stops _
            · simp only [addedNext, taken, again]
              exact (ih (alike.behind _) none).behind
          · exact ih alike (some setting)
          · exact .stops _

/-! ### An option with a list of nodes -/

theorem ofText_nodesWord (list : String) :
    Word.ofText (nodesWord list) = .long "nodes" (some list) := by
  simp [Word.ofText, nodesWord]

/-- The option is known where it may stand. -/
theorem find_nodes (level : List Setting) (value : Option String) :
    level.find? (·.isNamedBy (.long "nodes" value)) =
      if .nodes ∈ level then some .nodes else none := by
  have named (setting : Setting) :
      setting.isNamedBy (.long "nodes" value) = (setting == .nodes) := by
    cases setting <;> simp [Setting.isNamedBy, Setting.name]
  simp only [named]
  induction level with
  | nil => rfl
  | cons first level ih =>
    by_cases same : first = .nodes
    · simp [same]
    · simp [same, Ne.symm same, ih]

/-- A list is one more option where one is expected and this one is known. -/
theorem scan_nodes (names : NamesNodes option list) : scan level given awaited (option ++ rest) =
    if awaited = none ∧ .nodes ∈ level then
      scan level ⟨given.pairs ++ [(.nodes, list)]⟩ none rest
    else .error .misuse := by
  have dashes : Word.ofText "--nodes" = .long "nodes" none := by decide
  cases awaited with
  | some setting =>
    rw [if_neg fun both => Option.some_ne_none _ both.1]
    cases names with
    | joined => simp [scan, ofText_nodesWord]
    | apart => simp [scan, dashes]
  | none =>
    by_cases known : .nodes ∈ level
    · rw [if_pos ⟨rfl, known⟩]
      cases names with
      | joined =>
        have next : given.take .nodes (.long "nodes" (some list)) =
            .complete ⟨given.pairs ++ [(.nodes, list)]⟩ := rfl
        simp only [List.singleton_append, scan, ofText_nodesWord, find_nodes, if_pos known, next]
      | apart plain =>
        have next : given.take .nodes (.long "nodes" none) = .awaits .nodes := rfl
        have added : given.add? .nodes list = some ⟨given.pairs ++ [(.nodes, list)]⟩ := rfl
        simp only [List.cons_append, List.nil_append, scan, dashes, find_nodes, if_pos known, next,
          plain, added]
    · rw [if_neg fun both => known both.2]
      cases names <;> simp [scan, ofText_nodesWord, dashes, find_nodes, known]

theorem nodes_not_empty (names : NamesNodes option list) (rest : List String) :
    (option ++ rest).isEmpty = false := by
  cases names <;> rfl

theorem alike_nodes (given : Given) (list : String) :
    AlikeOnce given ⟨given.pairs ++ [(.nodes, list)]⟩ := by
  intro setting once
  have apart : (Setting.nodes == setting) = false := by
    simp only [beq_eq_false_iff_ne]
    rintro rfl
    exact once rfl
  simp [has, apart]

/-! ### One list in place of another -/

/-- How two scans end that have one of two lists each at the same place. -/
inductive Relisted (level : List Setting) (option again : List String) (list other : String)
    (after : List String) :
    Except Stop (Given × List String) → Except Stop (Given × List String) → Prop where
  | stops (stop : Stop) : Relisted level option again list other after (.error stop) (.error stop)
  /-- The list stands in what is left. -/
  | left (later : Given) (name : String) (back : List String) :
      Relisted level option again list other after
        (.ok (later, name :: (back ++ (option ++ after))))
        (.ok (later, name :: (back ++ (again ++ after))))
  /-- The list is among the options that are read. -/
  | read (known : .nodes ∈ level) (front back : List (Setting × String)) (left : List String) :
      Relisted level option again list other after
        (.ok (⟨front ++ (.nodes, list) :: back⟩, left))
        (.ok (⟨front ++ (.nodes, other) :: back⟩, left))

theorem scan_relisted {again : List String} {other : String} (names : NamesNodes option list)
    (namesAgain : NamesNodes again other) (level : List Setting) (given : Given)
    (awaited : Option Setting) (before after : List String) :
    Relisted level option again list other after
      (scan level given awaited (before ++ (option ++ after)))
      (scan level given awaited (before ++ (again ++ after))) := by
  cases scan_front level given awaited before with
  | stops stop same =>
    rw [same, same]
    exact .stops stop
  | closed later last same =>
    rw [same, same, nodes_not_empty names, nodes_not_empty namesAgain]
    exact .stops .misuse
  | @left later name back unread same =>
    rw [same, same]
    exact .left later name back
  | read later wait same =>
    rw [same, same, scan_nodes names, scan_nodes namesAgain]
    split
    · rename_i both
      have alike : AlikeOnce ⟨later.pairs ++ [(.nodes, list)]⟩ ⟨later.pairs ++ [(.nodes, other)]⟩ :=
        fun setting once =>
          (alike_nodes later other setting once).trans (alike_nodes later list setting once).symm
      have same := scan_alike alike level none after
      generalize scan level ⟨later.pairs ++ [(.nodes, list)]⟩ none after = scanned at same ⊢
      generalize scan level ⟨later.pairs ++ [(.nodes, other)]⟩ none after = rescanned at same ⊢
      cases same with
      | stops stop => exact .stops stop
      | reads added left => simpa using Relisted.read both.2 later.pairs added left
    · exact .stops .misuse

/-! ### A list that is put in -/

/-- Where a list of nodes is put among options that are all read, and is read with them, it is
one more of them. -/
theorem scan_insert_read (names : NamesNodes option list)
    (scanned : scan level given awaited (before ++ after) = .ok (later, []))
    (again : scan level given awaited (before ++ (option ++ after)) = .ok (more, left)) :
    left = [] ∧ WithNodes list later more := by
  cases scan_front level given awaited before with
  | stops stop same => cases (same after).symm.trans scanned
  | closed later last same =>
    rw [same, nodes_not_empty names] at again
    cases again
  | left later unread same => cases (same after).symm.trans scanned
  | read between wait same =>
    rw [same] at scanned
    rw [same, scan_nodes names] at again
    split at again
    · rename_i both
      rw [both.1] at scanned
      have alike := scan_alike (alike_nodes between list) level none after
      rw [scanned, again] at alike
      cases alike with
      | reads added => exact ⟨rfl, between.pairs, added, rfl, by simp⟩
    · cases again

/-- Where a list of nodes is put on a command line before it is known what it may mean, it stands
behind the word that ends the scan. -/
theorem scan_insert_left {name : String} (names : NamesNodes option list)
    (unknown : .nodes ∉ level)
    (scanned : scan level given awaited (before ++ after) = .ok (later, name :: left))
    (again : scan level given awaited (before ++ (option ++ after)) = .ok (more, rest)) :
    more = later ∧ ∃ back, left = back ++ after ∧ rest = name :: (back ++ (option ++ after)) := by
  cases scan_front level given awaited before with
  | stops stop same => cases (same after).symm.trans scanned
  | closed later last same =>
    rw [same, nodes_not_empty names] at again
    cases again
  | @left later name back unread same =>
    cases (same after).symm.trans scanned
    cases (same _).symm.trans again
    exact ⟨rfl, back, rfl, rfl⟩
  | read between wait same =>
    rw [same, scan_nodes names, if_neg fun both => unknown both.2] at again
    cases again

/-- Behind options that are all read there is a place for a list of nodes, unless they are
closed. -/
theorem scan_append_read {words : List String} (names : NamesNodes option list)
    (known : .nodes ∈ level) (scanned : scan level given awaited words = .ok (later, []))
    (opened : words.getLast? ≠ some "--") :
    ∃ more, scan level given awaited (words ++ option) = .ok (more, []) := by
  rw [← words.append_nil] at scanned
  cases scan_front level given awaited words with
  | stops stop same => cases (same []).symm.trans scanned
  | closed later last => exact absurd last opened
  | left later unread same => cases (same []).symm.trans scanned
  | read between wait same =>
    rw [same, scan] at scanned
    split at scanned
    · cases scanned
    · rename_i ready
      have ready : wait = none := by simpa using ready
      have behind : scan level between wait (option ++ []) = _ := scan_nodes names
      rw [List.append_nil, if_pos ⟨ready, known⟩] at behind
      exact ⟨_, (same option).trans behind⟩

/-- What stands behind the word that ends a scan plays no part. -/
theorem scan_append_left {words : List String} {name : String}
    (scanned : scan level given awaited words = .ok (later, name :: left)) (extra : List String) :
    scan level given awaited (words ++ extra) = .ok (later, name :: (left ++ extra)) ∧
      name :: left <:+ words := by
  rw [← words.append_nil] at scanned
  cases scan_front level given awaited words with
  | stops stop same => cases (same []).symm.trans scanned
  | closed later last same => cases (same []).symm.trans scanned
  | @left later name back unread same =>
    rw [same, List.append_nil] at scanned
    cases scanned
    exact ⟨same extra, unread⟩
  | read between wait same =>
    rw [same, scan] at scanned
    split at scanned <;> cases scanned

end Given

end Fanout.Console
