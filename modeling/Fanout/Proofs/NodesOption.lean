import Fanout.Proofs.OptionScans

/-! Lists of nodes on a command line. A command line that has one of two lists at some place is
understood with the other list there exactly if it is with the one, and asks for the same
otherwise. One that names no nodes, and is still understood with a list put in somewhere, asks
for the same broadcast to the nodes of the list; at its end there is always a place for a list,
unless the end of all options stands there. -/
namespace Fanout.Console

namespace Given

variable {given more : Given} {list : String} {setting : Setting}

/-! ### What the options say -/

theorem values_with_nodes (among : WithNodes list given more) (other : setting ≠ .nodes) :
    more.values setting = given.values setting := by
  obtain ⟨front, back, pairs, same⟩ := among
  have apart : (Setting.nodes == setting) = false := by simpa using Ne.symm other
  simp [values, pairs, same, apart]

theorem has_with_nodes (among : WithNodes list given more) (other : setting ≠ .nodes) :
    more.has setting = given.has setting := by
  obtain ⟨front, back, pairs, same⟩ := among
  have apart : (Setting.nodes == setting) = false := by simpa using Ne.symm other
  simp [has, pairs, same, apart]

theorem job_with_nodes (among : WithNodes list given more) : more.job? = given.job? := by
  simp only [job?, value?, listed, values_with_nodes among (show Setting.job ≠ .nodes by decide),
    values_with_nodes among (show Setting.units ≠ .nodes by decide),
    values_with_nodes among (show Setting.args ≠ .nodes by decide)]

theorem policy_with_nodes (among : WithNodes list given more) (env : Environment) :
    more.rejectEmpty? env = given.rejectEmpty? env ∧
      more.maxParallel? env = given.maxParallel? env := by
  simp only [rejectEmpty?, maxParallel?, value?,
    has_with_nodes among (show Setting.rejectEmpty ≠ .nodes by decide),
    values_with_nodes among (show Setting.maxParallel ≠ .nodes by decide), and_self]

/-- The names that options ask for, if they name any. -/
def names? (given : Given) : Option (List String) :=
  if given.has .nodes then some (given.listed .nodes) else none

/-- The names of a list stand between those before and after it. -/
theorem names_among (front back : List (Setting × String)) (list : String) :
    names? ⟨front ++ (.nodes, list) :: back⟩ = some (Given.listed ⟨front⟩ .nodes ++
      Text.commaParts list ++ Given.listed ⟨back⟩ .nodes) := by
  simp [names?, has, listed, values]

/-- Where no nodes were named, exactly those of the list are. -/
theorem names_with_nodes (among : WithNodes list given more) (unnamed : given.names? = none) :
    more.names? = some (Text.commaParts list) := by
  obtain ⟨front, back, pairs, same⟩ := among
  have none : given.has .nodes = false := by simpa [names?] using unnamed
  rw [has, pairs, List.any_append, Bool.or_eq_false_iff] at none
  have free (pairs : List (Setting × String)) (none : pairs.any (·.1 == .nodes) = false) :
      Given.listed ⟨pairs⟩ .nodes = [] := by
    have nothing : pairs.filter (·.1 == .nodes) = [] := by
      simpa [List.filter_eq_nil_iff] using none
    rw [listed, values, nothing]
    rfl
  have among := names_among front back list
  rw [← same, free front none.1, free back none.2, List.nil_append, List.append_nil] at among
  exact among

theorem command_broadcast {env : Environment} {name : CommandName} {names : Option (List String)}
    {job : JobOptions} {rejectEmpty : Bool} {limit : Option Nat}
    (asked : given.command? env name = some (.broadcast names job rejectEmpty limit)) :
    name = .broadcast := by
  cases name with
  | nodes => cases asked
  | broadcast => rfl
  | submit =>
    simp only [command?, Option.bind_eq_bind, Option.bind_eq_some_iff] at asked
    obtain ⟨_, -, submitted⟩ := asked
    split at submitted <;> cases submitted

/-- A command line for a broadcast asks for it once its job and its policy, the topology and the
names are known. -/
theorem means_iff {outer inner : Given} {env : Environment} {invocation : Invocation} :
    Invocation.ofGiven? outer inner .broadcast env = some invocation ↔
      ∃ path job rejectEmpty limit, topologyPath? outer inner env = some path ∧
        inner.job? = some job ∧ inner.rejectEmpty? env = some rejectEmpty ∧
        inner.maxParallel? env = some limit ∧
        invocation = ⟨path, outer.has .json || inner.has .json,
          .broadcast inner.names? job rejectEmpty limit⟩ := by
  simp only [Invocation.ofGiven?, command?, Option.bind_eq_bind, Option.bind_eq_some_iff,
    Option.pure_def, Option.some.injEq]
  constructor
  · rintro ⟨_, ⟨job, described, rejectEmpty, decided, limit, limited, rfl⟩, path, found, rfl⟩
    exact ⟨path, job, rejectEmpty, limit, found, described, decided, limited, rfl⟩
  · rintro ⟨path, job, rejectEmpty, limit, found, described, decided, limited, rfl⟩
    exact ⟨_, ⟨job, described, rejectEmpty, decided, limit, limited, rfl⟩, path, found, rfl⟩

/-- With a list of nodes in them, options ask for the same broadcast to their names. -/
theorem means_with_nodes {outer : Given} {env : Environment} {path : String} {asJson : Bool}
    {job : JobOptions} {rejectEmpty : Bool} {limit : Option Nat}
    (among : WithNodes list given more) :
    Invocation.ofGiven? outer more .broadcast env =
        some ⟨path, asJson, .broadcast more.names? job rejectEmpty limit⟩ ↔
      Invocation.ofGiven? outer given .broadcast env =
        some ⟨path, asJson, .broadcast given.names? job rejectEmpty limit⟩ := by
  have paths : topologyPath? outer more env = topologyPath? outer given env := by
    simp only [topologyPath?, value?,
      values_with_nodes among (show Setting.topology ≠ .nodes by decide)]
  have json := has_with_nodes among (show Setting.json ≠ .nodes by decide)
  obtain ⟨policy, parallel⟩ := policy_with_nodes among env
  simp only [means_iff, paths, json, policy, parallel, job_with_nodes among, Invocation.mk.injEq,
    Command.broadcast.injEq, true_and]

end Given

/-! ### Command lines -/

/-- The parts in which a command line is understood: the options before the name of its command
and those after it. -/
structure UnderstoodAs (env : Environment) (words : List String) (name : String)
    (command : CommandName) (rest : List String) (outer inner : Given)
    (invocation : Invocation) : Prop where
  front : Given.scan (CommandName.common ++ [.version]) {} none words = .ok (outer, name :: rest)
  noHelp : (name == "help") = false
  named : CommandName.ofText? name = some command
  back : Given.scan command.settings {} none rest = .ok (inner, [])
  means : Invocation.ofGiven? outer inner command env = some invocation

theorem read_ok_iff {env : Environment} {words : List String} {invocation : Invocation} :
    Invocation.read env words = .ok invocation ↔ ∃ name command rest outer inner,
      UnderstoodAs env words name command rest outer inner invocation := by
  constructor
  · intro understood
    unfold Invocation.read at understood
    split at understood
    · cases understood
    · cases understood
    · rename_i outer name rest front
      split at understood
      · cases understood
      · rename_i noHelp
        split at understood
        · cases understood
        · rename_i command named
          split at understood
          · cases understood
          · cases understood
          · rename_i inner back
            split at understood
            · rename_i means
              cases understood
              exact ⟨name, command, rest, outer, inner, front, Bool.not_eq_true _ ▸ noHelp, named,
                back, means⟩
            · cases understood
  · rintro ⟨name, command, rest, outer, inner, front, noHelp, named, back, means⟩
    simp only [Invocation.read, front, noHelp, named, back, means]
    rfl

section Broadcast

variable {env : Environment} {outer inner more : Given} {command : CommandName}
  {list path : String} {asJson rejectEmpty : Bool} {job : JobOptions} {limit : Option Nat}
  {words before after option : List String} {names : Option (List String)}
  {invocation : Invocation}

theorem nodes_unknown : Setting.nodes ∉ CommandName.common ++ [.version] := by decide

/-- Only a command line for a broadcast names nodes. -/
theorem nodes_known_iff : Setting.nodes ∈ command.settings ↔ command = .broadcast := by
  cases command <;> decide

theorem broadcast_means
    (means : Invocation.ofGiven? outer inner command env =
      some ⟨path, asJson, .broadcast names job rejectEmpty limit⟩) :
    command = .broadcast ∧ inner.names? = names := by
  have asked := means
  simp only [Invocation.ofGiven?, Option.bind_eq_bind, Option.bind_eq_some_iff, Option.pure_def,
    Option.some.injEq, Invocation.mk.injEq] at asked
  obtain ⟨_, commanded, _, _, _, _, rfl⟩ := asked
  obtain rfl := Given.command_broadcast commanded
  obtain ⟨_, _, _, _, -, -, -, -, same⟩ := Given.means_iff.mp means
  cases same
  exact ⟨rfl, rfl⟩

/-- A command line for a broadcast that names no nodes, with a list of nodes put in at some
place, is understood as the same broadcast to the nodes of the list, if it is understood. -/
theorem read_insert_nodes (lists : NamesNodes option list)
    (understood : Invocation.read env (before ++ after) =
      .ok ⟨path, asJson, .broadcast none job rejectEmpty limit⟩)
    (again : Invocation.read env (before ++ (option ++ after)) = .ok invocation) :
    invocation =
      ⟨path, asJson, .broadcast (some (Text.commaParts list)) job rejectEmpty limit⟩ := by
  obtain ⟨name, command, rest, outer, inner, front, -, named, back, means⟩ :=
    read_ok_iff.mp understood
  obtain ⟨other, too, others, outerAgain, more, frontAgain, -, namedAgain, backAgain, meansAgain⟩ :=
    read_ok_iff.mp again
  obtain ⟨rfl, early, rfl, same⟩ := Given.scan_insert_left lists nodes_unknown front frontAgain
  obtain ⟨rfl, rfl⟩ := List.cons.inj same
  cases named.symm.trans namedAgain
  obtain ⟨rfl, unnamed⟩ := broadcast_means means
  obtain ⟨-, among⟩ := Given.scan_insert_read lists back backAgain
  have meansMore := (Given.means_with_nodes among).mpr (unnamed ▸ means)
  rw [Given.names_with_nodes among unnamed] at meansMore
  exact Option.some.inj (meansAgain.symm.trans meansMore)

/-- At the end of the command line it is understood, unless the options are closed there. -/
theorem read_append_nodes (lists : NamesNodes option list)
    (understood : Invocation.read env words =
      .ok ⟨path, asJson, .broadcast none job rejectEmpty limit⟩)
    (opened : words.getLast? ≠ some "--") :
    ∃ invocation, Invocation.read env (words ++ option) = .ok invocation := by
  obtain ⟨name, command, rest, outer, inner, front, noHelp, named, back, means⟩ :=
    read_ok_iff.mp understood
  obtain ⟨rfl, unnamed⟩ := broadcast_means means
  obtain ⟨frontAgain, early, same⟩ := Given.scan_append_left front option
  have openedBack : rest.getLast? ≠ some "--" := by
    intro closed
    rw [← same, List.getLast?_append, List.getLast?_cons, closed] at opened
    exact opened rfl
  obtain ⟨more, backAgain⟩ :=
    Given.scan_append_read lists (nodes_known_iff.mpr rfl) back openedBack
  have whole := back
  rw [← rest.append_nil] at whole
  have appended := backAgain
  rw [← option.append_nil] at appended
  obtain ⟨-, among⟩ := Given.scan_insert_read lists whole appended
  exact ⟨_, read_ok_iff.mpr ⟨name, .broadcast, _, outer, more, frontAgain, noHelp, named, backAgain,
    (Given.means_with_nodes among).mpr (unnamed ▸ means)⟩⟩

/-- How two command lines are understood that have one of two lists of nodes each at the same
place: not at all, or as otherwise the same broadcast. -/
inductive ReadAlike (list other : String) :
    Except Stop Invocation → Except Stop Invocation → Prop where
  | stops (stop : Stop) : ReadAlike list other (.error stop) (.error stop)
  | broadcasts (path : String) (asJson : Bool) (front back : List String) (job : JobOptions)
      (rejectEmpty : Bool) (limit : Option Nat) : ReadAlike list other
        (.ok ⟨path, asJson,
          .broadcast (some (front ++ Text.commaParts list ++ back)) job rejectEmpty limit⟩)
        (.ok ⟨path, asJson,
          .broadcast (some (front ++ Text.commaParts other ++ back)) job rejectEmpty limit⟩)

/-- There is no help on a list of nodes. -/
theorem help_on_nodes (lists : NamesNodes option list) (front back : List String) :
    Invocation.helpOn (front ++ (option ++ back)) = .misuse := by
  cases lists with
  | joined =>
    have other (text : String) (plain : text.toList.head? ≠ some '-') : nodesWord list ≠ text := by
      rintro rfl
      exact plain (by simp [nodesWord])
    cases front with
    | nil =>
      cases back with
      | nil =>
        have unknown : CommandName.ofText? (nodesWord list) = none := by
          unfold CommandName.ofText?
          split
          · exact absurd ‹_› (other "nodes" (by decide))
          · exact absurd ‹_› (other "broadcast" (by decide))
          · exact absurd ‹_› (other "submit" (by decide))
          · rfl
        simp [Invocation.helpOn, unknown, other "help" (by decide)]
      | cons => rfl
    | cons _ front => cases front <;> rfl
  | apart =>
    cases front with
    | nil => rfl
    | cons _ front => cases front <;> rfl

/-- What the options around the name of a broadcast say differs in the names alone. -/
theorem means_alike (list other : String) (env : Environment) (outer : Given)
    (front back : List (Setting × String)) : ReadAlike list other
      (match Invocation.ofGiven? outer ⟨front ++ (.nodes, list) :: back⟩ .broadcast env with
        | some invocation => .ok invocation
        | none => .error .misuse)
      (match Invocation.ofGiven? outer ⟨front ++ (.nodes, other) :: back⟩ .broadcast env with
        | some invocation => .ok invocation
        | none => .error .misuse) := by
  have among (list : String) :
      Given.WithNodes list ⟨front ++ back⟩ ⟨front ++ (.nodes, list) :: back⟩ :=
    ⟨front, back, rfl, rfl⟩
  cases means : Invocation.ofGiven? outer ⟨front ++ back⟩ .broadcast env with
  | some invocation =>
    obtain ⟨path, job, rejectEmpty, limit, -, -, -, -, rfl⟩ := Given.means_iff.mp means
    have listed (list : String) := (Given.means_with_nodes (among list)).mpr means
    simp only [listed, Given.names_among]
    exact .broadcasts ..
  | none =>
    have refused (list : String) :
        Invocation.ofGiven? outer ⟨front ++ (.nodes, list) :: back⟩ .broadcast env = none := by
      by_contra meant
      obtain ⟨invocation, meant⟩ := Option.ne_none_iff_exists'.mp meant
      obtain ⟨path, job, rejectEmpty, limit, -, -, -, -, rfl⟩ := Given.means_iff.mp meant
      cases means.symm.trans ((Given.means_with_nodes (among list)).mp meant)
    simp only [refused]
    exact .stops .misuse

/-- **One list of nodes is understood like another.** Wherever the option stands on a command
line, with one list there it is understood exactly if it is with the other, and asks for the same
but for the names of the list. -/
theorem read_relisted (lists : NamesNodes option list) {again : List String} {other : String}
    (listsAgain : NamesNodes again other) (env : Environment) (before after : List String) :
    ReadAlike list other (Invocation.read env (before ++ (option ++ after)))
      (Invocation.read env (before ++ (again ++ after))) := by
  have outer := Given.scan_relisted lists listsAgain (CommandName.common ++ [.version]) {} none
    before after
  unfold Invocation.read
  generalize Given.scan (CommandName.common ++ [.version]) {} none (before ++ (option ++ after)) =
    scanned at outer ⊢
  generalize Given.scan (CommandName.common ++ [.version]) {} none (before ++ (again ++ after)) =
    rescanned at outer ⊢
  cases outer with
  | stops stop => exact .stops stop
  | read known => exact absurd known nodes_unknown
  | left outer name back =>
    simp only [help_on_nodes lists, help_on_nodes listsAgain]
    split
    · exact .stops .misuse
    split
    · exact .stops .misuse
    rename_i command named
    have inner := Given.scan_relisted lists listsAgain command.settings {} none back after
    generalize Given.scan command.settings {} none (back ++ (option ++ after)) = scanned at inner ⊢
    generalize Given.scan command.settings {} none (back ++ (again ++ after)) = rescanned at inner ⊢
    cases inner with
    | stops stop => exact .stops stop
    | left => exact .stops .misuse
    | read known front back left =>
      obtain rfl := nodes_known_iff.mp known
      cases left with
      | cons => exact .stops .misuse
      | nil => exact means_alike list other env outer front back

end Broadcast

end Fanout.Console
