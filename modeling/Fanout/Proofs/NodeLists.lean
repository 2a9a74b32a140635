import Fanout.Proofs.BroadcastRows
import Fanout.Proofs.FirstOccurrences
import Fanout.Proofs.NodesOption
import Fanout.Proofs.PrintedIds
import Mathlib.Logic.Relation

/-! Lists of nodes on the command line. What a broadcast prints depends only on the distinct
names in its list, so white space, blank entries and repetitions make no difference, and to name
all members is to name nobody. The members stand for themselves in both cases, with their own
names and addresses. -/
namespace Fanout.Console

open FirstHandles

/-- One more way to write a list of names. -/
inductive Respelled : List String → List String → Prop where
  /-- A name has white space around it. -/
  | spaced (front back : List String) (name : String) {lead trail : String} (before : Blank lead)
      (after : Blank trail) :
      Respelled (front ++ name :: back) (front ++ (lead ++ name ++ trail) :: back)
  /-- There is a blank entry. -/
  | blank (front back : List String) {entry : String} (blank : Blank entry) :
      Respelled (front ++ back) (front ++ entry :: back)
  /-- An earlier name is repeated later. -/
  | repeated {front : List String} (back : List String) {name : String} (earlier : name ∈ front) :
      Respelled (front ++ back) (front ++ name :: back)

/-- The id can be named in a list and is read as it is. -/
structure Listable (id : String) : Prop where
  filled : id ≠ ""
  trimmed : Text.trim id = id
  whole : ',' ∉ id.toList

/-- The option that names all members. -/
def everyoneWord (topology : Topology) : String :=
  nodesWord (",".intercalate (topology.members.map (·.id.text)))

/-- Two programs run in the same surroundings, but draw their own job ids at other times. -/
structure SameSurroundings (host other : Host) : Prop where
  env : host.env = other.env
  file : host.file = other.file
  terminal : host.terminal = other.terminal

/-- Two programs end with the same exit code and the same output but for the job ids. -/
structure SamePrintout (host other : Host) (ending again : Ending) : Prop where
  exitCode : ending.exitCode = again.exitCode
  output : SameButIds host.ids other.ids ending.output.toList again.output.toList

/-- The lists of nodes on the command lines of two programs are brought to one form. -/
structure ListsNormalised (host other : Host) (topology : Topology) (path : String) : Prop where
  /-- However the list of an option is written, the printouts are the same, whatever else is on
  the command line and whether or not it is understood. -/
  relisted : ∀ before after option again list listAgain,
    NamesNodes option list → NamesNodes again listAgain →
    Relation.ReflTransGen Respelled (Text.commaParts list) (Text.commaParts listAgain) →
    SamePrintout host other (run host (before ++ (option ++ after)))
      (run other (before ++ (again ++ after)))
  /-- They are the same however all lists together are written. -/
  respelled : ∀ words wordsAgain asJson names namesAgain job rejectEmpty limit,
    Invocation.read host.env words =
      .ok ⟨path, asJson, .broadcast (some names) job rejectEmpty limit⟩ →
    Invocation.read host.env wordsAgain =
      .ok ⟨path, asJson, .broadcast (some namesAgain) job rejectEmpty limit⟩ →
    Relation.ReflTransGen Respelled names namesAgain →
    SamePrintout host other (run host words) (run other wordsAgain)
  /-- To name all members, where that is understood, is to name nobody. -/
  everyone : (∀ n ∈ topology.members, Listable n.id.text) →
    ∀ before after asJson job rejectEmpty limit invocation,
    Invocation.read host.env (before ++ after) =
      .ok ⟨path, asJson, .broadcast none job rejectEmpty limit⟩ →
    Invocation.read host.env (before ++ everyoneWord topology :: after) = .ok invocation →
    invocation = ⟨path, asJson, .broadcast (some (topology.members.map (·.id.text))) job
        rejectEmpty limit⟩ ∧
      SamePrintout host other (run host (before ++ after))
        (run other (before ++ everyoneWord topology :: after))
  /-- It is understood at the end of a command line whose options are not closed there. -/
  place : ∀ words asJson job rejectEmpty limit,
    Invocation.read host.env words = .ok ⟨path, asJson, .broadcast none job rejectEmpty limit⟩ →
    words.getLast? ≠ some "--" →
    ∃ invocation, Invocation.read host.env (words ++ [everyoneWord topology]) = .ok invocation
  /-- In both cases the members themselves reach the service, in their order. -/
  members : broadcastNodes topology none = topology.members ∧
    ((∀ n ∈ topology.members, Listable n.id.text) →
      broadcastNodes topology (some (topology.members.map (·.id.text))) = topology.members)
  /-- For any other list, those of its nodes that are members are themselves. -/
  handles : ∀ names, ∀ n ∈ broadcastNodes topology (some names),
    n.id ∈ topology.members.map Node.id → n ∈ topology.members

variable {host other : Host} {topology : Topology} {names again : List String}

/-! ### Names -/

theorem respelled_within (front back : List String) (respelled : Respelled names again) :
    Respelled (front ++ names ++ back) (front ++ again ++ back) := by
  cases respelled with
  | spaced left right name before after =>
    simpa using Respelled.spaced (front ++ left) (right ++ back) name before after
  | blank left right blank => simpa using Respelled.blank (front ++ left) (right ++ back) blank
  | repeated right earlier =>
    simpa using Respelled.repeated (right ++ back) (List.mem_append_right front earlier)

/-- What was there before adds nothing new. -/
theorem eraseDups_known {α : Type} [DecidableEq α] {xs ys : List α} (known : ∀ y ∈ ys, y ∈ xs)
    (zs : List α) : (xs ++ (ys ++ zs)).eraseDups = (xs ++ zs).eraseDups := by
  have nothing : ys.removeAll xs = [] :=
    List.filter_eq_nil_iff.mpr fun y member => by simpa using known y member
  have rest : (ys ++ zs).removeAll xs = zs.removeAll xs := by
    rw [List.removeAll, List.filter_append]
    exact congrArg (· ++ _) nothing
  rw [List.eraseDups_append, List.eraseDups_append, rest]

/-- A list means the same distinct names, however it is written. -/
theorem respelled_distinct (respelled : Respelled names again) :
    distinctNames names = distinctNames again := by
  cases respelled with
  | spaced front back name before after =>
    simp only [distinctNames, meant_append, meant_cons _ back, meant_padded before after]
  | blank front back blank =>
    simp only [distinctNames, meant_append, meant_cons _ back, meant_blank blank, List.nil_append]
  | @repeated front back name earlier =>
    have known : ∀ word ∈ meant [name], word ∈ meant front := by
      simp only [meant, List.map_singleton, List.mem_filter, List.mem_singleton]
      rintro _ ⟨rfl, filled⟩
      exact ⟨List.mem_map_of_mem earlier, filled⟩
    rw [distinctNames, distinctNames, meant_append, meant_append, meant_cons,
      eraseDups_known known]

theorem rewritten_distinct (rewritten : Relation.ReflTransGen Respelled names again) :
    distinctNames names = distinctNames again := by
  induction rewritten with
  | refl => rfl
  | tail _ last ih => exact ih.trans (respelled_distinct last)

/-- A list of all members is read back from its option. -/
theorem everyone_listed (listable : ∀ n ∈ topology.members, Listable n.id.text)
    (some : topology.members ≠ []) :
    Text.commaParts (",".intercalate (topology.members.map (·.id.text))) =
      topology.members.map (·.id.text) := by
  refine Text.commaParts_intercalate ?_ (by simpa using some)
  simp only [List.forall_mem_map]
  exact fun n member => (listable n member).whole

theorem everyone_resolved (listable : ∀ n ∈ topology.members, Listable n.id.text)
    (distinct : (topology.members.map Node.id).Nodup) :
    resolve topology (topology.members.map (·.id.text)) = topology.members := by
  have trimmed : (topology.members.map (·.id.text)).map Text.trim =
      topology.members.map (·.id.text) := by
    rw [List.map_map]
    exact List.map_congr_left fun n member => (listable n member).trimmed
  have meaning : meant (topology.members.map (·.id.text)) = topology.members.map (·.id.text) := by
    rw [meant, trimmed, List.filter_eq_self]
    simp only [List.forall_mem_map, decide_eq_true_eq]
    exact fun n member => (listable n member).filled
  rw [resolve_eq, meaning, List.map_map]
  exact (List.map_congr_left fun n member => handle_member distinct member).trans (List.map_id _)

/-! ### Broadcasts -/

theorem same_printout_refl (ending : Ending) : SamePrintout host other ending ending :=
  ⟨rfl, same_refl _⟩

/-- A broadcast prints the same for any nodes that have the same first handles. -/
theorem broadcast_of_distinct {nodes others : List Node}
    (same : distinctNodes nodes = distinctNodes others) (host : Host) (topology : Topology)
    (asJson : Bool) (options : JobOptions) (config : Config) :
    host.broadcast topology asJson nodes options config =
      host.broadcast topology asJson others options config := by
  have targets (job : JobDescriptor) : (host.service topology config).broadcast ⟨nodes⟩ job {} =
      (host.service topology config).broadcast ⟨others⟩ job {} := by
    rw [← broadcast_distinct _ ⟨nodes⟩, ← broadcast_distinct _ ⟨others⟩, same]
  simp only [Host.broadcast, targets]

/-- If a broadcast does not get as far as its runs, its answer is settled by the job, the nodes
and the configuration. -/
theorem idle_answer (host other : Host) (topology : Topology) (config : Config)
    {job : JobDescriptor} {nodes : List Node}
    (idle : job.validate ≠ .ok () ∨ nodes = [] ∨ exceedsPermits config.maxParallel = true) :
    ((host.service topology config).broadcast ⟨nodes⟩ job {}).1 =
      ((other.service topology config).broadcast ⟨nodes⟩ job {}).1 := by
  cases checked : job.validate with
  | error violation => simp only [Service.broadcast, checked]
  | ok =>
    cases shape : distinctNodes nodes with
    | nil =>
      simp only [Service.broadcast, checked, shape]
      rfl
    | cons node rest =>
      have named : nodes ≠ [] := fun none => by simp [none, distinctNodes, firstHandles] at shape
      have exceeds := (idle.resolve_left (not_not_intro checked)).resolve_left named
      simp only [Service.broadcast, checked, shape, Service.broadcastSome, Host.service, exceeds,
        if_true]

/-- A broadcast prints the same in the same surroundings, whichever ids are drawn. Without runs
none are drawn and the answers are equal, and with runs both have a report. -/
theorem broadcast_alike (alike : SameSurroundings host other) (random : RandomIds host.ids)
    (otherRandom : RandomIds other.ids) (listed : topology.localNode ∈ topology.members)
    (asJson : Bool) (nodes : List Node) (options : JobOptions) (rejectEmpty : Bool)
    (limit : Option Nat) :
    SamePrintout host other
      (host.broadcast topology asJson nodes options (broadcastConfig rejectEmpty limit))
      (other.broadcast topology asJson nodes options (broadcastConfig rejectEmpty limit)) := by
  cases described : options.descriptor with
  | error failure =>
    simp only [Host.broadcast, described]
    exact same_printout_refl _
  | ok job =>
    by_cases idle : job.validate ≠ .ok () ∨ nodes = [] ∨ exceedsPermits limit = true
    · have answers := idle_answer host other topology (broadcastConfig rejectEmpty limit) idle
      simp only [Host.broadcast, described, answers, alike.env, alike.terminal]
      exact same_printout_refl _
    · simp only [ne_eq, not_or, not_not, Bool.not_eq_true] at idle
      obtain ⟨valid, named, within⟩ := idle
      obtain ⟨report, printed, echoes⟩ := broadcast_echoed host nodes listed described valid
        (within_permits.mp within) (fun none => absurd none named) asJson
      obtain ⟨again, printedAgain, echoesAgain⟩ := broadcast_echoed other nodes listed described
        valid (within_permits.mp within) (fun none => absurd none named) asJson
      rw [printed, printedAgain, alike.env, alike.terminal]
      exact ⟨rfl, same_reports random otherRandom echoes echoesAgain asJson _⟩

/-! ### Command lines -/

theorem run_alike (alike : SameSurroundings host other) (random : RandomIds host.ids)
    (otherRandom : RandomIds other.ids) {path : String} {words wordsAgain : List String}
    {listed listedAgain : Option (List String)} {asJson rejectEmpty : Bool} {job : JobOptions}
    {limit : Option Nat}
    (understood : Invocation.read host.env words =
      .ok ⟨path, asJson, .broadcast listed job rejectEmpty limit⟩)
    (understoodAgain : Invocation.read host.env wordsAgain =
      .ok ⟨path, asJson, .broadcast listedAgain job rejectEmpty limit⟩)
    (same : ∀ topology, host.load path = .ok topology →
      distinctNodes (broadcastNodes topology listed) =
        distinctNodes (broadcastNodes topology listedAgain)) :
    SamePrintout host other (run host words) (run other wordsAgain) := by
  have elsewhere : other.load path = host.load path := by rw [Host.load, Host.load, alike.file]
  rw [alike.env] at understoodAgain
  cases loaded : host.load path with
  | error failure =>
    rw [loaded] at elsewhere
    simp only [run, understood, understoodAgain, Invocation.run, loaded, elsewhere]
    exact same_printout_refl _
  | ok topology =>
    rw [loaded] at elsewhere
    rw [run_broadcast understood loaded, run_broadcast understoodAgain elsewhere,
      broadcast_of_distinct (same topology loaded)]
    exact broadcast_alike alike random otherRandom (loaded_well_formed loaded).1 asJson _ job
      rejectEmpty limit

theorem rewritten_nodes (rewritten : Relation.ReflTransGen Respelled names again)
    (topology : Topology) : distinctNodes (broadcastNodes topology (some names)) =
      distinctNodes (broadcastNodes topology (some again)) := by
  rw [broadcastNodes, broadcastNodes, distinct_resolved, distinct_resolved]
  exact congrArg (List.map (handleOn topology)) (rewritten_distinct rewritten)

theorem run_relisted (alike : SameSurroundings host other) (random : RandomIds host.ids)
    (otherRandom : RandomIds other.ids) {option optionAgain : List String}
    {list listAgain : String} (lists : NamesNodes option list)
    (listsAgain : NamesNodes optionAgain listAgain)
    (rewritten : Relation.ReflTransGen Respelled (Text.commaParts list) (Text.commaParts listAgain))
    (before after : List String) :
    SamePrintout host other (run host (before ++ (option ++ after)))
      (run other (before ++ (optionAgain ++ after))) := by
  have alikeRead := read_relisted lists listsAgain host.env before after
  generalize understood : Invocation.read host.env (before ++ (option ++ after)) = reading
    at alikeRead
  generalize understoodAgain : Invocation.read host.env (before ++ (optionAgain ++ after)) = reread
    at alikeRead
  cases alikeRead with
  | stops stop =>
    rw [alike.env] at understoodAgain
    simp only [run, understood, understoodAgain]
    cases stop <;> exact same_printout_refl _
  | broadcasts path asJson front back job rejectEmpty limit =>
    refine run_alike alike random otherRandom understood understoodAgain fun topology _ => ?_
    have whole := rewritten.lift (front ++ · ++ back) fun _ _ => respelled_within front back
    exact rewritten_nodes whole topology

/-- **Lists of nodes are brought to one form.** Programs in the same surroundings print the same
but for the job ids they draw, for every topology that is loaded and all command lines that
differ only in how a list is written, or in naming everybody or nobody. -/
theorem node_lists_are_normalised (alike : SameSurroundings host other)
    (random : RandomIds host.ids) (otherRandom : RandomIds other.ids) {path : String}
    (loaded : host.load path = .ok topology) : ListsNormalised host other topology path := by
  obtain ⟨inside, distinct⟩ := loaded_well_formed loaded
  have some := List.ne_nil_of_mem inside
  refine ⟨?_, ?_, ?_, ?_, ⟨rfl, fun listable => everyone_resolved listable distinct⟩, ?_⟩
  · intro before after option again list listAgain lists listsAgain rewritten
    exact run_relisted alike random otherRandom lists listsAgain rewritten before after
  · intro words wordsAgain asJson names namesAgain job rejectEmpty limit understood again rewritten
    exact run_alike alike random otherRandom understood again fun topology _ =>
      rewritten_nodes rewritten topology
  · intro listable before after asJson job rejectEmpty limit invocation understood again
    have list := everyone_listed listable some
    obtain rfl := read_insert_nodes (.joined _) understood again
    rw [list] at again ⊢
    refine ⟨rfl, run_alike alike random otherRandom understood again fun same reloaded => ?_⟩
    cases loaded.symm.trans reloaded
    exact congrArg distinctNodes (everyone_resolved listable distinct).symm
  · intro words asJson job rejectEmpty limit understood opened
    exact read_append_nodes (.joined _) understood opened
  · intro names n member listed
    obtain ⟨name, -, rfl⟩ := List.mem_map.mp member
    exact handle_listed listed

/-- A program on the node `a` of a cluster of `a` and `b` that draws its own random ids. -/
def drawingHost (first : Nat) : Host :=
  { hostOf pairSnapshotText with ids := fun n => randomId (first + n) }

/-- A list with white space, a blank entry and a repetition prints what the plain one does, and
to name both members is to name nobody. -/
theorem greeted_pair_normalised :
    SamePrintout (drawingHost 0) (drawingHost 7)
        (run (drawingHost 0) ["broadcast", "-jgreet", "--nodes=b,c"])
        (run (drawingHost 7) ["broadcast", "-jgreet", "--nodes", "b, c,,b"]) ∧
      everyoneWord pairTopology = "--nodes=a,b" ∧
      SamePrintout (drawingHost 0) (drawingHost 7) (run (drawingHost 0) ["broadcast", "-jgreet"])
        (run (drawingHost 7) ["broadcast", "-jgreet", "--nodes=a,b"]) ∧
      broadcastNodes pairTopology (some ["a", "b"]) = pairTopology.members := by
  have loaded : (drawingHost 0).load "topology.json" = .ok pairTopology := by decide +kernel
  have random (first : Nat) : RandomIds (drawingHost first).ids := fun n => ⟨first + n, rfl⟩
  have blank (text : String) (empty : Text.trim text = "") : Blank text :=
    (trim_eq_empty_iff text).mp empty
  have spaced : Respelled ["b", "c"] ["b", " c"] := by
    simpa using Respelled.spaced ["b"] [] "c" (blank " " (by decide +kernel)) (blank "" rfl)
  have filled : Respelled ["b", " c"] ["b", " c", ""] := .blank ["b", " c"] [] (blank "" rfl)
  have repeated : Respelled (["b", " c", ""] ++ []) ["b", " c", "", "b"] :=
    .repeated [] (by simp)
  have word : everyoneWord pairTopology = "--nodes=a,b" := by decide +kernel
  have listable : ∀ n ∈ pairTopology.members, Listable n.id.text := by
    simp only [pairTopology, List.forall_mem_cons, Node.ofId]
    exact ⟨⟨by decide, by decide +kernel, by decide⟩, ⟨by decide, by decide +kernel, by decide⟩,
      nofun⟩
  have alike : SameSurroundings (drawingHost 0) (drawingHost 7) := ⟨rfl, rfl, rfl⟩
  have normalised := node_lists_are_normalised alike (random 0) (random 7) loaded
  refine ⟨?_, word, ?_, normalised.members.2 listable⟩
  · have parts : Text.commaParts "b,c" = ["b", "c"] := by decide +kernel
    have again : Text.commaParts "b, c,,b" = ["b", " c", "", "b"] := by decide +kernel
    have same := normalised.relisted ["broadcast", "-jgreet"] [] _ _ "b,c" "b, c,,b" (.joined _)
      (.apart (by decide +kernel))
    rw [parts, again, show nodesWord "b,c" = "--nodes=b,c" by decide +kernel] at same
    exact same (((Relation.ReflTransGen.single spaced).tail filled).tail repeated)
  · obtain ⟨-, same⟩ := normalised.everyone listable ["broadcast", "-jgreet"] [] false
      ⟨"greet", [], "null"⟩ false none
      ⟨"topology.json", false, .broadcast (some ["a", "b"]) ⟨"greet", [], "null"⟩ false none⟩
      (by decide +kernel) (by decide +kernel)
    rwa [word] at same

end Fanout.Console
