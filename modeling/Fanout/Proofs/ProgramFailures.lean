import Fanout.Proofs.NodeNames

/-! How a command line that was understood can fail. What it needs is checked in a fixed
order, some of it by the program and some by the service, and the first thing that is wrong
is what the program reports. It prints all of its result or nothing. Who is a member of the
cluster plays no part: a node that has left is in the result and never a failure. -/
namespace Fanout.Console

/-- The job that a command describes, if it runs one. -/
def Command.job? : Command → Option JobOptions
  | .nodes => none
  | .broadcast _ job _ _ | .submitTo _ job | .submitAny _ job => some job

/-- The failure of a command whose request the service refuses. -/
def Command.refusal : Command → ServiceError → Failure
  | .broadcast _ _ _ _ => .broadcastRefused
  | _ => .submitRefused

/-- The text holds a snapshot that lists every node once and the local one among them. -/
def HoldsTopology (text : String) : Prop :=
  ∃ snapshot, TopologySnapshot.parse text = .ok snapshot ∧
    (snapshot.members.map Node.id).Nodup ∧ snapshot.localId ∈ snapshot.members.map Node.id

/-- What can be wrong with a command line that was understood. -/
inductive Flaw where
  | unreadable
  | noTopology
  | namelessNode
  | badArgs
  | namelessClass
  | namelessUnit
  | nobodyNamed
  | nobodyListed
  deriving DecidableEq, Repr

namespace Flaw

/-- The flaws in the order in which they are looked for. -/
def order : List Flaw :=
  [.unreadable, .noTopology, .namelessNode, .badArgs, .namelessClass, .namelessUnit,
    .nobodyNamed, .nobodyListed]

/-- The place of a flaw in the order. -/
def rank (flaw : Flaw) : Nat := order.idxOf flaw

end Flaw

/-- A command line has a flaw, which is reported as the given failure. -/
inductive Has (host : Host) (invocation : Invocation) : Flaw → Failure → Prop where
  /-- The topology file cannot be read. -/
  | unreadable {reason : String} (unread : host.file invocation.topologyPath = .error reason) :
      Has host invocation .unreadable (.unreadable invocation.topologyPath reason)
  /-- It holds no topology. -/
  | noTopology {text : String} {error : ServiceError}
      (held : host.file invocation.topologyPath = .ok text) (invalid : ¬ HoldsTopology text)
      (refused : Topology.parse text = .error error) :
      Has host invocation .noTopology (.badTopology error)
  /-- The node to submit to has a blank name. -/
  | namelessNode {name : String} {job : JobOptions}
      (asked : invocation.command = .submitTo name job) (blank : Blank name) :
      Has host invocation .namelessNode .namelessNode
  /-- The arguments of the job are no JSON text. -/
  | badArgs {job : JobOptions} {fault : Json.Fault} (asked : invocation.command.job? = some job)
      (malformed : Json.Value.parse job.args = .error fault) :
      Has host invocation .badArgs (.badArgs fault)
  /-- The job has no class. -/
  | namelessClass {job : JobOptions} (asked : invocation.command.job? = some job)
      (blank : Blank job.className) :
      Has host invocation .namelessClass (invocation.command.refusal namelessClass)
  /-- A unit of the job has no name. -/
  | namelessUnit {job : JobOptions} {unit : String} (asked : invocation.command.job? = some job)
      (listed : unit ∈ job.units) (blank : Blank unit) :
      Has host invocation .namelessUnit (invocation.command.refusal namelessUnit)
  /-- An empty broadcast is to be rejected, and all names in its list are blank. -/
  | nobodyNamed {names : List String} {job : JobOptions} {limit : Option Nat}
      (asked : invocation.command = .broadcast (some names) job true limit)
      (blank : ∀ name ∈ names, Blank name) :
      Has host invocation .nobodyNamed (invocation.command.refusal noNodes)
  /-- All names of the nodes to submit to any of are blank. -/
  | nobodyListed {names : List String} {job : JobOptions}
      (asked : invocation.command = .submitAny names job) (blank : ∀ name ∈ names, Blank name) :
      Has host invocation .nobodyListed (invocation.command.refusal noNodes)

/-- What a command prints as its result: the members of the topology, the report of the
broadcast with all its records, or the record of the submit. -/
inductive Prints (host : Host) (topology : Topology) (asJson : Bool) : Command → String → Prop where
  | members : Prints host topology asJson .nodes
      (Listing.render asJson (nodeColumns topology.localNode.id) topology.members)
  | report {names : Option (List String)} {options : JobOptions} {job : JobDescriptor}
      {rejectEmpty : Bool} {limit : Option Nat} {report : BroadcastReport} {later : Journal}
      (described : options.descriptor = .ok job)
      (answered : (host.service topology (broadcastConfig rejectEmpty limit)).broadcast
        ⟨broadcastNodes topology names⟩ job {} = (.ok report, later)) :
      Prints host topology asJson (.broadcast names options rejectEmpty limit)
        (reportText asJson (colorsWanted host.env host.terminal) report)
  | record {name : String} {node : Node} {options : JobOptions} {job : JobDescriptor}
      {e : Execution} {later : Journal} (described : options.descriptor = .ok job)
      (named : resolve topology [name] = [node])
      (answered : (host.service topology {}).submit (.node node) job host.draw {} =
        (.ok e, later)) :
      Prints host topology asJson (.submitTo name options)
        (executionsText asJson (colorsWanted host.env host.terminal) [e])
  | drawn {names : List String} {options : JobOptions} {job : JobDescriptor} {e : Execution}
      {later : Journal} (described : options.descriptor = .ok job)
      (answered : (host.service topology {}).submit (.anyNode (resolve topology names)) job
        host.draw {} = (.ok e, later)) :
      Prints host topology asJson (.submitAny names options)
        (executionsText asJson (colorsWanted host.env host.terminal) [e])

/-- How a command line that was understood ends: with the first flaw that it has, on which
nothing is printed, or with its result if it has none. -/
inductive Ends (host : Host) (invocation : Invocation) : Ending → Prop where
  | fails {flaw : Flaw} {failure : Failure} (has : Has host invocation flaw failure)
      (first : ∀ earlier other, Has host invocation earlier other → flaw.rank ≤ earlier.rank) :
      Ends host invocation (.failed failure)
  | prints {topology : Topology} {text : String}
      (loaded : host.load invocation.topologyPath = .ok topology)
      (prints : Prints host topology invocation.asJson invocation.command text)
      (flawless : ∀ flaw failure, ¬ Has host invocation flaw failure) :
      Ends host invocation (.printed text)

/-- Nothing that is looked for before a place in the order is wrong. -/
def ClearTo (host : Host) (invocation : Invocation) (place : Nat) : Prop :=
  ∀ flaw failure, Has host invocation flaw failure → place ≤ flaw.rank

variable {host other : Host} {invocation : Invocation} {topology : Topology} {flaw : Flaw}
  {failure another : Failure} {options : JobOptions}

/-! ### The order -/

theorem mem_order (flaw : Flaw) : flaw ∈ Flaw.order := by cases flaw <;> decide

theorem rank_injective : Function.Injective Flaw.rank :=
  fun a _ same => (List.idxOf_inj (mem_order a)).mp same

/-- When one more check has passed, the next one is looked at. -/
theorem clear_next (clear : ClearTo host invocation flaw.rank)
    (passed : ∀ failure, ¬ Has host invocation flaw failure) :
    ClearTo host invocation (flaw.rank + 1) := by
  intro later failure has
  refine Nat.lt_of_le_of_ne (clear later failure has) fun same => ?_
  obtain rfl := rank_injective same
  exact passed failure has

theorem fails_at (clear : ClearTo host invocation flaw.rank)
    (has : Has host invocation flaw failure) : Ends host invocation (.failed failure) :=
  .fails has clear

theorem flawless_of_clear (clear : ClearTo host invocation Flaw.order.length) (flaw : Flaw)
    (failure : Failure) : ¬ Has host invocation flaw failure := fun has =>
  absurd (List.idxOf_lt_length_of_mem (mem_order flaw)) (Nat.not_lt.mpr (clear flaw failure has))

theorem has_one_failure (has : Has host invocation flaw failure)
    (too : Has host invocation flaw another) : failure = another := by
  cases has with
  | unreadable unread =>
    cases too with
    | unreadable same =>
      cases unread.symm.trans same
      rfl
  | noTopology held invalid refused =>
    cases too with
    | noTopology same _ again =>
      cases held.symm.trans same
      cases refused.symm.trans again
      rfl
  | badArgs asked malformed =>
    cases too with
    | badArgs same again =>
      cases asked.symm.trans same
      cases malformed.symm.trans again
      rfl
  | namelessNode | namelessClass | namelessUnit | nobodyNamed | nobodyListed =>
    cases too
    rfl

/-! ### The topology -/

/-- A text is accepted exactly if it holds a topology. -/
theorem topology_parses_iff (text : String) :
    (∃ topology, Topology.parse text = .ok topology) ↔ HoldsTopology text := by
  rw [Topology.parse]
  cases held : TopologySnapshot.parse text with
  | error fault =>
    constructor
    · rintro ⟨_, parsed⟩
      cases parsed
    · rintro ⟨_, same, -⟩
      cases held.symm.trans same
  | ok snapshot =>
    constructor
    · rintro ⟨topology, loaded⟩
      obtain ⟨distinct, listed, -⟩ := load_taken_over loaded
      exact ⟨snapshot, held, distinct, listed⟩
    · rintro ⟨_, same, distinct, listed⟩
      cases held.symm.trans same
      exact load_listed distinct listed

theorem load_checked (host : Host) (invocation : Invocation) :
    (∃ failure, host.load invocation.topologyPath = .error failure ∧
      Ends host invocation (.failed failure)) ∨
    ∃ topology, host.load invocation.topologyPath = .ok topology ∧ topology.members ≠ [] ∧
      ClearTo host invocation Flaw.namelessNode.rank := by
  have clear : ClearTo host invocation Flaw.unreadable.rank := fun _ _ _ => Nat.zero_le _
  cases found : host.file invocation.topologyPath with
  | error reason =>
    refine .inl ⟨_, ?_, fails_at clear (.unreadable found)⟩
    simp only [Host.load, found]
  | ok text =>
    have clear : ClearTo host invocation Flaw.noTopology.rank := clear_next clear fun _ has => by
      cases has with
      | unreadable unread => cases found.symm.trans unread
    cases parsed : Topology.parse text with
    | error error =>
      have invalid : ¬ HoldsTopology text := fun holds => by
        obtain ⟨_, same⟩ := (topology_parses_iff text).mpr holds
        cases parsed.symm.trans same
      refine .inl ⟨_, ?_, fails_at clear (.noTopology found invalid parsed)⟩
      simp only [Host.load, found, parsed]
    | ok topology =>
      have loaded : host.load invocation.topologyPath = .ok topology := by
        simp only [Host.load, found, parsed]
      refine .inr ⟨topology, loaded, List.ne_nil_of_mem (loaded_well_formed loaded).1,
        clear_next clear fun _ has => ?_⟩
      cases has with
      | noTopology same invalid =>
        cases found.symm.trans same
        exact invalid ((topology_parses_iff text).mp ⟨topology, parsed⟩)

/-! ### The job -/

theorem class_passed (asked : invocation.command.job? = some options)
    (clear : ClearTo host invocation Flaw.namelessClass.rank) (named : ¬ Blank options.className) :
    ClearTo host invocation Flaw.namelessUnit.rank :=
  clear_next clear fun _ has => by
    cases has with
    | namelessClass same blank =>
      cases asked.symm.trans same
      exact named blank

/-- The job is looked at next, its arguments by the program and its names by the service. -/
theorem job_checked (asked : invocation.command.job? = some options)
    (clear : ClearTo host invocation Flaw.badArgs.rank) :
    (∃ failure, options.descriptor = .error failure ∧ Ends host invocation (.failed failure)) ∨
    ∃ job, options.descriptor = .ok job ∧
      ((∃ violation, job.validate = .error violation ∧
          Ends host invocation (.failed (invocation.command.refusal (.domain violation)))) ∨
        job.validate = .ok () ∧ ClearTo host invocation Flaw.nobodyNamed.rank) := by
  cases parsed : Json.Value.parse options.args with
  | error fault =>
    refine .inl ⟨_, ?_, fails_at clear (.badArgs asked parsed)⟩
    simp only [JobOptions.descriptor, parsed]
  | ok args =>
    have clear : ClearTo host invocation Flaw.namelessClass.rank :=
      clear_next clear fun _ has => by
        cases has with
        | badArgs same malformed =>
          cases asked.symm.trans same
          cases parsed.symm.trans malformed
    refine .inr ⟨⟨options.className, options.units, args⟩, ?_, ?_⟩
    · simp only [JobOptions.descriptor, parsed]
    rcases validate_decided ⟨options.className, options.units, args⟩ with
      ⟨blank, invalid⟩ | ⟨named, ⟨unit, listed, blank⟩, invalid⟩ | ⟨named, valid⟩
    · exact .inl ⟨_, invalid, fails_at clear (.namelessClass asked blank)⟩
    · have clear := class_passed asked clear named
      exact .inl ⟨_, invalid, fails_at clear (.namelessUnit asked listed blank)⟩
    · have clear := class_passed asked clear named.1
      refine .inr ⟨valid, clear_next clear fun _ has => ?_⟩
      cases has with
      | namelessUnit same listed blank =>
        cases asked.symm.trans same
        exact named.2 ⟨_, listed, blank⟩

/-! ### The requests -/

/-- A broadcast that has a report prints it, and the last two checks have passed as well. -/
theorem broadcast_prints {names : Option (List String)} {rejectEmpty : Bool} {limit : Option Nat}
    {job : JobDescriptor} {report : BroadcastReport} {later : Journal}
    (asked : invocation.command = .broadcast names options rejectEmpty limit)
    (loaded : host.load invocation.topologyPath = .ok topology)
    (described : options.descriptor = .ok job)
    (answered : (host.service topology (broadcastConfig rejectEmpty limit)).broadcast
      ⟨broadcastNodes topology names⟩ job {} = (.ok report, later))
    (clear : ClearTo host invocation Flaw.nobodyNamed.rank)
    (passed : ∀ failure, ¬ Has host invocation .nobodyNamed failure) :
    Ends host invocation
      (.printed (reportText invocation.asJson (colorsWanted host.env host.terminal) report)) := by
  have clear : ClearTo host invocation Flaw.nobodyListed.rank := clear_next clear passed
  have clear : ClearTo host invocation Flaw.order.length := clear_next clear fun _ has => by
    cases has with
    | nobodyListed other => cases asked.symm.trans other
  exact .prints loaded (asked ▸ .report described answered) (flawless_of_clear clear)

/-- A broadcast fails by a check of its own when it names nobody and must not. The service is
asked in any case, and the course of its answer shows which check has failed. -/
theorem broadcast_ends {names : Option (List String)} {rejectEmpty : Bool} {limit : Option Nat}
    (asked : invocation.command = .broadcast names options rejectEmpty limit)
    (loaded : host.load invocation.topologyPath = .ok topology) (listed : topology.members ≠ [])
    (within : ∀ n, limit = some n → n ≤ maxPermits)
    (clear : ClearTo host invocation Flaw.badArgs.rank) :
    Ends host invocation (host.broadcast topology invocation.asJson
      (broadcastNodes topology names) options (broadcastConfig rejectEmpty limit)) := by
  have jobAsked : invocation.command.job? = some options := asked ▸ rfl
  rcases job_checked jobAsked clear with
    ⟨failure, refused, ends⟩ | ⟨job, described, ⟨violation, invalid, ends⟩ | ⟨valid, clear⟩⟩
  · simpa only [Host.broadcast, refused] using ends
  all_goals
    simp only [Host.broadcast, described]
    cases answered : (host.service topology (broadcastConfig rejectEmpty limit)).broadcast
      ⟨broadcastNodes topology names⟩ job {} with
    | mk answer later => ?_
  · cases broadcast_course answered with
    | invalid refused =>
      cases invalid.symm.trans refused
      rwa [asked] at ends
    | _ valid => cases invalid.symm.trans valid
  · cases broadcast_course answered with
    | invalid refused => cases valid.symm.trans refused
    | stopped _ _ exceeds =>
      have within : exceedsPermits limit = false := within_permits.mpr within
      cases within.symm.trans exceeds
    | ran _ named =>
      refine broadcast_prints asked loaded described answered clear fun _ has => ?_
      cases has with
      | nobodyNamed other blank =>
        cases asked.symm.trans other
        exact named (resolve_eq_nil_iff.mpr blank)
    | nobody _ unnamed =>
      cases rejectEmpty with
      | false =>
        refine broadcast_prints asked loaded described answered clear fun _ has => ?_
        cases has with
        | nobodyNamed other => cases asked.symm.trans other
      | true =>
        cases names with
        | none => exact absurd unnamed listed
        | some names =>
          have has : Has host invocation .nobodyNamed (invocation.command.refusal noNodes) :=
            .nobodyNamed asked (resolve_eq_nil_iff.mp unnamed)
          rw [asked] at has
          exact fails_at clear has

/-- A submit fails by a check of its own when there is nobody to submit to. -/
theorem submit_ends {target : JobTarget} (asked : invocation.command.job? = some options)
    (refusal : invocation.command.refusal = .submitRefused)
    (loaded : host.load invocation.topologyPath = .ok topology)
    (passed : ∀ failure, ¬ Has host invocation .nobodyNamed failure)
    (nobody : (∃ failure, Has host invocation .nobodyListed failure) ↔ target = .anyNode [])
    (prints : ∀ job e later, options.descriptor = .ok job →
      (host.service topology {}).submit target job host.draw {} = (.ok e, later) →
      Prints host topology invocation.asJson invocation.command
        (executionsText invocation.asJson (colorsWanted host.env host.terminal) [e]))
    (clear : ClearTo host invocation Flaw.badArgs.rank) :
    Ends host invocation (host.submit topology invocation.asJson target options) := by
  rcases job_checked asked clear with
    ⟨failure, refused, ends⟩ | ⟨job, described, ⟨violation, invalid, ends⟩ | ⟨valid, clear⟩⟩
  · simpa only [Host.submit, refused] using ends
  all_goals
    simp only [Host.submit, described]
    cases answered : (host.service topology {}).submit target job host.draw {} with
    | mk answer later => ?_
  · cases submit_course answered with
    | invalid refused =>
      cases invalid.symm.trans refused
      rwa [refusal] at ends
    | _ valid => cases invalid.symm.trans valid
  · have clear : ClearTo host invocation Flaw.nobodyListed.rank := clear_next clear passed
    cases submit_course answered with
    | invalid refused => cases valid.symm.trans refused
    | nobody _ unnamed =>
      obtain ⟨failure, has⟩ := nobody.mpr unnamed
      have same : failure = .submitRefused noNodes := by
        rw [← refusal]
        cases has
        rfl
      exact fails_at clear (same ▸ has)
    | ran _ named =>
      have clear : ClearTo host invocation Flaw.order.length :=
        clear_next clear fun failure has => named (nobody.mp ⟨failure, has⟩)
      exact .prints loaded (prints _ _ _ described answered) (flawless_of_clear clear)

theorem resolve_one {name : String} {node : Node} {rest : List Node}
    (named : resolve topology [name] = node :: rest) : rest = [] := by
  have few : (resolve topology [name]).length ≤ 1 := by
    rw [resolve_eq, List.length_map]
    exact List.length_filter_le _ _
  rw [named] at few
  exact List.length_eq_zero_iff.mp (Nat.le_zero.mp (Nat.le_of_succ_le_succ few))

/-- A command line that was understood ends as it should, whatever its command is. -/
theorem run_ends {words : List String}
    (understood : Invocation.read host.env words = .ok invocation)
    (within : ∀ names job rejectEmpty n,
      invocation.command = .broadcast names job rejectEmpty (some n) → n ≤ maxPermits) :
    Ends host invocation (run host words) := by
  simp only [run, understood, Invocation.run]
  rcases load_checked host invocation with
    ⟨failure, unloaded, ends⟩ | ⟨topology, loaded, listed, clear⟩
  · simpa only [unloaded] using ends
  simp only [loaded]
  have named (other : ∀ name job, invocation.command ≠ .submitTo name job) :
      ClearTo host invocation Flaw.badArgs.rank := clear_next clear fun _ has => by
    cases has with
    | namelessNode asked => exact other _ _ asked
  cases asked : invocation.command with
  | nodes =>
    refine .prints loaded (asked ▸ .members) fun flaw failure has => ?_
    have late := clear flaw failure has
    cases has with
    | unreadable | noTopology => exact absurd late (by decide)
    | badArgs other | namelessClass other | namelessUnit other =>
      rw [asked] at other
      cases other
    | namelessNode other | nobodyNamed other | nobodyListed other => cases asked.symm.trans other
  | broadcast names options rejectEmpty limit =>
    refine broadcast_ends asked loaded listed ?_ (named (by simp [asked]))
    rintro n rfl
    exact within _ _ _ n asked
  | submitTo name options =>
    cases found : resolve topology [name] with
    | nil =>
      simp only [Host.perform, found]
      exact fails_at clear (.namelessNode asked (by simpa using resolve_eq_nil_iff.mp found))
    | cons node rest =>
      obtain rfl := resolve_one found
      simp only [Host.perform, found]
      refine submit_ends (asked ▸ rfl) (by rw [asked]; rfl) loaded (fun _ has => ?_)
        (iff_of_false ?_ nofun) (fun job e later described answered =>
          asked ▸ .record described found answered) (clear_next clear fun _ has => ?_)
      · cases has with
        | nobodyNamed other => cases asked.symm.trans other
      · rintro ⟨_, has⟩
        cases has with
        | nobodyListed other => cases asked.symm.trans other
      · cases has with
        | namelessNode other blank =>
          cases asked.symm.trans other
          have none : resolve topology [name] = [] :=
            resolve_eq_nil_iff.mpr (List.forall_mem_singleton.mpr blank)
          cases found.symm.trans none
  | submitAny names options =>
    refine submit_ends (asked ▸ rfl) (by rw [asked]; rfl) loaded (fun _ has => ?_) ⟨?_, ?_⟩
      (fun job e later described answered => asked ▸ .drawn described answered)
      (named (by simp [asked]))
    · cases has with
      | nobodyNamed other => cases asked.symm.trans other
    · rintro ⟨_, has⟩
      cases has with
      | nobodyListed other blank =>
        cases asked.symm.trans other
        rw [resolve_eq_nil_iff.mpr blank]
    · intro nobody
      exact ⟨_, .nobodyListed asked (resolve_eq_nil_iff.mp (JobTarget.anyNode.inj nobody))⟩

/-- A flaw does not turn on who the members are, once a topology was loaded: what is left
is in the command line. -/
theorem has_elsewhere (loaded : host.load invocation.topologyPath = .ok topology)
    (has : Has host invocation flaw failure) : Has other invocation flaw failure := by
  cases has with
  | unreadable unread =>
    simp only [Host.load, unread] at loaded
    cases loaded
  | noTopology held _ refused =>
    simp only [Host.load, held, refused] at loaded
    cases loaded
  | namelessNode asked blank => exact .namelessNode asked blank
  | badArgs asked malformed => exact .badArgs asked malformed
  | namelessClass asked blank => exact .namelessClass asked blank
  | namelessUnit asked listed blank => exact .namelessUnit asked listed blank
  | nobodyNamed asked blank => exact .nobodyNamed asked blank
  | nobodyListed asked blank => exact .nobodyListed asked blank

/-- An ending that is a failure is reported by its first flaw. -/
theorem ends_failed_iff {ending : Ending} (ends : Ends host invocation ending) :
    ending = .failed failure ↔ ∃ flaw, Has host invocation flaw failure ∧
      ∀ earlier other, Has host invocation earlier other → flaw.rank ≤ earlier.rank := by
  cases ends with
  | prints _ _ flawless => exact iff_of_false nofun fun ⟨flaw, has, _⟩ => flawless flaw _ has
  | @fails flaw _ has first =>
    constructor
    · intro same
      cases same
      exact ⟨flaw, has, first⟩
    · rintro ⟨leading, too, least⟩
      have same := rank_injective (Nat.le_antisymm (first _ _ too) (least _ _ has))
      subst same
      rw [has_one_failure has too]

theorem ends_well_iff {ending : Ending} (ends : Ends host invocation ending) :
    ending.exitCode = 0 ↔ ∀ flaw failure, ¬ Has host invocation flaw failure := by
  cases ends with
  | fails has => exact iff_of_false nofun fun flawless => flawless _ _ has
  | prints _ _ flawless => exact iff_of_true rfl flawless

theorem ends_silently {ending : Ending} (ends : Ends host invocation ending)
    (badly : ending.exitCode ≠ 0) : ending.exitCode = 1 ∧ ending.output = "" := by
  cases ends with
  | fails => exact ⟨rfl, rfl⟩
  | prints => exact absurd rfl badly

/-- **The first flaw is reported, and nothing else goes wrong.** A command line that was
understood, with a limit for which there are permits, ends with its first flaw or with its
result. It succeeds exactly if it has no flaw, and prints nothing if it has one. Who is a
member makes no difference to the failure, so a node that has left is none. -/
theorem first_flaw_is_reported {words : List String}
    (understood : Invocation.read host.env words = .ok invocation)
    (within : ∀ names job rejectEmpty n,
      invocation.command = .broadcast names job rejectEmpty (some n) → n ≤ maxPermits) :
    Ends host invocation (run host words) ∧
    ((run host words).exitCode = 0 ↔ ∀ flaw failure, ¬ Has host invocation flaw failure) ∧
    ((run host words).exitCode ≠ 0 →
      (run host words).exitCode = 1 ∧ (run host words).output = "") ∧
    ∀ other : Host, other.env = host.env → ∀ topology neighbors,
      host.load invocation.topologyPath = .ok topology →
      other.load invocation.topologyPath = .ok neighbors →
      ∀ failure, run host words = .failed failure ↔ run other words = .failed failure := by
  have ends := run_ends understood within
  refine ⟨ends, ends_well_iff ends, ends_silently ends, ?_⟩
  intro other sameEnv topology neighbors loaded elsewhere failure
  have alike (flaw : Flaw) (failure : Failure) :
      Has host invocation flaw failure ↔ Has other invocation flaw failure :=
    ⟨has_elsewhere loaded, has_elsewhere elsewhere⟩
  rw [ends_failed_iff ends, ends_failed_iff (run_ends (sameEnv ▸ understood) within)]
  simp only [alike]

/-- The surroundings of a program with one text in every file. -/
def hostOf (text : String) : Host where
  env _ := none
  file _ := .ok text
  ids n := toString n
  clock _ := 0

/-- A broadcast to nobody of a job whose arguments are unfinished and one of whose units has no
name. -/
def flawedBroadcast : Invocation :=
  ⟨"topology.json", false, .broadcast (some [" ", ""]) ⟨"greet", ["u", ""], "["⟩ true none⟩

def flawedWords : List String :=
  ["broadcast", "--nodes", " ,", "--reject-empty", "-jgreet", "--units=u,", "--args", "["]

/-- The node `a`, the local one, and the node `b`. -/
def pairSnapshotText : String :=
  "\x7b\"local\":\"a\",\"members\":[\x7b\"id\":\"a\",\"name\":\"a\"\x7d,\x7b\"id\":\"b\",\"name\":\"b\"\x7d]\x7d"

/-- Of three flaws the first one is reported, the unfinished arguments, whoever the members
are. -/
theorem flawed_broadcast_reported :
    Invocation.read (hostOf loneSnapshotText).env flawedWords = .ok flawedBroadcast ∧
    Has (hostOf loneSnapshotText) flawedBroadcast .badArgs (.badArgs .eof) ∧
    Has (hostOf loneSnapshotText) flawedBroadcast .namelessUnit (.broadcastRefused namelessUnit) ∧
    Has (hostOf loneSnapshotText) flawedBroadcast .nobodyNamed (.broadcastRefused noNodes) ∧
    Ends (hostOf loneSnapshotText) flawedBroadcast (run (hostOf loneSnapshotText) flawedWords) ∧
    (run (hostOf loneSnapshotText) flawedWords).output = "" ∧
    run (hostOf pairSnapshotText) flawedWords = .failed (.badArgs .eof) := by
  have understood :
      Invocation.read (hostOf loneSnapshotText).env flawedWords = .ok flawedBroadcast := by
    decide +kernel
  have unit : Has (hostOf loneSnapshotText) flawedBroadcast .namelessUnit
      (.broadcastRefused namelessUnit) :=
    @Has.namelessUnit _ _ _ "" rfl (by simp) nofun
  have args : Has (hostOf loneSnapshotText) flawedBroadcast .badArgs (.badArgs .eof) :=
    .badArgs rfl rfl
  obtain ⟨ends, well, silently, elsewhere⟩ :=
    first_flaw_is_reported understood (by simp [flawedBroadcast])
  have badly : (run (hostOf loneSnapshotText) flawedWords).exitCode ≠ 0 := fun zero =>
    well.mp zero _ _ unit
  have reported : run (hostOf loneSnapshotText) flawedWords = .failed (.badArgs .eof) := by
    decide +kernel
  have lone : (hostOf loneSnapshotText).load "topology.json" = .ok ⟨.ofId "b", [.ofId "b"]⟩ := by
    decide +kernel
  have pair : (hostOf pairSnapshotText).load "topology.json" =
      .ok ⟨.ofId "a", [.ofId "a", .ofId "b"]⟩ := by
    decide +kernel
  refine ⟨understood, args, unit, .nobodyNamed rfl ?_, ends, (silently badly).2,
    (elsewhere (hostOf pairSnapshotText) rfl _ _ lone pair _).mp reported⟩
  intro name listed
  refine (trim_eq_empty_iff name).mp ?_
  simp only [List.mem_cons, List.not_mem_nil, or_false] at listed
  rcases listed with rfl | rfl <;> decide +kernel

end Fanout.Console
