import Fanout.Proofs.RequestCourses
import Fanout.Service.Session
import Mathlib.Data.List.TakeWhile

/-! How a request is decided. The names of the job are looked at first, then a broadcast
looks at its target before it reads the topology, and a submit after. Only a broadcast can
stop the program, and that at one place. Nothing that happens on a node decides anything:
the errors below are all that a request is ever refused with. -/
namespace Fanout

namespace JobDescriptor

/-- The class has no name: nothing but white space stands for it. -/
def BlankClass (job : JobDescriptor) : Prop := ∀ c ∈ job.className.toList, Text.isSpace c = true

/-- Some unit has no name. -/
def BlankUnit (job : JobDescriptor) : Prop :=
  ∃ unit ∈ job.units, ∀ c ∈ unit.toList, Text.isSpace c = true

/-- The class and every unit have a name. -/
def Named (job : JobDescriptor) : Prop := ¬ job.BlankClass ∧ ¬ job.BlankUnit

end JobDescriptor

/-- The refusal of a job without a class name. -/
def namelessClass : ServiceError := .domain (.invalidValue "job class name cannot be empty")

/-- The refusal of a job with a unit without a name. -/
def namelessUnit : ServiceError := .domain (.invalidValue "deployment unit name cannot be empty")

/-- The error with which a request is refused, if it is. -/
def Answer.refusal? : Answer → Option ServiceError
  | .broadcast (.error (.refused error)) => some error
  | .submit (.error error) => some error
  | .setTopology (.error error) => some error
  | _ => none

/-- What both kinds of requests do about a job, with the journals before and after, and
what neither of them is ever refused with. -/
structure Checked (job : JobDescriptor) (w later : Journal) (refusal : Option ServiceError) :
    Prop where
  /-- The class is looked at first and the units after it. Either refusal leaves everything
  as it was, so the topology has not been read. -/
  blankClass : job.BlankClass → refusal = some namelessClass ∧ later = w
  blankUnit : ¬ job.BlankClass → job.BlankUnit → refusal = some namelessUnit ∧ later = w
  /-- There is one other error, and there are no more. -/
  known : ∀ error, refusal = some error →
    error = namelessClass ∨ error = namelessUnit ∨ error = noNodes
  neverInternal : ∀ reason, refusal ≠ some (.internal reason)
  neverTransition : ∀ source target, refusal ≠ some (.domain (.invalidTransition source target))

/-- How a broadcast is decided. -/
structure BroadcastDecided (s : Service) (target : BroadcastTarget Node) (job : JobDescriptor)
    (w : Journal) (out : Except BroadcastFailure BroadcastReport × Journal) : Prop
    extends Checked job w out.2 (Answer.broadcast out.1).refusal? where
  /-- A target without nodes is treated as configured, without a look at the topology. -/
  rejected : job.Named → target.nodes = [] → s.config.emptyPolicy = .reject →
    out = (.error (.refused noNodes), w)
  allowed : job.Named → target.nodes = [] → s.config.emptyPolicy = .allow →
    out = (.ok ⟨target.kind, []⟩, w)
  /-- For any other target the topology is read, the local node once and the members once. -/
  reads : job.Named → target.nodes ≠ [] →
    Effect.reads (out.2.since w) = [.readLocal, .readMembers]
  /-- Then the program stops exactly if there cannot be as many permits as the limit asks
  for, and otherwise there is a report. -/
  stopped : job.Named → target.nodes ≠ [] →
    (out.1 = .error .tooManyPermits ↔ ∃ n, s.config.maxParallel = some n ∧ maxPermits < n)
  reported : job.Named → target.nodes ≠ [] →
    (∀ n, s.config.maxParallel = some n → n ≤ maxPermits) → ∃ report, out.1 = .ok report

/-- How a submit is decided. -/
structure SubmitDecided (target : JobTarget) (job : JobDescriptor) (w : Journal)
    (out : RunResult × Journal) : Prop
    extends Checked job w out.2 (Answer.submit out.1).refusal? where
  /-- The topology is read, the local node once and the members once, -/
  reads : job.Named → Effect.reads (out.2.since w) = [.readLocal, .readMembers]
  /-- and then a target without candidates is refused. For any other there is a record. -/
  nobody : job.Named → target = .anyNode [] → out.1 = .error noNodes
  recorded : job.Named → target ≠ .anyNode [] → ∃ e, out.1 = .ok e

variable {s : Service} {job : JobDescriptor} {w later : Journal}

/-! ### Names -/

/-- A name is blank exactly if nothing is left of it without the white space at its ends. -/
theorem trim_eq_empty_iff (name : String) :
    Text.trim name = "" ↔ ∀ c ∈ name.toList, Text.isSpace c = true := by
  have inner : (∀ c ∈ name.toList.dropWhile Text.isSpace, Text.isSpace c = true) ↔
      ∀ c ∈ name.toList, Text.isSpace c = true := by
    constructor
    · intro blank c member
      rw [← List.takeWhile_append_dropWhile (p := Text.isSpace) (l := name.toList)] at member
      rcases List.mem_append.mp member with lead | rest
      · exact List.mem_takeWhile_imp lead
      · exact blank c rest
    · intro blank c member
      exact blank c ((List.dropWhile_suffix _).subset member)
  rw [Text.trim, Text.trimChars, ← inner]
  simp [List.dropWhile_eq_nil_iff]

theorem validate_decided (job : JobDescriptor) :
    job.BlankClass ∧
        job.validate = .error (.invalidValue "job class name cannot be empty") ∨
      ¬ job.BlankClass ∧ job.BlankUnit ∧
        job.validate = .error (.invalidValue "deployment unit name cannot be empty") ∨
      job.Named ∧ job.validate = .ok () := by
  have className := Text.isBlank_iff job.className
  have units : job.units.any Text.isBlank = true ↔ job.BlankUnit := by
    simp only [List.any_eq_true, Text.isBlank_iff, JobDescriptor.BlankUnit]
  unfold JobDescriptor.validate
  split
  · rename_i blank
    exact .inl ⟨className.mp blank, rfl⟩
  · rename_i named
    have named := fun blank => named (className.mpr blank)
    split
    · rename_i blank
      exact .inr (.inl ⟨named, units.mp blank, rfl⟩)
    · rename_i complete
      exact .inr (.inr ⟨⟨named, fun blank => complete (units.mpr blank)⟩, rfl⟩)

theorem validate_eq_ok_iff (job : JobDescriptor) : job.validate = .ok () ↔ job.Named := by
  rcases validate_decided job with ⟨blank, invalid⟩ | ⟨-, blank, invalid⟩ | ⟨named, valid⟩
  · rw [invalid]
    exact iff_of_false nofun fun named => named.1 blank
  · rw [invalid]
    exact iff_of_false nofun fun named => named.2 blank
  · exact iff_of_true valid named

/-- A request that refuses what the check of the job refuses, and otherwise nothing but a
target that names nobody, has checked the job as it should. -/
theorem checked_of_validate {refusal : Option ServiceError}
    (refused : ∀ violation, job.validate = .error violation →
      refusal = some (.domain violation) ∧ later = w)
    (passed : job.validate = .ok () → refusal = none ∨ refusal = some noNodes) :
    Checked job w later refusal := by
  have known : ∀ error, refusal = some error →
      error = namelessClass ∨ error = namelessUnit ∨ error = noNodes := by
    intro error same
    rcases validate_decided job with ⟨-, invalid⟩ | ⟨-, -, invalid⟩ | ⟨-, valid⟩
    · exact .inl (Option.some.inj (same.symm.trans (refused _ invalid).1))
    · exact .inr (.inl (Option.some.inj (same.symm.trans (refused _ invalid).1)))
    · rcases passed valid with none | nobody
      · rw [none] at same
        cases same
      · exact .inr (.inr (Option.some.inj (same.symm.trans nobody)))
  refine ⟨?_, ?_, known, ?_, ?_⟩
  · intro blank
    rcases validate_decided job with ⟨-, invalid⟩ | ⟨named, -⟩ | ⟨named, -⟩
    · exact refused _ invalid
    · exact absurd blank named
    · exact absurd blank named.1
  · intro named blank
    rcases validate_decided job with ⟨other, -⟩ | ⟨-, -, invalid⟩ | ⟨complete, -⟩
    · exact absurd other named
    · exact refused _ invalid
    · exact absurd blank complete.2
  · intro reason same
    have listed := known _ same
    simp [namelessClass, namelessUnit, noNodes] at listed
  · intro source target same
    have listed := known _ same
    simp [namelessClass, namelessUnit, noNodes] at listed

theorem checked_invalid {violation : Violation} (refused : job.validate = .error violation)
    (w : Journal) : Checked job w w (some (.domain violation)) := by
  refine checked_of_validate (fun other same => ?_) fun valid => ?_
  · cases refused.symm.trans same
    exact ⟨rfl, rfl⟩
  · cases refused.symm.trans valid

theorem checked_valid (valid : job.validate = .ok ()) {refusal : Option ServiceError}
    (passed : refusal = none ∨ refusal = some noNodes) (w later : Journal) :
    Checked job w later refusal :=
  checked_of_validate (fun _ same => by cases valid.symm.trans same) fun _ => passed

theorem unnamed_of_invalid {violation : Violation} (refused : job.validate = .error violation) :
    ¬ job.Named := by
  rw [← validate_eq_ok_iff, refused]
  nofun

/-! ### Reads of the topology -/

/-- The runs of a broadcast never read the topology again. -/
theorem run_all_reads (s : Service) (view : View) (job : JobDescriptor) (limit : Option Nat)
    (nodes : List Node) (w : Journal) :
    ∃ more, (s.runAll view job limit nodes w).2.effects = w.effects ++ more ∧
      Effect.reads more = [] := by
  obtain ⟨last, trail, -, journal⟩ := run_all_trail s view job limit nodes w
  obtain ⟨more, extended, unread, -⟩ :=
    trail_effects trail fun _ reached _ => reachable_openCalls_le reached
  exact ⟨more, journal ▸ extended, unread⟩

theorem run_one_reads (s : Service) (view : View) (job : JobDescriptor) (node : Node)
    (w : Journal) :
    ∃ more, (s.runOne view job node w).2.effects = w.effects ++ more ∧
      Effect.reads more = [] := by
  have silent (begun : Begun) : Effect.reads (begun.calls.map .callBegun) = [] := by
    cases begun <;> rfl
  simp only [Service.runOne]
  split
  · rename_i result later begins
    obtain ⟨-, -, effects⟩ := begin_run_adds begins
    exact ⟨_, effects, silent _⟩
  · rename_i run between begins
    obtain ⟨-, -, effects⟩ := begin_run_adds begins
    cases finishes : s.finishRun run between with
    | mk result later =>
      rw [Service.finish_journal finishes, effects]
      refine ⟨_, List.append_assoc .., ?_⟩
      rw [Effect.reads_append, silent]
      rfl

/-- A request that goes on without another read has read the topology once. -/
theorem reads_once {more : List Effect} (extended : later.effects = w.afterReads.effects ++ more)
    (unread : Effect.reads more = []) :
    Effect.reads (later.since w) = [.readLocal, .readMembers] := by
  rw [afterReads_effects, List.append_assoc] at extended
  rw [Journal.since_eq extended, Effect.reads_append, unread]
  rfl

/-! ### Both requests -/

theorem exceeds_permits_iff (limit : Option Nat) :
    exceedsPermits limit = true ↔ ∃ n, limit = some n ∧ maxPermits < n := by
  cases limit <;> simp [exceedsPermits]

theorem broadcast_decided (s : Service) (target : BroadcastTarget Node) (job : JobDescriptor)
    (w : Journal) : BroadcastDecided s target job w (s.broadcast target job w) := by
  cases answered : s.broadcast target job w with
  | mk answer later =>
    cases broadcast_course answered with
    | invalid refused =>
      have unnamed := unnamed_of_invalid refused
      refine ⟨checked_invalid refused w, ?_, ?_, ?_, ?_, ?_⟩ <;>
        exact fun named => absurd named unnamed
    | nobody valid unnamed =>
      have passed : (Answer.broadcast (s.broadcastNone target.kind)).refusal? = none ∨
          (Answer.broadcast (s.broadcastNone target.kind)).refusal? = some noNodes := by
        cases policy : s.config.emptyPolicy <;>
          simp [Service.broadcastNone, policy, Answer.refusal?]
      refine ⟨checked_valid valid passed w w, ?_, ?_, fun _ named => absurd unnamed named,
        fun _ named => absurd unnamed named, fun _ named => absurd unnamed named⟩
      · intro _ _ reject
        simp only [Service.broadcastNone, reject]
      · intro _ _ allow
        simp only [Service.broadcastNone, allow]
    | stopped valid named exceeds =>
      refine ⟨checked_valid valid (.inl rfl) w _, fun _ unnamed => absurd unnamed named,
        fun _ unnamed => absurd unnamed named, fun _ _ => reads_once (List.append_nil _).symm rfl,
        fun _ _ => iff_of_true rfl ((exceeds_permits_iff _).mp exceeds), ?_⟩
      intro _ _ within
      rw [within_permits.mpr within] at exceeds
      cases exceeds
    | ran valid named within results nodes =>
      obtain ⟨more, extended, unread⟩ := run_all_reads s s.view job s.config.maxParallel
        (distinctNodes target.nodes) w.afterReads
      refine ⟨checked_valid valid (.inl rfl) w _, fun _ unnamed => absurd unnamed named,
        fun _ unnamed => absurd unnamed named, fun _ _ => reads_once extended unread, ?_,
        fun _ _ _ => ⟨_, rfl⟩⟩
      intro _ _
      refine iff_of_false (fun stop => by cases stop) ?_
      rw [← exceeds_permits_iff, within]
      exact Bool.false_ne_true

theorem submit_decided (s : Service) (target : JobTarget) (job : JobDescriptor) (draw : Nat)
    (w : Journal) : SubmitDecided target job w (s.submit target job draw w) := by
  cases answered : s.submit target job draw w with
  | mk answer later =>
    cases submit_course answered with
    | invalid refused =>
      have unnamed := unnamed_of_invalid refused
      refine ⟨checked_invalid refused w, ?_, ?_, ?_⟩ <;>
        exact fun named => absurd named unnamed
    | nobody valid unnamed =>
      exact ⟨checked_valid valid (.inr rfl) w _, fun _ => reads_once (List.append_nil _).symm rfl,
        fun _ _ => rfl, fun _ named => absurd unnamed named⟩
    | @ran node e _ valid named run =>
      obtain ⟨more, extended, unread⟩ := run_one_reads s s.view job node w.afterReads
      rw [run] at extended
      exact ⟨checked_valid valid (.inl rfl) w _, fun _ => reads_once extended unread,
        fun _ unnamed => absurd unnamed named, fun _ _ => ⟨e, rfl⟩⟩

/-- **Every request is decided** by its job, its target and the configuration, in this
order and in no other way. Whatever the order of the runs of a broadcast, none of them
refuses it. -/
theorem every_request_decided (s : Service) (job : JobDescriptor) (w : Journal) :
    (∀ target, BroadcastDecided s target job w (s.broadcast target job w)) ∧
    (∀ target draw, SubmitDecided target job w (s.submit target job draw w)) ∧
    (∀ name, (∀ c ∈ name.toList, Text.isSpace c = true) ↔ Text.trim name = "") ∧
    ∀ view permits nodes floor results,
      Reachable s view job (.entry permits nodes w) floor → floor.EndedWith results →
      ∃ records, collect results = .ok records := by
  refine ⟨fun target => broadcast_decided s target job w,
    fun target draw => submit_decided s target job draw w,
    fun name => (trim_eq_empty_iff name).symm, ?_⟩
  intro view permits nodes floor results reached ended
  obtain ⟨records, rfl, -, -⟩ := ended_records reached ended
  exact ⟨records, collect_records records⟩

/-- With a limit that asks for too many permits, a job without names is refused for its
class, whatever the target. A named one for nobody has an empty report, and for some nodes
it stops the program after the topology was read. A submit does not mind the limit, nor do
the runs. -/
theorem crowded_greeting_decided :
    let s := pairService (some (maxPermits + 1)) 2
    let greeting : JobDescriptor := ⟨"greet", [], .null⟩
    let nobody : BroadcastTarget Node := ⟨[]⟩
    (Answer.broadcast (s.broadcast nobody ⟨" ", [""], .null⟩ {}).1).refusal? =
        some namelessClass ∧
      s.broadcast nobody greeting {} = (.ok ⟨nobody.kind, []⟩, {}) ∧
      (s.broadcast mixedTarget greeting {}).1 = .error .tooManyPermits ∧
      Effect.reads ((s.broadcast mixedTarget greeting {}).2.since {}) =
        [.readLocal, .readMembers] ∧
      (∃ e, (s.submit (.node (.ofId "c")) greeting 0 {}).1 = .ok e) ∧
      ∃ records, collect (s.runAll s.view greeting (some (maxPermits + 1))
        (distinctNodes mixedTarget.nodes) {}).1 = .ok records := by
  intro s greeting nobody
  have valid : JobDescriptor.validate ⟨"greet", [], .null⟩ = .ok () := rfl
  have named : greeting.Named := (validate_eq_ok_iff greeting).mp valid
  have filled : mixedTarget.nodes ≠ [] := by decide
  obtain ⟨nameless, -, -, -⟩ := every_request_decided s ⟨" ", [""], .null⟩ {}
  obtain ⟨broadcasts, submits, -, runs⟩ := every_request_decided s greeting {}
  obtain ⟨last, trail, ended, -⟩ := run_all_trail s s.view greeting (some (maxPermits + 1))
    (distinctNodes mixedTarget.nodes) {}
  refine ⟨((nameless nobody).blankClass ?_).1, (broadcasts nobody).allowed named rfl rfl,
    ((broadcasts mixedTarget).stopped named filled).mpr ⟨_, rfl, Nat.lt_succ_self _⟩,
    (broadcasts mixedTarget).reads named filled, (submits _ 0).recorded named nofun,
    runs _ _ _ _ _ (trail_reachable trail) ended⟩
  intro c member
  rw [show c = ' ' by simpa using member]
  rfl

end Fanout
