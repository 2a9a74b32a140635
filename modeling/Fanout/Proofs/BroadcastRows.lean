import Fanout.Proofs.EchoedRecords
import Fanout.Proofs.Listings
import Fanout.Proofs.ProgramFailures
import Fanout.Proofs.TextParts

/-! What a broadcast from the command line prints. Every distinct name has one row, in the
order in which the names are given first, and the row tells what became of the job there. For
programs the rows are one JSON array, and for people the last line counts them. A name that no
member has fails its own row and nothing else. -/
namespace Fanout.Console

open FirstHandles Json Listing

/-- The distinct names that a list of names means, in the order in which they come first. -/
def distinctNames (names : List String) : List String := (meant names).eraseDups

/-- The row of a name as it is read back from the output for programs. -/
def rowJson (topology : Topology) (job : JobDescriptor) (name : String) (id : JobId) : Value :=
  .object [
    ("job_id", .string id),
    ("node", .string name),
    ("result", .string (fate topology job name).result),
    ("route", .string (fate topology job name).route),
    ("state", .string (fate topology job name).state)]

/-- The text consists of some lines, the last of which is the given one. -/
def LastLine (text line : String) : Prop :=
  ∃ above, Text.split '\n' text.toList = above ++ [line.toList, []]

/-- The counts of a broadcast: how many of the names are those of members, and how many not. -/
def countsLine (topology : Topology) (names : List String) : String :=
  let members := names.countP fun name => ⟨name⟩ ∈ topology.members.map Node.id
  let others := names.countP fun name => ⟨name⟩ ∉ topology.members.map Node.id
  toString members ++ " succeeded, " ++ toString others ++ " failed"

/-- What a broadcast of a job to names prints: for programs, or else for people. -/
structure PrintsRows (host : Host) (topology : Topology) (job : JobDescriptor)
    (names : List String) (asJson : Bool) (ending : Ending) : Prop where
  succeeds : ending.exitCode = 0
  /-- There is one row for every name, and they have the first job ids, in some order. -/
  rows : asJson = true → ∃ ids : List JobId,
    ids.Perm ((List.range names.length).map host.ids) ∧
    (((List.range names.length).map host.ids).Nodup → ids.Nodup) ∧
    Value.parse ending.output = .ok (.array (List.zipWith (rowJson topology job) names ids))
  /-- The counts are in the last line, in green if no name failed and in red otherwise, when
  colors are wanted. -/
  counts : asJson = false → LastLine ending.output
    (painted (colorsWanted host.env host.terminal)
      (if ∀ name ∈ names, ⟨name⟩ ∈ topology.members.map Node.id then boldGreen else boldRed)
      (countsLine topology names))

variable {host : Host} {topology : Topology} {job : JobDescriptor} {config : Config}
  {report : BroadcastReport} {names : List String}

/-! ### Lines -/

/-- A line that is put behind others is the last one. -/
theorem last_line_behind (above : String) {line : String} (whole : '\n' ∉ line.toList) :
    LastLine (above ++ "\n" ++ (line ++ "\n")) line := by
  refine ⟨Text.split '\n' above.toList, ?_⟩
  have text : (above ++ "\n" ++ (line ++ "\n")).toList =
      above.toList ++ '\n' :: (line.toList ++ '\n' :: []) := by simp
  rw [text, Text.split_append, Text.split_append, Text.split_part whole]
  rfl

/-- There is one last line. -/
theorem last_line_unique {text line other : String} (last : LastLine text line)
    (too : LastLine text other) : line = other := by
  obtain ⟨above, lines⟩ := last
  obtain ⟨others, again⟩ := too
  have same := List.append_inj_right' (lines.symm.trans again) rfl
  exact String.toList_inj.mp (List.cons.inj same).1

theorem digits_no_newline (n : Nat) : '\n' ∉ Nat.toDigits 10 n := fun member =>
  absurd (natChars_digits n _ member) (by decide)

theorem painted_no_newline (colors : Bool) {code text : String} (plain : '\n' ∉ text.toList)
    (coded : '\n' ∉ code.toList) : '\n' ∉ (painted colors code text).toList := by
  cases colors <;> simp [painted, plain, coded]

/-! ### Rows -/

/-- The row of a record is read back with what became of the job on its node. -/
theorem record_row (e : Execution) : readRecord executionColumns e = .object [
    ("job_id", .string e.status.id),
    ("node", .string e.node.id.text),
    ("result", .string (listedFate e).result),
    ("route", .string (listedFate e).route),
    ("state", .string (listedFate e).state)] := by
  simp +decide only [readRecord, executionColumns, List.map_cons, List.map_nil, arrange,
    List.foldl_cons, List.foldl_nil, setMember, if_true, if_false, listedFate]

/-- The nodes of a broadcast are those of the distinct names. -/
theorem distinct_resolved_names (topology : Topology) (names : List String) :
    (distinctNodes (resolve topology names)).map (·.id.text) = distinctNames names := by
  have own (name : String) : (handleOn topology name).id.text = name := by rw [handle_id]
  simp only [distinct_resolved, List.map_map, Function.comp_def, own, List.map_id', distinctNames]

theorem echoed_names (echoes : Echoes host topology job (resolve topology names) report) :
    report.executions.map (·.node.id.text) = distinctNames names := by
  rw [← distinct_resolved_names topology names, ← echoes.nodes, List.map_map]
  rfl

/-- The records are read back as the rows of the names. -/
theorem echoed_rows (echoes : Echoes host topology job (resolve topology names) report) :
    report.executions.map (readRecord executionColumns) =
      List.zipWith (rowJson topology job) (distinctNames names)
        (report.executions.map (·.status.id)) := by
  rw [← echoed_names echoes, List.zipWith_map, List.zipWith_self]
  refine List.map_congr_left fun e member => ?_
  rw [record_row, echoes.fates e member, rowJson]

/-- A report that is printed for programs reads back as its rows. -/
theorem report_reads (colors : Bool) (report : BroadcastReport) :
    Value.parse (reportText true colors report) =
      .ok (.array (report.executions.map (readRecord executionColumns))) := by
  have text : reportText true colors report =
      render true executionColumns report.executions := by
    simp [reportText, executionsText]
  rw [text]
  refine listing_reads (by decide) ?_ ?_ <;>
    simp [executionColumns, Value.Canonical, Value.depth, maxDepth]

/-! ### Counts -/

theorem echoed_succeeded (echoes : Echoes host topology job (resolve topology names) report) :
    report.succeeded =
      (distinctNames names).countP fun name => ⟨name⟩ ∈ topology.members.map Node.id := by
  rw [← echoed_names echoes, List.countP_map]
  refine List.countP_congr fun e member => ?_
  rw [echoes.members e member, Function.comp_apply, decide_eq_true_iff]

theorem echoed_failed (echoes : Echoes host topology job (resolve topology names) report) :
    report.failed =
      (distinctNames names).countP fun name => ⟨name⟩ ∉ topology.members.map Node.id := by
  rw [← echoed_names echoes, List.countP_map, failed_eq_countP]
  refine List.countP_congr fun e member => ?_
  rw [Function.comp_apply, decide_eq_true_iff, ← echoes.members e member, Execution.isSuccess]
  simp

theorem counts_no_newline (succeeded failed : Nat) :
    '\n' ∉ (toString succeeded ++ " succeeded, " ++ toString failed ++ " failed").toList := by
  simp [digits_no_newline]

/-- A report that is printed for people ends with its counts. -/
theorem report_last_line (colors : Bool) (report : BroadcastReport) :
    LastLine (reportText false colors report) (summary colors report) := by
  have ended : ∃ above, executionsText false colors report.executions = above ++ "\n" := by
    unfold executionsText
    split
    · exact ⟨_, rfl⟩
    · exact ⟨_, rfl⟩
  obtain ⟨above, text⟩ := ended
  have whole : '\n' ∉ (summary colors report).toList := by
    refine painted_no_newline colors (counts_no_newline _ _) ?_
    split <;> decide
  have last := last_line_behind above whole
  rwa [← text] at last

theorem echoed_summary (echoes : Echoes host topology job (resolve topology names) report)
    (colors : Bool) : summary colors report = painted colors
      (if ∀ name ∈ distinctNames names, ⟨name⟩ ∈ topology.members.map Node.id then boldGreen
        else boldRed) (countsLine topology (distinctNames names)) := by
  have nobody : report.failed = 0 ↔
      ∀ name ∈ distinctNames names, ⟨name⟩ ∈ topology.members.map Node.id := by
    rw [echoed_failed echoes, List.countP_eq_zero]
    simp only [decide_eq_true_eq, not_not]
  simp only [summary, countsLine, nobody, echoed_succeeded echoes, ← echoed_failed echoes]

/-! ### The command line -/

/-- A broadcast to names, of a job that is in order, prints the report of the service. -/
theorem run_reports {words : List String} {path : String} {asJson : Bool}
    {options : JobOptions} {limit : Option Nat} {args : Value}
    (understood : Invocation.read host.env words =
      .ok ⟨path, asJson, .broadcast (some names) options false limit⟩)
    (loaded : host.load path = .ok topology) (decoded : Value.parse options.args = .ok args)
    (named : JobDescriptor.Named ⟨options.className, options.units, args⟩)
    (within : ∀ n, limit = some n → n ≤ maxPermits) :
    ∃ report, run host words =
        .printed (reportText asJson (colorsWanted host.env host.terminal) report) ∧
      Echoes host topology ⟨options.className, options.units, args⟩ (resolve topology names)
        report := by
  have described : options.descriptor = .ok ⟨options.className, options.units, args⟩ := by
    simp only [JobOptions.descriptor, decoded]
  obtain ⟨report, printed, echoes⟩ := broadcast_echoed host (resolve topology names)
    (loaded_well_formed loaded).1 described ((validate_eq_ok_iff _).mpr named) within
    (fun _ => rfl) asJson
  exact ⟨report, (run_broadcast understood loaded).trans printed, echoes⟩

/-- **A broadcast from the command line prints its rows.** It succeeds for all names that are
given, for any job with a class, units and arguments and under any limit for which there are
permits, and prints every distinct name with its fate, or the counts of the names. -/
theorem broadcast_prints_rows {words : List String} {path : String} {asJson : Bool}
    {options : JobOptions} {limit : Option Nat} {args : Value}
    (understood : Invocation.read host.env words =
      .ok ⟨path, asJson, .broadcast (some names) options false limit⟩)
    (loaded : host.load path = .ok topology) (decoded : Value.parse options.args = .ok args)
    (named : JobDescriptor.Named ⟨options.className, options.units, args⟩)
    (within : ∀ n, limit = some n → n ≤ maxPermits) :
    PrintsRows host topology ⟨options.className, options.units, args⟩ (distinctNames names) asJson
      (run host words) := by
  obtain ⟨report, ending, echoes⟩ := run_reports understood loaded decoded named within
  rw [ending]
  refine ⟨rfl, ?_, ?_⟩
  · rintro rfl
    have numbered := echoes.ids
    have size : report.size = (distinctNames names).length := by
      rw [← echoed_names echoes, List.length_map, BroadcastReport.size]
    rw [size] at numbered
    refine ⟨report.executions.map (·.status.id), numbered, numbered.nodup_iff.mpr, ?_⟩
    rw [← echoed_rows echoes]
    exact report_reads _ report
  · rintro rfl
    rw [← echoed_summary echoes]
    exact report_last_line _ report

def pairTopology : Topology := ⟨.ofId "a", [.ofId "a", .ofId "b"]⟩

/-- A broadcast to the remote `b` and the departed `c`. -/
def greetWords : List String := ["broadcast", "--json", "--nodes", " b,c\t,,b", "--job", "greet"]

/-- A greeting has one row for `b` and one for `c`, which has left. -/
theorem greeted_pair_printed :
    Invocation.read (hostOf pairSnapshotText).env greetWords =
      .ok ⟨"topology.json", true, .broadcast (some [" b", "c\t", "", "b"]) ⟨"greet", [], "null"⟩
        false none⟩ ∧
    PrintsRows (hostOf pairSnapshotText) pairTopology ⟨"greet", [], .null⟩ ["b", "c"] true
      (run (hostOf pairSnapshotText) greetWords) ∧
    (fate pairTopology ⟨"greet", [], .null⟩ "b").route = "REMOTE" ∧
    fate pairTopology ⟨"greet", [], .null⟩ "c" =
      ⟨"-", "FAILED", "Node c has left the cluster"⟩ := by
  have understood : Invocation.read (hostOf pairSnapshotText).env greetWords =
      .ok ⟨"topology.json", true, .broadcast (some [" b", "c\t", "", "b"]) ⟨"greet", [], "null"⟩
        false none⟩ := by
    decide +kernel
  have loaded : (hostOf pairSnapshotText).load "topology.json" = .ok pairTopology := by
    decide +kernel
  have named : JobDescriptor.Named ⟨"greet", [], .null⟩ := (validate_eq_ok_iff _).mp rfl
  have names : distinctNames [" b", "c\t", "", "b"] = ["b", "c"] := by decide +kernel
  have prints := broadcast_prints_rows understood loaded rfl named nofun
  rw [names] at prints
  exact ⟨understood, prints, by decide +kernel, by decide +kernel⟩

/-- The surroundings of a program that has to use colors. -/
def forcedHost : Host :=
  { hostOf pairSnapshotText with
    env := fun name => if name = "CLICOLOR_FORCE" then some "1" else none }

def plainWords : List String := ["broadcast", "--nodes", "b", "--job", "greet"]

/-- With forced colors the last line does not consist of the counts alone. -/
theorem forced_colors_around_counts :
    Invocation.read forcedHost.env plainWords =
      .ok ⟨"topology.json", false, .broadcast (some ["b"]) ⟨"greet", [], "null"⟩ false none⟩ ∧
    forcedHost.load "topology.json" = .ok pairTopology ∧
    JobDescriptor.Named ⟨"greet", [], .null⟩ ∧ distinctNames ["b"] = ["b"] ∧
    countsLine pairTopology ["b"] = "1 succeeded, 0 failed" ∧
    ¬ LastLine (run forcedHost plainWords).output "1 succeeded, 0 failed" := by
  have understood : Invocation.read forcedHost.env plainWords =
      .ok ⟨"topology.json", false, .broadcast (some ["b"]) ⟨"greet", [], "null"⟩ false none⟩ := by
    decide +kernel
  have loaded : forcedHost.load "topology.json" = .ok pairTopology := by decide +kernel
  have named : JobDescriptor.Named ⟨"greet", [], .null⟩ := (validate_eq_ok_iff _).mp rfl
  have names : distinctNames ["b"] = ["b"] := by decide +kernel
  have counts : countsLine pairTopology ["b"] = "1 succeeded, 0 failed" := by decide +kernel
  refine ⟨understood, loaded, named, names, counts, fun plain => ?_⟩
  obtain ⟨report, ending, echoes⟩ := run_reports understood loaded rfl named nofun
  have last := report_last_line (colorsWanted forcedHost.env forcedHost.terminal) report
  rw [ending] at plain
  have same := last_line_unique last plain
  rw [echoed_summary echoes, names, counts] at same
  exact absurd same (by decide +kernel)

end Fanout.Console
