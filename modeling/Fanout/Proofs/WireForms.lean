import Fanout.Job.Descriptor
import Fanout.Job.Status
import Fanout.Proofs.Json.Fields
import Fanout.Proofs.Json.Records
import Fanout.Proofs.Json.Writing
import Fanout.Topology

/-! The wire forms of nodes, jobs, statuses and snapshots of a topology. Each is read from
an object by the names of its fields, and what was written is read back field by field. -/
namespace Fanout

open Json

variable {α β : Type} {t ws rest : List Char} {depth : Nat}

/-! ### Written objects -/

section Objects

variable {δ γ : Type} {shape : Shape δ γ} {Writes : String → List Char → Prop}
  {Default : String → Prop} {ms : List (String × Value)}

/-- The members of a written object with their texts. -/
def written (ms : List (String × Value)) : List (String × List Char) :=
  ms.map fun m => (m.1, m.2.chars)

theorem written_keys (ms : List (String × Value)) :
    (written ms).map Prod.fst = ms.map Prod.fst := by
  simp [written]

theorem written_text (ms : List (String × Value)) :
    ObjectText (written ms) (Value.object ms).chars := by
  have each : List.Forall₂ (fun entry m => StringRest entry.1 (quotedRest m.1) ∧
      entry.2 = m.2.chars) (written ms) ms :=
    List.forall₂_map_left_iff.mpr (List.forall₂_same.mpr fun m _ => ⟨quotedRest_text m.1, rfl⟩)
  obtain ⟨u, text, series⟩ := object_chars each
  exact ⟨u, [], text, series, blank_nil⟩

/-- Different keys name each field at most once. -/
theorem written_once (distinct : (ms.map Prod.fst).Nodup) : (shape.named (written ms)).Nodup := by
  rw [Shape.named, written_keys]
  exact distinct.filter _

/-- A written object spells a record if its members do. -/
theorem written_spells (spells : ∀ m ∈ ms, shape.Spells Writes (m.1, m.2.chars))
    (once : (shape.named (written ms)).Nodup)
    (spare : ∀ field ∈ shape.fields, field.name ∉ ms.map Prod.fst → Default field.name) :
    shape.ObjectOf Writes Default (Value.object ms).chars := by
  refine ⟨written ms, written_text ms, List.forall_mem_map.mpr spells, once, ?_⟩
  rwa [written_keys]

end Objects

theorem map_eq_ok {x : Except Fault α} {f : α → β} {b : β} (mapped : x.map f = .ok b) :
    ∃ a, x = .ok a ∧ f a = b := by
  cases x with
  | error fault => cases mapped
  | ok a => exact ⟨a, rfl, Except.ok.inj mapped⟩

theorem mapM_ok (as : List α) : as.mapM (Except.ok : α → Except Fault α) = .ok as :=
  (List.mapM_pure (f := id)).trans (congrArg _ (List.map_id as))

/-- An optional field that is left out only when it is absent. -/
theorem join_portion {x : Option β} {there : Bool} (spare : there = false → x = none) :
    (if there = true then some x else none).join = x := by
  cases there with
  | true => rfl
  | false => exact (spare rfl).symm

/-- A field that is left out only when it has its default. -/
theorem getD_portion {x d : β} {there : Bool} (spare : there = false → x = d) :
    (if there = true then some x else none).getD d = x := by
  cases there with
  | true => rfl
  | false => exact (spare rfl).symm

/-- The text of a string or of null is read as an optional string. -/
theorem optional_string_reads {x : Option String} (text : ValueText (orNull .string x) t)
    (blank : Blank ws) : optional string (ws ++ (t ++ rest)) = .ok (x, rest) := by
  cases x with
  | none => exact optional_reads_none text blank
  | some s =>
    refine optional_reads_some (value_opens text) ?_ (string_reads text blank_nil) blank
    cases text
    simp

namespace Node

/-- The fields that an object has to have, in the order in which they are declared. -/
def needed : List String := ["id", "name"]

/-- The texts of the fields of a node. -/
def Writes (n : Node) : String → List Char → Prop
  | "id", t => ValueText (.string n.id.text) t
  | "name", t => ValueText (.string n.name) t
  | "address", t => ValueText (orNull .string n.address) t
  | _, _ => False

/-- The field may be left out. -/
def Default (n : Node) : String → Prop
  | "address" => n.address = none
  | _ => False

/-- The draft with some of the fields of a node. -/
def portion (n : Node) (present : String → Bool) : Draft where
  id := if present "id" then some n.id.text else none
  name := if present "name" then some n.name else none
  address := if present "address" then some n.address else none

theorem byName : shape.ByName needed where
  known := by simp [needed, Shape.field?, shape]
  blank := by simp [shape]
  fills := by
    intro field listed depth draft s next rest read other member
    simp only [shape, List.mem_cons, List.not_mem_nil, or_false] at listed member
    rcases listed with rfl | rfl | rfl <;>
      · obtain ⟨_, -, same⟩ := map_eq_ok read
        cases same
        rcases member with rfl | rfl | rfl <;> simp
  misses := by
    rintro ⟨id, name, address⟩ missing first
    cases id <;> cases name <;>
      simp_all [shape, needed, Shape.has, required]

theorem portions (n : Node) (depth : Nat) :
    shape.Portions depth n n.Writes n.Default n.portion where
  blank := rfl
  filled := by
    intro field listed present
    simp only [shape, List.mem_cons, List.not_mem_nil, or_false] at listed
    rcases listed with rfl | rfl | rfl <;> simp only [portion] <;> split <;> simp_all
  puts := by
    intro field listed t text
    simp only [shape, List.mem_cons, List.not_mem_nil, or_false] at listed
    rcases listed with rfl | rfl | rfl
    · exact part_puts (fun d v => { d with id := some v }) (fun _ _ => rfl)
        (fun _ _ blank _ => string_reads text blank) (fun _ => by simp [portion])
    · exact part_puts (fun d v => { d with name := some v }) (fun _ _ => rfl)
        (fun _ _ blank _ => string_reads text blank) (fun _ => by simp [portion])
    · exact part_puts (fun d v => { d with address := some v }) (fun _ _ => rfl)
        (fun _ _ blank _ => optional_string_reads text blank) (fun _ => by simp [portion])
  finish := by
    intro present spare
    have hasId : present "id" = true := eq_true_of_ne_false (spare "id" rfl)
    have hasName : present "name" = true := eq_true_of_ne_false (spare "name" rfl)
    have noAddress : present "address" = false → n.address = none := spare "address" rfl
    simp only [shape, portion, hasId, hasName, required, if_true, join_portion noAddress]

/-- The objects that spell a node. -/
def Spelled (n : Node) (t : List Char) : Prop := shape.ObjectOf n.Writes n.Default t

theorem spelled_opens (n : Node) (t : List Char) (text : n.Spelled t) : Opens t :=
  objectOf_opens text

end Node

/-! ### Jobs -/

/-- A text of strings in an array is read as their list. -/
theorem strings_read {ss : List String} (text : ValueText (.array (ss.map .string)) t)
    (blank : Blank ws) (depth : Nat) :
    list (fun _ => string) (depth + 1) (ws ++ (t ++ rest)) = .ok (ss, rest) := by
  let out : Value → Except Fault String
    | .string s => .ok s
    | _ => .error .grammar
  have reads : ReadsItems string ValueText out (ss.map .string) := by
    intro v member t rest text _
    obtain ⟨s, -, rfl⟩ := List.mem_map.mp member
    exact string_reads text blank_nil
  have all : (ss.map .string).mapM out = .ok ss := by
    clear reads text
    induction ss with
    | nil => rfl
    | cons s ss ih =>
      rw [List.map_cons, List.mapM_cons, ih]
      rfl
  cases text with
  | array items spaced =>
    simp only [List.cons_append, List.append_assoc, List.nil_append]
    rw [list_reads (fun _ _ => value_opens) reads items spaced blank, all]
    rfl

namespace JobDescriptor

/-- The field that an object has to have. -/
def needed : List String := ["job_class_name"]

/-- The texts of the fields of a job. The arguments may have as many levels as are left
inside the job. -/
def Writes (job : JobDescriptor) : String → List Char → Prop
  | "job_class_name", t => ValueText (.string job.className) t
  | "units", t => ValueText (.array (job.units.map .string)) t
  | "args", t => ValueText job.args t ∧ job.args.depth < maxDepth
  | _, _ => False

/-- The field may be left out. -/
def Default (job : JobDescriptor) : String → Prop
  | "units" => job.units = []
  | "args" => job.args = .null
  | _ => False

/-- The draft with some of the fields of a job. -/
def portion (job : JobDescriptor) (present : String → Bool) : Draft where
  className := if present "job_class_name" then some job.className else none
  units := if present "units" then some job.units else none
  args := if present "args" then some job.args else none

theorem byName : shape.ByName needed where
  known := by simp [needed, Shape.field?, shape]
  blank := by simp [shape]
  fills := by
    intro field listed depth draft s next rest read other member
    simp only [shape, List.mem_cons, List.not_mem_nil, or_false] at listed member
    rcases listed with rfl | rfl | rfl <;>
      · obtain ⟨_, -, same⟩ := map_eq_ok read
        cases same
        rcases member with rfl | rfl | rfl <;> simp
  misses := by
    rintro ⟨className, units, args⟩ missing first
    cases className <;> simp_all [shape, needed, Shape.has, required]

theorem portions (job : JobDescriptor) :
    shape.Portions (maxDepth - 1) job job.Writes job.Default job.portion where
  blank := rfl
  filled := by
    intro field listed present
    simp only [shape, List.mem_cons, List.not_mem_nil, or_false] at listed
    rcases listed with rfl | rfl | rfl <;> simp only [portion] <;> split <;> simp_all
  puts := by
    intro field listed t text
    simp only [shape, List.mem_cons, List.not_mem_nil, or_false] at listed
    rcases listed with rfl | rfl | rfl
    · exact part_puts (fun d v => { d with className := some v }) (fun _ _ => rfl)
        (fun _ _ blank _ => string_reads text blank) (fun _ => by simp [portion])
    · exact part_puts (fun d v => { d with units := some v }) (fun _ _ => rfl)
        (fun _ _ blank _ => strings_read text blank (maxDepth - 2)) (fun _ => by simp [portion])
    · obtain ⟨text, shallow⟩ := text
      refine part_puts (b := job.args) (fun d v => { d with args := some v }) (fun _ _ => rfl)
        (fun ws rest blank boundary => ?_) (fun _ => by simp [portion])
      rw [value_reads _ text blank boundary, within_eq_ok (Nat.le_sub_one_of_lt shallow)]
      rfl
  finish := by
    intro present spare
    have hasClass : present "job_class_name" = true :=
      eq_true_of_ne_false (spare "job_class_name" rfl)
    have noUnits : present "units" = false → job.units = [] := spare "units" rfl
    have noArgs : present "args" = false → job.args = .null := spare "args" rfl
    simp only [shape, portion, hasClass, required, if_true, getD_portion noUnits,
      getD_portion noArgs]

end JobDescriptor

/-! ### Statuses -/

theorem named_name (state : JobState) : JobState.named state.name = .ok state := by
  cases state <;> rfl

theorem state_reads {state : JobState} (text : ValueText state.toJson t) (blank : Blank ws)
    (depth : Nat) : JobState.read depth (ws ++ (t ++ rest)) = .ok (state, rest) := by
  cases text with
  | string text =>
    have word : isSpace '"' = false := rfl
    rw [List.cons_append, JobState.read, skipSpace_to blank word]
    simp [JobState.readName, skipSpace_word word, stringRest_reads text, named_name, Except.map]

/-- The text of a time or of null is read as an optional time. -/
theorem optional_time_reads {x : Option Millis} (text : ValueText (JobStatus.timeJson x) t)
    (blank : Blank ws) (boundary : Boundary rest) :
    optional int64 (ws ++ (t ++ rest)) = .ok (x, rest) := by
  cases x with
  | none => exact optional_reads_none text blank
  | some now =>
    refine optional_reads_some (value_opens text) ?_ (int64_reads text blank_nil boundary) blank
    cases text
    exact intChars_head _ (by decide) rfl

namespace JobStatus

/-- The fields that an object has to have, in the order in which they are declared. -/
def needed : List String := ["id", "state", "created_at"]

/-- The texts of the fields of a status. -/
def Writes (status : JobStatus) : String → List Char → Prop
  | "id", t => ValueText (.string status.id) t
  | "state", t => ValueText status.state.toJson t
  | "created_at", t => ValueText (.int status.createdAt.toInt) t
  | "started_at", t => ValueText (timeJson status.startedAt) t
  | "finished_at", t => ValueText (timeJson status.finishedAt) t
  | _, _ => False

/-- The field may be left out. -/
def Default (status : JobStatus) : String → Prop
  | "started_at" => status.startedAt = none
  | "finished_at" => status.finishedAt = none
  | _ => False

/-- The draft with some of the fields of a status. -/
def portion (status : JobStatus) (present : String → Bool) : Draft where
  id := if present "id" then some status.id else none
  state := if present "state" then some status.state else none
  createdAt := if present "created_at" then some status.createdAt else none
  startedAt := if present "started_at" then some status.startedAt else none
  finishedAt := if present "finished_at" then some status.finishedAt else none

theorem byName : shape.ByName needed where
  known := by simp [needed, Shape.field?, shape]
  blank := by simp [shape]
  fills := by
    intro field listed depth draft s next rest read other member
    simp only [shape, List.mem_cons, List.not_mem_nil, or_false] at listed member
    rcases listed with rfl | rfl | rfl | rfl | rfl <;>
      · obtain ⟨_, -, same⟩ := map_eq_ok read
        cases same
        rcases member with rfl | rfl | rfl | rfl | rfl <;> simp
  misses := by
    rintro ⟨id, state, createdAt, startedAt, finishedAt⟩ missing first
    cases id <;> cases state <;> cases createdAt <;>
      simp_all [shape, needed, Shape.has, required]

theorem portions (status : JobStatus) (depth : Nat) :
    shape.Portions depth status status.Writes status.Default status.portion where
  blank := rfl
  filled := by
    intro field listed present
    simp only [shape, List.mem_cons, List.not_mem_nil, or_false] at listed
    rcases listed with rfl | rfl | rfl | rfl | rfl <;> simp only [portion] <;> split <;> simp_all
  puts := by
    intro field listed t text
    simp only [shape, List.mem_cons, List.not_mem_nil, or_false] at listed
    rcases listed with rfl | rfl | rfl | rfl | rfl
    · exact part_puts (fun d v => { d with id := some v }) (fun _ _ => rfl)
        (fun _ _ blank _ => string_reads text blank) (fun _ => by simp [portion])
    · exact part_puts (fun d v => { d with state := some v }) (fun _ _ => rfl)
        (fun _ _ blank _ => state_reads text blank depth) (fun _ => by simp [portion])
    · exact part_puts (fun d v => { d with createdAt := some v }) (fun _ _ => rfl)
        (fun _ _ => int64_reads text) (fun _ => by simp [portion])
    · exact part_puts (fun d v => { d with startedAt := some v }) (fun _ _ => rfl)
        (fun _ _ => optional_time_reads text) (fun _ => by simp [portion])
    · exact part_puts (fun d v => { d with finishedAt := some v }) (fun _ _ => rfl)
        (fun _ _ => optional_time_reads text) (fun _ => by simp [portion])
  finish := by
    intro present spare
    have hasId : present "id" = true := eq_true_of_ne_false (spare "id" rfl)
    have hasState : present "state" = true := eq_true_of_ne_false (spare "state" rfl)
    have hasCreated : present "created_at" = true := eq_true_of_ne_false (spare "created_at" rfl)
    have unstarted : present "started_at" = false → status.startedAt = none :=
      spare "started_at" rfl
    have unfinished : present "finished_at" = false → status.finishedAt = none :=
      spare "finished_at" rfl
    simp only [shape, portion, hasId, hasState, hasCreated, required, if_true,
      join_portion unstarted, join_portion unfinished]

end JobStatus

/-! ### Snapshots -/

namespace TopologySnapshot

/-- The fields that an object has to have, in the order in which they are declared. -/
def needed : List String := ["local", "members"]

/-- A series of nodes, each spelled by an object, inside the brackets of an array. -/
def NodesText (nodes : List Node) (t : List Char) : Prop :=
  ∃ u ws, t = '[' :: (u ++ (ws ++ [']'])) ∧ Series Node.Spelled true nodes u ∧ Blank ws

/-- The texts of the fields of a snapshot. -/
def Writes (snapshot : TopologySnapshot) : String → List Char → Prop
  | "local", t => ValueText (.string snapshot.localId.text) t
  | "members", t => NodesText snapshot.members t
  | _, _ => False

/-- The draft with some of the fields of a snapshot. -/
def portion (snapshot : TopologySnapshot) (present : String → Bool) : Draft where
  localId := if present "local" then some snapshot.localId.text else none
  members := if present "members" then some snapshot.members else none

theorem byName : shape.ByName needed where
  known := by simp [needed, Shape.field?, shape]
  blank := by simp [shape]
  fills := by
    intro field listed depth draft s next rest read other member
    simp only [shape, List.mem_cons, List.not_mem_nil, or_false] at listed member
    rcases listed with rfl | rfl <;>
      · obtain ⟨_, -, same⟩ := map_eq_ok read
        cases same
        rcases member with rfl | rfl <;> simp
  misses := by
    rintro ⟨localId, members⟩ missing first
    cases localId <;> cases members <;> simp_all [shape, needed, Shape.has, required]

/-- The nodes of a snapshot are read one by one, two levels inside the snapshot. -/
theorem nodes_read {nodes : List Node} (text : NodesText nodes t) (blank : Blank ws)
    (depth : Nat) :
    list Node.shape.read (depth + 2) (ws ++ (t ++ rest)) = .ok (nodes, rest) := by
  obtain ⟨u, space, rfl, series, spaced⟩ := text
  have reads : ReadsItems (Node.shape.read (depth + 1)) Node.Spelled .ok nodes :=
    fun n _ t rest text _ => spelled_reads (n.portions depth) text blank_nil rest
  simp only [List.cons_append, List.append_assoc, List.nil_append]
  rw [list_reads Node.spelled_opens reads series spaced blank, mapM_ok]
  rfl

theorem portions (snapshot : TopologySnapshot) (depth : Nat) :
    shape.Portions (depth + 2) snapshot snapshot.Writes (fun _ => False) snapshot.portion where
  blank := rfl
  filled := by
    intro field listed present
    simp only [shape, List.mem_cons, List.not_mem_nil, or_false] at listed
    rcases listed with rfl | rfl <;> simp only [portion] <;> split <;> simp_all
  puts := by
    intro field listed t text
    simp only [shape, List.mem_cons, List.not_mem_nil, or_false] at listed
    rcases listed with rfl | rfl
    · exact part_puts (fun d v => { d with localId := some v }) (fun _ _ => rfl)
        (fun _ _ blank _ => string_reads text blank) (fun _ => by simp [portion])
    · exact part_puts (fun d v => { d with members := some v }) (fun _ _ => rfl)
        (fun _ _ blank _ => nodes_read text blank depth) (fun _ => by simp [portion])
  finish := by
    intro present spare
    have hasLocal : present "local" = true := eq_true_of_ne_false (spare "local" rfl)
    have hasMembers : present "members" = true := eq_true_of_ne_false (spare "members" rfl)
    simp only [shape, portion, hasLocal, hasMembers, required, if_true]

end TopologySnapshot

end Fanout
