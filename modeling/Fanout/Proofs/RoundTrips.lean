import Fanout.Proofs.WireForms

/-! Decoding what was encoded gives back the same value, field by field. The arguments of a
job are the one part of a wire form that can be too deep to be read back: the writer writes
any number of levels, and the reader enters the levels that it may enter, one of which is the
job itself. -/
namespace Fanout

open Json

/-- A written record is decoded if its object spells it. -/
theorem written_decodes {δ α : Type} {shape : Shape δ α} {a : α}
    {Writes : String → List Char → Prop} {Default : String → Prop}
    {portion : (String → Bool) → δ} {v : Value}
    (law : shape.Portions (maxDepth - 1) a Writes Default portion)
    (spells : shape.ObjectOf Writes Default v.chars) : whole shape.read v.compact = .ok a := by
  have reads := spelled_reads law spells blank_nil []
  rw [List.nil_append, List.append_nil] at reads
  refine whole_reads ?_ blank_nil
  rw [Value.compact, String.toList_ofList]
  exact reads

/-! ### Wire forms that spell their records -/

theorem Node.written_spelled (n : Node) : n.Spelled n.toJson.chars := by
  obtain ⟨id, name, address⟩ := n
  cases address with
  | none =>
    refine written_spells ?_ (written_once (by simp)) (by simp [shape, Default])
    simp only [List.append_nil, List.forall_mem_cons]
    exact ⟨chars_text (.string id.text) trivial, chars_text (.string name) trivial, by simp⟩
  | some address =>
    refine written_spells ?_ (written_once (by simp)) (by simp [shape])
    simp only [List.cons_append, List.nil_append, List.forall_mem_cons]
    exact ⟨chars_text (.string id.text) trivial, chars_text (.string name) trivial,
      chars_text (.string address) trivial, by simp⟩

/-- A signed integer is in the range that keeps its exact value. -/
theorem int64_canonical (i : Int64) : (Value.int i.toInt).Canonical := by
  have least := i.le_toInt
  have most := i.toInt_lt
  simp only [Value.Canonical, minInt, maxInt, wordCount]
  omega

theorem timeJson_canonical (x : Option Millis) : (JobStatus.timeJson x).Canonical := by
  cases x with
  | none => trivial
  | some now => exact int64_canonical now

theorem JobStatus.written_spelled (status : JobStatus) :
    shape.ObjectOf status.Writes status.Default status.toJson.chars := by
  refine written_spells ?_ (written_once (by simp)) (by simp [shape])
  simp only [List.forall_mem_cons]
  exact ⟨chars_text (.string status.id) trivial, chars_text status.state.toJson trivial,
    chars_text _ (int64_canonical status.createdAt), chars_text _ (timeJson_canonical _),
    chars_text _ (timeJson_canonical _), by simp⟩

theorem TopologySnapshot.written_spelled (snapshot : TopologySnapshot) :
    shape.ObjectOf snapshot.Writes (fun _ => False) snapshot.toJson.chars := by
  have each : List.Forall₂ (fun n v => n.Spelled v.chars) snapshot.members
      (snapshot.members.map Node.toJson) :=
    List.forall₂_map_right_iff.mpr (List.forall₂_same.mpr fun n _ => n.written_spelled)
  obtain ⟨u, text, series⟩ := array_chars each
  refine written_spells ?_ (written_once (by simp)) (by simp [shape])
  simp only [List.forall_mem_cons]
  exact ⟨chars_text (.string snapshot.localId.text) trivial, ⟨u, [], text, series, blank_nil⟩,
    by simp⟩

/-! ### Jobs -/

namespace JobDescriptor

theorem units_canonical (job : JobDescriptor) :
    (Value.array (job.units.map .string)).Canonical := by
  refine canonicalItems_iff.mpr fun v member => ?_
  obtain ⟨s, -, rfl⟩ := List.mem_map.mp member
  trivial

/-- The members in front of the arguments. -/
def front (job : JobDescriptor) : List (String × Value) :=
  [("job_class_name", .string job.className), ("units", .array (job.units.map .string))]

theorem front_spells (job : JobDescriptor) :
    ∀ m ∈ job.front, shape.Spells job.Writes (m.1, m.2.chars) := by
  simp only [front, List.forall_mem_cons]
  exact ⟨chars_text (.string job.className) trivial, chars_text _ job.units_canonical, by simp⟩

theorem written_spelled (job : JobDescriptor) (canonical : job.args.Canonical)
    (shallow : job.args.depth < maxDepth) :
    shape.ObjectOf job.Writes job.Default job.toJson.chars := by
  have args : shape.Spells job.Writes ("args", job.args.chars) :=
    ⟨chars_text job.args canonical, shallow⟩
  have spells : ∀ m ∈ job.front ++ [("args", job.args)],
      shape.Spells job.Writes (m.1, m.2.chars) :=
    List.forall_mem_append.mpr ⟨job.front_spells, by simpa using args⟩
  exact written_spells spells (written_once (by simp)) (by simp [shape])

/-- The arguments settle as what they are, or as malformed when they have too many levels. -/
theorem args_settle (job : JobDescriptor) (canonical : job.args.Canonical) :
    shape.Settles (maxDepth - 1) ("args", job.args.chars) := by
  intro draft
  refine ⟨(within (maxDepth - 1) job.args).map fun v => { draft with args := some v }, ?_⟩
  intro ws rest blank boundary
  simp only [value_reads _ (chars_text job.args canonical) blank boundary]
  cases within (maxDepth - 1) job.args <;> rfl

theorem deep_args_refused (job : JobDescriptor) (canonical : job.args.Canonical)
    (deep : ¬ job.args.depth < maxDepth) {draft : Draft} (unfilled : draft.args = none) :
    shape.take (maxDepth - 1) draft ("args", job.args.chars) = .error .grammar := by
  have reads := value_reads (maxDepth - 1) (chars_text job.args canonical) blank_nil boundary_nil
  have tooDeep : ¬ job.args.depth ≤ maxDepth - 1 := by
    simp only [maxDepth] at deep ⊢
    omega
  rw [List.nil_append, List.append_nil, within_eq_error tooDeep] at reads
  have known : shape.field? "args" = shape.fields[2]? := rfl
  rw [Shape.take, known]
  simp only [shape, List.getElem?_cons_succ, List.getElem?_cons_zero, unfilled, reads]
  rfl

/-- The members of a job up to its arguments are taken, and the arguments are then what the
job is refused for. -/
theorem deep_members_refused (job : JobDescriptor) (canonical : job.args.Canonical)
    (deep : ¬ job.args.depth < maxDepth) :
    (written (job.front ++ [("args", job.args)])).foldlM (shape.take (maxDepth - 1)) shape.blank =
      .error .grammar := by
  have spells : ∀ entry ∈ written job.front, shape.Spells job.Writes entry :=
    List.forall_mem_map.mpr job.front_spells
  have once : (shape.named (written job.front)).Nodup := written_once (by simp [front])
  have taken := spells_fold job.portions spells once (fun _ => false) fun _ _ => rfl
  rw [job.portions.blank] at taken
  have absent : (shape.named (written job.front)).contains "args" = false := by
    rw [← Bool.not_eq_true, List.contains_iff_mem, mem_named, written_keys]
    simp [front]
  have unfilled : (job.portion fun name =>
      false || (shape.named (written job.front)).contains name).args = none := by
    simp only [portion, absent]
    rfl
  rw [written, List.map_append, List.foldlM_append, ← written, taken, List.map_singleton]
  simp only [bind, Except.bind, List.foldlM_cons, job.deep_args_refused canonical deep unfilled]

/-- Arguments with too many levels are malformed. -/
theorem deep_refused (job : JobDescriptor) (canonical : job.args.Canonical)
    (deep : ¬ job.args.depth < maxDepth) : parse job.encode = .error .grammar := by
  have settles : ∀ entry ∈ written (job.front ++ [("args", job.args)]),
      shape.Settles (maxDepth - 1) entry := by
    rw [written, List.map_append]
    refine List.forall_mem_append.mpr ⟨List.forall_mem_map.mpr fun m member => ?_, ?_⟩
    · exact settles_of_fits (fits_of_spells job.portions (job.front_spells m member))
    · simpa using job.args_settle canonical
  have reads : shape.read (maxDepth - 1 + 1) ([] ++ (job.toJson.chars ++ [])) = _ :=
    record_reads (written_text (job.front ++ [("args", job.args)])) settles blank_nil
  rw [job.deep_members_refused canonical deep, List.nil_append, List.append_nil] at reads
  refine whole_refuses ?_
  rw [encode, Value.compact, String.toList_ofList]
  exact reads

end JobDescriptor

/-- **Decoding undoes encoding**, field by field, for every node, snapshot and status, and for
every job whose arguments have no more levels than the reader may enter inside the job. The
text of deeper arguments is malformed for the reader. -/
theorem decode_undoes_encode :
    (∀ n : Node, Node.parse n.encode = .ok n) ∧
    (∀ snapshot : TopologySnapshot, TopologySnapshot.parse snapshot.encode = .ok snapshot) ∧
    (∀ status : JobStatus, JobStatus.parse status.encode = .ok status) ∧
    ∀ job : JobDescriptor, job.args.Canonical →
      JobDescriptor.parse job.encode =
        if job.args.depth ≤ 126 then .ok job else .error .grammar := by
  refine ⟨fun n => ?_, fun snapshot => ?_, fun status => ?_, fun job canonical => ?_⟩
  · exact written_decodes (n.portions (maxDepth - 1)) n.written_spelled
  · exact written_decodes (snapshot.portions (maxDepth - 3)) snapshot.written_spelled
  · exact written_decodes (status.portions (maxDepth - 1)) status.written_spelled
  · by_cases shallow : job.args.depth < maxDepth
    · rw [if_pos (Nat.le_of_lt_succ shallow)]
      exact written_decodes job.portions (job.written_spelled canonical shallow)
    · have deep : ¬ job.args.depth ≤ 126 := fun fits => shallow (Nat.lt_succ_of_le fits)
      rw [if_neg deep]
      exact job.deep_refused canonical shallow

/-- A value inside so many arrays. -/
def nested (v : Value) : Nat → Value
  | 0 => v
  | n + 1 => .array [nested v n]

theorem nested_depth (v : Value) (n : Nat) : (nested v n).depth = v.depth + n := by
  induction n with
  | zero => rfl
  | succ n ih =>
    simp only [nested, Value.depth, Value.itemsDepth, ih]
    omega

theorem nested_canonical {v : Value} (canonical : v.Canonical) (n : Nat) :
    (nested v n).Canonical := by
  induction n with
  | zero => exact canonical
  | succ n ih => exact ⟨ih, trivial⟩

/-- The least and the greatest integer and a key that has to be escaped, in arguments with as
many levels as can be read back, and with one more. -/
theorem deepest_arguments_round_trip :
    let args := Value.object [("\x00\"\\", .int minInt), ("ü", .int maxInt)]
    let job := fun n => JobDescriptor.mk "count" ["1.0"] (nested args n)
    JobDescriptor.parse (job 125).encode = .ok (job 125) ∧
      JobDescriptor.parse (job 126).encode = .error .grammar := by
  intro args job
  have ordered : [("\x00\"\\", Value.int minInt), ("ü", .int maxInt)].Pairwise
      fun a b => a.1 < b.1 := by
    simp only [List.pairwise_cons]
    decide
  have inRange : Value.CanonicalMembers [("\x00\"\\", .int minInt), ("ü", .int maxInt)] := by
    simp [Value.CanonicalMembers, Value.Canonical, minInt, maxInt, wordCount]
  have whole : args.Canonical := ⟨ordered, inRange⟩
  have canonical (n : Nat) : (nested args n).Canonical := nested_canonical whole n
  have depth (n : Nat) : (job n).args.depth = 1 + n := nested_depth args n
  obtain ⟨-, -, -, jobs⟩ := decode_undoes_encode
  constructor
  · rw [jobs (job 125) (canonical 125), if_pos (Nat.le_of_eq (depth 125))]
  · have deep : ¬ (job 126).args.depth ≤ 126 := by
      rw [depth]
      decide
    rw [jobs (job 126) (canonical 126), if_neg deep]

end Fanout
