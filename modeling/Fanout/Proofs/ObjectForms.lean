import Fanout.Proofs.WireForms

/-! Decoding of objects. Nodes, jobs, statuses and snapshots are decoded by the names of
their fields: the order of the fields does not matter, a member that is no field is skipped
whatever it holds, and a field that has its default may be left out. What an object is
refused for depends on nothing behind the first fault. -/
namespace Fanout

open Json

namespace Json

variable {δ α : Type} {shape : Shape δ α} {needed : List String}

/-- How records are decoded from objects. `needed` are the fields that have no default, in
the order in which they are declared; `Writes` are the texts of the fields of a record and
`Default` the fields that an object for it may leave out. A field that has a default is
never missed: without it, the object spells the record that has the default there. -/
structure DecodesByName (parse : String → Except Fault α) (shape : Shape δ α)
    (needed : List String) (Writes : α → String → List Char → Prop)
    (Default : α → String → Prop) : Prop where
  declared : needed.Sublist (shape.fields.map Field.name)
  noDefault : ∀ a, ∀ name ∈ needed, ¬ Default a name
  /-- The texts of the fields are well formed and well typed. -/
  fits : ∀ a entry, shape.Spells (Writes a) entry → shape.Fits (maxDepth - 1) entry
  /-- A record is decoded from every object that spells it. -/
  reads : ∀ a t text before after, shape.ObjectOf (Writes a) (Default a) t → Blank before →
    Blank after → text.toList = before ++ (t ++ after) → parse text = .ok a
  /-- An object without a field that it needs, or with a field twice, is refused as that. -/
  refuses : ∀ mismatch t text before rest, shape.Refused needed (maxDepth - 1) mismatch t →
    Blank before → text.toList = before ++ (t ++ rest) → parse text = .error (.shape mismatch)

/-- A shape that reads by the names of its fields, and reads back each record from the texts
of its fields, decodes by name. -/
theorem decodes_by_name {Writes : α → String → List Char → Prop} {Default : α → String → Prop}
    {portion : α → (String → Bool) → δ} (law : shape.ByName needed)
    (portions : ∀ a, shape.Portions (maxDepth - 1) a (Writes a) (Default a) (portion a))
    (declared : needed.Sublist (shape.fields.map Field.name))
    (noDefault : ∀ a, ∀ name ∈ needed, ¬ Default a name) :
    DecodesByName (whole shape.read) shape needed Writes Default where
  declared := declared
  noDefault := noDefault
  fits a _ spells := fits_of_spells (portions a) spells
  reads := by
    intro a t text before after spelled blank ends same
    have reads := spelled_reads (portions a) spelled blank after
    exact whole_reads (same ▸ reads) ends
  refuses := by
    intro mismatch t text before rest refused blank same
    have refuses := refused_reads law refused blank rest
    exact whole_refuses (same ▸ refuses)

theorem refused_opens {depth : Nat} {mismatch : Mismatch} {t : List Char}
    (refused : shape.Refused needed depth mismatch t) : ∃ more, t = '\x7b' :: more := by
  cases refused with
  | missing text =>
    obtain ⟨u, ws, rfl, -⟩ := text
    exact ⟨_, rfl⟩
  | repeated => exact ⟨_, rfl⟩

end Json

/-! ### Members of a snapshot -/

namespace TopologySnapshot

/-- The text is one of a value that the reader takes. -/
def TakenAs {α : Type} (read : Reader α) (a : α) (t : List Char) : Prop :=
  Opens t ∧ ∀ rest, Boundary rest → read (t ++ rest) = .ok (a, rest)

/-- The beginnings of snapshots with a member that is refused, whatever comes behind. What
stands before that member is well formed and well typed. -/
inductive MemberRefused : Mismatch → List Char → Prop where
  | mk {entries : List (String × List Char)} {u gap kt ws more : List Char} {nodes : List Node}
      {v space t : List Char} {mismatch : Mismatch}
      (series : Series (Entry StringRest Eq) true entries u)
      (fits : ∀ entry ∈ entries, shape.Fits (maxDepth - 1) entry)
      (once : (shape.named entries).Nodup) (new : "members" ∉ entries.map Prod.fst)
      (between : Gap entries.isEmpty gap) (text : StringRest "members" kt) (before : Blank ws)
      (after : Blank more)
      (others : Series (TakenAs (Node.shape.read (maxDepth - 2))) true nodes v)
      (behind : Gap nodes.isEmpty space)
      (refused : Node.shape.Refused Node.needed (maxDepth - 3) mismatch t) :
      MemberRefused mismatch ('\x7b' :: (u ++ (gap ++ '"' :: (kt ++ (ws ++ ':' :: (more ++
        '[' :: (v ++ (space ++ t))))))))

variable {t : List Char} {mismatch : Mismatch}

theorem node_taken (n : Node) (text : n.Spelled t) :
    TakenAs (Node.shape.read (maxDepth - 2)) n t :=
  ⟨n.spelled_opens t text,
    fun rest _ => spelled_reads (n.portions (maxDepth - 3)) text blank_nil rest⟩

/-- A list of nodes is refused at the first node that is. -/
theorem nodes_refused {nodes : List Node} {v space more : List Char}
    (others : Series (TakenAs (Node.shape.read (maxDepth - 2))) true nodes v)
    (behind : Gap nodes.isEmpty space)
    (refused : Node.shape.Refused Node.needed (maxDepth - 3) mismatch t) (after : Blank more)
    (rest : List Char) :
    Json.list Node.shape.read (maxDepth - 1) (more ++ '[' :: (v ++ (space ++ (t ++ rest)))) =
      .error (.shape mismatch) := by
  have reads : ReadsItems (Node.shape.read (maxDepth - 2))
      (TakenAs (Node.shape.read (maxDepth - 2))) .ok nodes :=
    fun _ _ _ rest taken boundary => taken.2 rest boundary
  have refuses := refused_reads Node.byName refused blank_nil rest
  obtain ⟨tail, rfl⟩ := refused_opens refused
  have opens : Opens ('\x7b' :: tail) := ⟨_, _, rfl, rfl, by decide⟩
  have boundary : Boundary (('\x7b' :: tail) ++ rest) := boundary_cons (by simp) _
  rw [Json.list, skipSpace_to after (show isSpace '[' = false from rfl)]
  exact arrayRest_fault (fun _ _ taken => taken.1) reads others (mapM_ok nodes) behind opens
    boundary refuses

theorem member_refused (refused : MemberRefused mismatch t) {ws : List Char} (blank : Blank ws)
    (rest : List Char) :
    shape.read maxDepth (ws ++ (t ++ rest)) = .error (.shape mismatch) := by
  cases refused with
  | @mk entries u gap kt space more nodes v apart t _ series fits once new between text before
      after others behind refused =>
    obtain ⟨last, folded, filled, -⟩ := fits_has byName fits once
    have unfilled : last.members.isSome = false := by
      have found : last.members.isSome = (shape.named entries).contains "members" :=
        filled _ (List.mem_cons_of_mem _ List.mem_cons_self)
      rw [found, ← Bool.not_eq_true, List.contains_iff_mem]
      exact fun member => new (mem_named.mp member).1
    have list := nodes_refused others behind refused after rest
    have member : shape.member (maxDepth - 1) last "members" (space ++ ':' :: (more ++
        '[' :: (v ++ (apart ++ (t ++ rest))))) = .error (.shape mismatch) := by
      have known : shape.fields.find? (·.name == "members") = shape.fields[1]? := rfl
      rw [Shape.member, known]
      simp only [shape, List.getElem?_cons_succ, List.getElem?_cons_zero, unfilled,
        colon_reads before, list]
      rfl
    simp only [List.cons_append, List.append_assoc]
    exact record_fault series fits folded between text member blank

end TopologySnapshot

/-- **Objects are decoded by the names of their fields.** A node, a job, a status and a
snapshot are decoded from every object that has texts of their fields, in whatever order,
with any other members among them. The first needed field that is missing and the first
field that comes twice are what an object is refused for, also when the object is a member
of a snapshot. -/
theorem objects_decode_by_name :
    DecodesByName Node.parse Node.shape Node.needed Node.Writes Node.Default ∧
    DecodesByName JobDescriptor.parse JobDescriptor.shape JobDescriptor.needed
      JobDescriptor.Writes JobDescriptor.Default ∧
    DecodesByName JobStatus.parse JobStatus.shape JobStatus.needed JobStatus.Writes
      JobStatus.Default ∧
    DecodesByName TopologySnapshot.parse TopologySnapshot.shape TopologySnapshot.needed
      TopologySnapshot.Writes (fun _ _ => False) ∧
    ∀ mismatch t text before rest, TopologySnapshot.MemberRefused mismatch t → Blank before →
      text.toList = before ++ (t ++ rest) →
      TopologySnapshot.parse text = .error (.shape mismatch) := by
  refine ⟨?node, ?job, ?status, ?snapshot, ?member⟩
  case node =>
    refine decodes_by_name Node.byName (fun n => n.portions _) (by decide) ?_
    simp [Node.needed, Node.Default]
  case job =>
    refine decodes_by_name JobDescriptor.byName (fun job => job.portions) (by decide) ?_
    simp [JobDescriptor.needed, JobDescriptor.Default]
  case status =>
    refine decodes_by_name JobStatus.byName (fun status => status.portions _) (by decide) ?_
    simp [JobStatus.needed, JobStatus.Default]
  case snapshot =>
    refine decodes_by_name TopologySnapshot.byName
      (fun snapshot => snapshot.portions (maxDepth - 3)) (by decide) ?_
    simp
  case member =>
    intro mismatch t text before rest refused blank same
    have refuses := TopologySnapshot.member_refused refused blank rest
    exact whole_refuses (same ▸ refuses)

/-- Foreign members with one name twice, a field in front of the one declared before it, and
no address: the node is decoded. Without its id, or with two, it is not, also as a member. -/
theorem shuffled_objects_decoded :
    Node.parse (Value.object [("zone", .array [.object []]), ("name", .string "b"),
      ("zone", .null), ("id", .string "a")]).compact = .ok ⟨⟨"a"⟩, "b", none⟩ ∧
    Node.parse (Value.object [("zone", .null), ("address", .null)]).compact =
      .error (.shape (.missingField "id")) ∧
    Node.parse (Value.object [("id", .string "a"), ("id", .null)]).compact =
      .error (.shape (.duplicateField "id")) ∧
    TopologySnapshot.parse (Value.object [("members", .array [
      .object [("name", .string "b"), ("id", .string "a")],
      .object [("name", .string "c")]])]).compact = .error (.shape (.missingField "id")) := by
  obtain ⟨node, -, -, -, member⟩ := objects_decode_by_name
  let a : Node := ⟨⟨"a"⟩, "b", none⟩
  let c : Node := ⟨⟨"c"⟩, "c", none⟩
  refine ⟨?shuffled, ?missing, ?repeated, ?inside⟩
  case shuffled =>
    have spelled : a.Spelled (Value.object [("zone", .array [.object []]), ("name", .string "b"),
        ("zone", .null), ("id", .string "a")]).chars := by
      refine written_spells ?_ (by decide) (by simp [Node.shape, Node.Default, a])
      simp only [List.forall_mem_cons]
      exact ⟨chars_json _, chars_text (.string "b") trivial, chars_json _,
        chars_text (.string "a") trivial, by simp⟩
    exact node.reads a _ _ [] [] spelled blank_nil blank_nil (by simp [Value.compact])
  case missing =>
    have refused : Node.shape.Refused Node.needed (maxDepth - 1) (.missingField "id")
        (Value.object [("zone", .null), ("address", .null)]).chars := by
      refine .missing (written_text _) ?_ (by decide) (by decide)
      simp only [written, List.map_cons, List.map_nil, List.forall_mem_cons]
      exact ⟨node.fits a _ (chars_json .null), node.fits a _ (chars_text .null trivial), by simp⟩
    exact node.refuses _ _ _ [] [] refused blank_nil (by simp [Value.compact])
  case repeated =>
    have series : Series (Entry StringRest Eq) true [("id", (Value.string "a").chars)] _ :=
      .cons (.opening blank_nil) (.mk (quotedRest_text "id") blank_nil blank_nil rfl) .nil
    have fits : ∀ entry ∈ [("id", (Value.string "a").chars)],
        Node.shape.Fits (maxDepth - 1) entry := by
      simp only [List.forall_mem_cons]
      exact ⟨node.fits a _ (chars_text (.string "a") trivial), by simp⟩
    have refused : Node.shape.Refused Node.needed (maxDepth - 1) _ _ :=
      .repeated series fits (by decide) (by decide) (.comma blank_nil blank_nil)
        (quotedRest_text "id")
    exact node.refuses _ _ _ [] _ refused blank_nil (by simp [Value.compact]; rfl)
  case inside =>
    have spelled : a.Spelled (Value.object [("name", .string "b"), ("id", .string "a")]).chars := by
      refine written_spells ?_ (by decide) (by simp [Node.shape, Node.Default, a])
      simp only [List.forall_mem_cons]
      exact ⟨chars_text (.string "b") trivial, chars_text (.string "a") trivial, by simp⟩
    have refused : Node.shape.Refused Node.needed (maxDepth - 3) (.missingField "id")
        (Value.object [("name", .string "c")]).chars := by
      refine .missing (written_text _) ?_ (by decide) (by decide)
      simp only [written, List.map_cons, List.map_nil, List.forall_mem_cons]
      exact ⟨fits_of_spells (c.portions _) (chars_text (.string "c") trivial), by simp⟩
    have inside := TopologySnapshot.MemberRefused.mk .nil (by simp) (by decide) (by simp)
      (.opening blank_nil) (quotedRest_text "members") blank_nil blank_nil
      (.cons (.opening blank_nil) (TopologySnapshot.node_taken a spelled) .nil)
      (.comma blank_nil blank_nil) refused
    exact member _ _ _ [] _ inside blank_nil (by simp [Value.compact]; rfl)

end Fanout
