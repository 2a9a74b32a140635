import Fanout.Topology
import Mathlib.Data.List.Nodup

/-! Loading a topology. A snapshot is accepted exactly if it lists every node once and the
local one among them. Of the two ways to fail, a repeated id is looked for first, and the
report names the first id in the list that stands in front of itself. Since no id is
repeated in what is accepted, every later lookup by id has one answer. -/
namespace Fanout

/-- The id at a place stands further in front too. -/
def RepeatsAt (ids : List NodeId) (place : Nat) (id : NodeId) : Prop :=
  ids[place]? = some id ∧ id ∈ ids.take place

/-- The first place at which an id repeats one in front of it. -/
def FirstRepeat (ids : List NodeId) (place : Nat) (id : NodeId) : Prop :=
  RepeatsAt ids place id ∧ ∀ earlier < place, ∀ other, ¬ RepeatsAt ids earlier other

/-- The refusal of a snapshot that lists a node twice. -/
def repeatedMember (id : NodeId) : ServiceError :=
  .config ("duplicate member id in topology: " ++ id.text)

/-- The refusal of a snapshot that does not list the local node. -/
def localMissing (id : NodeId) : ServiceError :=
  .config ("local node '" ++ id.text ++ "' is not a topology member")

/-- A topology has taken over a snapshot: its members as they are, and of them the one with
the local id. A lookup finds exactly the members, each under its id. -/
structure TakenOver (snapshot : TopologySnapshot) (topology : Topology) : Prop where
  members : topology.members = snapshot.members
  listed : topology.localNode ∈ snapshot.members
  named : topology.localNode.id = snapshot.localId
  unique : ∀ n ∈ snapshot.members, n.id = snapshot.localId → n = topology.localNode
  found : ∀ id n, topology.member? id = some n ↔ n ∈ snapshot.members ∧ n.id = id
  itself : topology.member? topology.localNode.id = some topology.localNode

variable {seen : List NodeId} {nodes : List Node} {snapshot : TopologySnapshot}

/-! ### The first repeated id -/

/-- No id is reported just if none is repeated, in the list or from those seen before. -/
theorem repeated_eq_none_iff : Topology.repeated? seen nodes = none ↔
    (nodes.map Node.id).Nodup ∧ ∀ id ∈ nodes.map Node.id, id ∉ seen := by
  induction nodes generalizing seen with
  | nil => simp [Topology.repeated?]
  | cons n rest ih =>
    rw [Topology.repeated?]
    split
    · rename_i again
      simp [again]
    · rename_i fresh
      simp only [ih, List.map_cons, List.nodup_cons, List.mem_cons, not_or, forall_eq_or_imp]
      constructor
      · rintro ⟨distinct, unseen⟩
        exact ⟨⟨fun member => (unseen _ member).1 rfl, distinct⟩, fresh,
          fun id member => (unseen id member).2⟩
      · rintro ⟨⟨once, distinct⟩, -, unseen⟩
        exact ⟨distinct, fun id member => ⟨fun same => once (same ▸ member), unseen id member⟩⟩

/-- The id that is reported stands at the first place where an id was met before. -/
theorem repeated_first {id : NodeId} (reported : Topology.repeated? seen nodes = some id) :
    let ids := nodes.map Node.id
    ∃ place, ids[place]? = some id ∧ (id ∈ seen ∨ id ∈ ids.take place) ∧
      ∀ earlier < place, ∀ other, ids[earlier]? = some other →
        other ∉ seen ∧ other ∉ ids.take earlier := by
  induction nodes generalizing seen with
  | nil => cases reported
  | cons n rest ih =>
    rw [Topology.repeated?] at reported
    split at reported
    · rename_i again
      cases reported
      exact ⟨0, rfl, .inl again, fun _ before => absurd before (Nat.not_lt_zero _)⟩
    · rename_i fresh
      obtain ⟨place, here, met, others⟩ := ih reported
      refine ⟨place + 1, here, ?_, ?_⟩
      · rcases met with met | met
        · rcases List.mem_cons.mp met with rfl | met
          · exact .inr List.mem_cons_self
          · exact .inl met
        · exact .inr (List.mem_cons_of_mem _ met)
      · rintro (_ | earlier) before other there
        · cases there
          exact ⟨fresh, List.not_mem_nil⟩
        · obtain ⟨unseen, first⟩ := others earlier (Nat.lt_of_succ_lt_succ before) other there
          simp only [List.mem_cons, not_or] at unseen
          simp only [List.map_cons, List.take_succ_cons, List.mem_cons, not_or]
          exact ⟨unseen.2, unseen.1, first⟩

/-- Of all ids, the one that is reported is the first that repeats another. -/
theorem reported_first_repeat {id : NodeId} (reported : Topology.repeated? [] nodes = some id) :
    ∃ place, FirstRepeat (nodes.map Node.id) place id := by
  obtain ⟨place, here, met, others⟩ := repeated_first reported
  refine ⟨place, ⟨here, met.resolve_left List.not_mem_nil⟩, ?_⟩
  intro earlier before other repeats
  exact (others earlier before other repeats.1).2 repeats.2

theorem first_repeat_unique {ids : List NodeId} {place other : Nat} {id another : NodeId}
    (first : FirstRepeat ids place id) (too : FirstRepeat ids other another) : id = another := by
  have same : place = other := by
    rcases Nat.lt_trichotomy place other with before | same | after
    · exact absurd first.1 (too.2 place before id)
    · exact same
    · exact absurd too.1 (first.2 other after another)
  subst same
  exact Option.some.inj (first.1.1.symm.trans too.1.1)

theorem not_nodup_of_repeats {ids : List NodeId} {place : Nat} {id : NodeId}
    (repeats : RepeatsAt ids place id) : ¬ ids.Nodup := by
  intro distinct
  obtain ⟨here, met⟩ := repeats
  obtain ⟨earlier, inside, there⟩ := List.mem_take_iff_getElem.mp met
  obtain ⟨within, same⟩ := List.getElem?_eq_some_iff.mp here
  have places := (distinct.getElem_inj_iff).mp (there.trans same.symm)
  omega

/-! ### Snapshots -/

theorem load_repeated {place : Nat} {id : NodeId}
    (first : FirstRepeat (snapshot.members.map Node.id) place id) :
    Topology.ofSnapshot snapshot = .error (repeatedMember id) := by
  cases reported : Topology.repeated? [] snapshot.members with
  | none => exact absurd (repeated_eq_none_iff.mp reported).1 (not_nodup_of_repeats first.1)
  | some other =>
    obtain ⟨_, too⟩ := reported_first_repeat reported
    rw [Topology.ofSnapshot, reported, first_repeat_unique too first]
    rfl

/-- If the ids are distinct, everything turns on whether the local node is listed. -/
theorem load_distinct (distinct : (snapshot.members.map Node.id).Nodup) :
    Topology.ofSnapshot snapshot =
      match snapshot.members.find? (·.id == snapshot.localId) with
      | some localNode => .ok ⟨localNode, snapshot.members⟩
      | none => .error (localMissing snapshot.localId) := by
  rw [Topology.ofSnapshot, repeated_eq_none_iff.mpr ⟨distinct, fun _ _ => List.not_mem_nil⟩]
  rfl

theorem load_unlisted (distinct : (snapshot.members.map Node.id).Nodup)
    (absent : snapshot.localId ∉ snapshot.members.map Node.id) :
    Topology.ofSnapshot snapshot = .error (localMissing snapshot.localId) := by
  have none : snapshot.members.find? (·.id == snapshot.localId) = none := by
    simpa using absent
  rw [load_distinct distinct, none]

theorem load_listed (distinct : (snapshot.members.map Node.id).Nodup)
    (listed : snapshot.localId ∈ snapshot.members.map Node.id) :
    ∃ topology, Topology.ofSnapshot snapshot = .ok topology := by
  obtain ⟨n, member, same⟩ := List.mem_map.mp listed
  have some : (snapshot.members.find? (·.id == snapshot.localId)).isSome := by
    rw [List.find?_isSome]
    exact ⟨n, member, beq_iff_eq.mpr same⟩
  obtain ⟨localNode, found⟩ := Option.isSome_iff_exists.mp some
  rw [load_distinct distinct, found]
  exact ⟨_, rfl⟩

theorem find_member_iff (distinct : (nodes.map Node.id).Nodup) {id : NodeId} {n : Node} :
    nodes.find? (·.id == id) = some n ↔ n ∈ nodes ∧ n.id = id := by
  constructor
  · intro found
    have same := List.find?_some found
    exact ⟨List.mem_of_find?_eq_some found, beq_iff_eq.mp same⟩
  · rintro ⟨member, rfl⟩
    have some : (nodes.find? (·.id == n.id)).isSome := by
      rw [List.find?_isSome]
      exact ⟨n, member, beq_self_eq_true _⟩
    obtain ⟨other, found⟩ := Option.isSome_iff_exists.mp some
    have same := List.find?_some found
    rw [found, List.inj_on_of_nodup_map distinct (List.mem_of_find?_eq_some found) member
      (beq_iff_eq.mp same)]

/-- A snapshot that is accepted is taken over, and it had the local node among distinct
members. -/
theorem load_taken_over {topology : Topology}
    (loaded : Topology.ofSnapshot snapshot = .ok topology) :
    (snapshot.members.map Node.id).Nodup ∧ snapshot.localId ∈ snapshot.members.map Node.id ∧
      TakenOver snapshot topology := by
  have distinct : (snapshot.members.map Node.id).Nodup := by
    cases reported : Topology.repeated? [] snapshot.members with
    | none => exact (repeated_eq_none_iff.mp reported).1
    | some id =>
      obtain ⟨place, first⟩ := reported_first_repeat reported
      rw [load_repeated first] at loaded
      cases loaded
  rw [load_distinct distinct] at loaded
  split at loaded
  · rename_i localNode found
    cases loaded
    obtain ⟨listed, named⟩ := (find_member_iff distinct).mp found
    refine ⟨distinct, named ▸ List.mem_map_of_mem listed, rfl, listed, named, ?_,
      fun id n => find_member_iff distinct, (find_member_iff distinct).mpr ⟨listed, rfl⟩⟩
    intro n member same
    exact List.inj_on_of_nodup_map distinct member listed (same.trans named.symm)
  · cases loaded

/-- **Exactly the well-formed snapshots are loaded.** The ids have to be distinct and the
local one among them. The first id that repeats another is reported before a local node that
is not listed. What is accepted is taken over, and a text is loaded like the snapshot that
it holds. -/
theorem exactly_well_formed_snapshots_load (snapshot : TopologySnapshot) :
    let ids := snapshot.members.map Node.id
    ((∃ topology, Topology.ofSnapshot snapshot = .ok topology) ↔
      ids.Nodup ∧ snapshot.localId ∈ ids) ∧
    (ids.Nodup ∨ ∃ place id, FirstRepeat ids place id) ∧
    (∀ place id, FirstRepeat ids place id →
      Topology.ofSnapshot snapshot = .error (repeatedMember id)) ∧
    (ids.Nodup → snapshot.localId ∉ ids →
      Topology.ofSnapshot snapshot = .error (localMissing snapshot.localId)) ∧
    (∀ topology, Topology.ofSnapshot snapshot = .ok topology → TakenOver snapshot topology) ∧
    ∀ text, TopologySnapshot.parse text = .ok snapshot →
      Topology.parse text = Topology.ofSnapshot snapshot := by
  refine ⟨⟨?_, fun ⟨distinct, listed⟩ => load_listed distinct listed⟩, ?_,
    fun _ _ => load_repeated, load_unlisted,
    fun topology loaded => (load_taken_over loaded).2.2, ?_⟩
  · rintro ⟨topology, loaded⟩
    obtain ⟨distinct, listed, -⟩ := load_taken_over loaded
    exact ⟨distinct, listed⟩
  · cases reported : Topology.repeated? [] snapshot.members with
    | none => exact .inl (repeated_eq_none_iff.mp reported).1
    | some id =>
      obtain ⟨place, first⟩ := reported_first_repeat reported
      exact .inr ⟨place, id, first⟩
  · intro text held
    rw [Topology.parse, held]

/-- The text of a snapshot of the node `b` alone. -/
def loneSnapshotText : String :=
  "\x7b\"local\":\"b\",\"members\":[\x7b\"id\":\"b\",\"name\":\"b\"\x7d]\x7d"

/-- Both `b` and `a` are listed twice and the local `c` is not listed. The second `b` comes
first. -/
theorem doubly_broken_snapshot_reported :
    Topology.ofSnapshot ⟨⟨"c"⟩, [.ofId "a", .ofId "b", .ofId "b", .ofId "a"]⟩ =
      .error (repeatedMember ⟨"b"⟩) ∧
    Topology.ofSnapshot ⟨⟨"c"⟩, [.ofId "a", .ofId "b"]⟩ = .error (localMissing ⟨"c"⟩) ∧
    TakenOver ⟨⟨"b"⟩, [.ofId "a", .ofId "b"]⟩ ⟨.ofId "b", [.ofId "a", .ofId "b"]⟩ ∧
    Topology.parse loneSnapshotText = Topology.ofSnapshot ⟨⟨"b"⟩, [.ofId "b"]⟩ := by
  refine ⟨?_, ?_, ?_, ?_⟩
  · refine (exactly_well_formed_snapshots_load _).2.2.1 2 _ ⟨⟨rfl, by decide⟩, ?_⟩
    rintro (_ | _ | earlier) before other ⟨here, met⟩
    · cases met
    · cases here
      exact absurd met (by decide)
    · omega
  · exact (exactly_well_formed_snapshots_load _).2.2.2.1 (by decide) (by decide)
  · exact (exactly_well_formed_snapshots_load _).2.2.2.2.1 _ rfl
  · have held : TopologySnapshot.parse loneSnapshotText = .ok ⟨⟨"b"⟩, [.ofId "b"]⟩ := by
      decide +kernel
    exact (exactly_well_formed_snapshots_load _).2.2.2.2.2 _ held

end Fanout
