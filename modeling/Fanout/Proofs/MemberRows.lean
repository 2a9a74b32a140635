import Fanout.Proofs.Listings
import Fanout.Proofs.ProgramFailures

/-! The list of members that the program prints for programs. It is the snapshot in the
topology file once more: one row for every member, in the order of the file, and of all
rows the one with the local id is marked. That there is just one such row is owed to the
file, which would not have been loaded if an id was repeated or the local one missing. -/
namespace Fanout.Console

open Json Listing

/-- A row of the list of members. -/
structure MemberRow where
  id : String
  name : String
  address : String
  isLocal : Bool
  deriving DecidableEq, Repr

/-- The row as it is read back, with its columns in the order of their titles. -/
def MemberRow.toJson (row : MemberRow) : Value :=
  .object [
    ("address", .string row.address),
    ("id", .string row.id),
    ("local", .bool row.isLocal),
    ("name", .string row.name)]

/-- The row shows a member. A dash stands for an address that is not known. -/
structure MemberRow.Shows (row : MemberRow) (n : Node) : Prop where
  id : row.id = n.id.text
  name : row.name = n.name
  address : row.address = n.address.getD "-"

/-- The program succeeds and prints the rows of the members of a snapshot. -/
structure PrintsMembers (snapshot : TopologySnapshot) (ending : Ending) : Prop where
  succeeds : ending.exitCode = 0
  rows : ∃ rows : List MemberRow,
    Value.parse ending.output = .ok (.array (rows.map MemberRow.toJson)) ∧
    List.Forall₂ MemberRow.Shows rows snapshot.members ∧
    rows.countP (·.isLocal) = 1 ∧
    ∀ row ∈ rows, row.isLocal = true ↔ row.id = snapshot.localId.text

variable {host : Host} {snapshot : TopologySnapshot} {topology : Topology} {nodes : List Node}
  {localId : NodeId} {path text : String}

/-! ### Rows -/

/-- The row of a member. -/
def memberRow (localId : NodeId) (n : Node) : MemberRow where
  id := n.id.text
  name := n.name
  address := n.address.getD "-"
  isLocal := n.id == localId

theorem member_row_local_iff (localId : NodeId) (n : Node) :
    (memberRow localId n).isLocal = true ↔ (memberRow localId n).id = localId.text := by
  simp only [memberRow, beq_iff_eq]
  exact ⟨congrArg NodeId.text, congrArg NodeId.mk⟩

theorem member_read_back (localId : NodeId) (n : Node) :
    readRecord (nodeColumns localId) n = (memberRow localId n).toJson := by
  simp +decide only [readRecord, nodeColumns, List.map_cons, List.map_nil, arrange,
    List.foldl_cons, List.foldl_nil, setMember, if_true, if_false, memberRow, MemberRow.toJson]

/-- A list of nodes that is printed for programs reads back as their rows. -/
theorem members_read_back (localId : NodeId) (nodes : List Node) :
    Value.parse (render true (nodeColumns localId) nodes) =
      .ok (.array ((nodes.map (memberRow localId)).map MemberRow.toJson)) := by
  have reads : Value.parse (render true (nodeColumns localId) nodes) =
      .ok (.array (nodes.map (readRecord (nodeColumns localId)))) := by
    have titles : ((nodeColumns localId).map Column.title).Nodup := by simp [nodeColumns]
    refine listing_reads titles ?_ ?_ <;>
      simp [nodeColumns, Value.Canonical, Value.depth, maxDepth]
  rw [reads, List.map_map]
  exact congrArg (fun rows => Except.ok (Value.array rows))
    (List.map_congr_left fun n _ => member_read_back localId n)

theorem rows_show_members (localId : NodeId) (nodes : List Node) :
    List.Forall₂ MemberRow.Shows (nodes.map (memberRow localId)) nodes := by
  rw [List.forall₂_map_left_iff]
  exact List.forall₂_same.mpr fun n _ => ⟨rfl, rfl, rfl⟩

/-- Among members with distinct ids, one of which is the local id, one row is marked. -/
theorem one_row_local (distinct : (nodes.map Node.id).Nodup)
    (listed : localId ∈ nodes.map Node.id) :
    (nodes.map (memberRow localId)).countP (·.isLocal) = 1 := by
  have counted : (nodes.map (memberRow localId)).countP (·.isLocal) =
      (nodes.map Node.id).count localId := by
    rw [List.count, List.countP_map, List.countP_map]
    rfl
  rw [counted, List.count_eq_one_of_mem distinct listed]

/-! ### The program -/

theorem loaded_members_printed (loaded : Topology.ofSnapshot snapshot = .ok topology) :
    PrintsMembers snapshot (host.perform topology true .nodes) := by
  obtain ⟨distinct, listed, taken⟩ := load_taken_over loaded
  refine ⟨rfl, snapshot.members.map (memberRow snapshot.localId), ?_, rows_show_members _ _,
    one_row_local distinct listed, fun row member => ?_⟩
  · simp only [Host.perform, Ending.output, taken.members, taken.named]
    exact members_read_back snapshot.localId snapshot.members
  · obtain ⟨n, -, rfl⟩ := List.mem_map.mp member
    exact member_row_local_iff snapshot.localId n

/-- The command to list the members for programs is understood. The topology file is the one
that the environment names, or the usual one. -/
theorem nodes_command_understood {env : Environment}
    (named : (env "GRIDCAST_TOPOLOGY").getD "topology.json" = path) (nonempty : path ≠ "") :
    Invocation.read env ["nodes", "--json"] = .ok ⟨path, true, .nodes⟩ := by
  have scanned : Given.scan (CommandName.common ++ [.version]) {} none ["nodes", "--json"] =
      .ok ({}, ["nodes", "--json"]) := by decide +kernel
  have options : Given.scan CommandName.nodes.settings {} none ["--json"] =
      .ok (⟨[(.json, "")]⟩, []) := by decide +kernel
  have file : Given.topologyPath? {} ⟨[(.json, "")]⟩ env = some path := by
    have unnamed : Given.value? {} .topology = none := rfl
    have unnamedToo : Given.value? ⟨[(.json, "")]⟩ .topology = none := rfl
    rw [Given.topologyPath?, unnamed, unnamedToo]
    cases known : env "GRIDCAST_TOPOLOGY" with
    | none =>
      rw [known] at named
      exact congrArg some named
    | some given =>
      rw [known, Option.getD_some] at named
      simp [named]
  have command : CommandName.ofText? "nodes" = some .nodes := rfl
  have json : Given.has ⟨[(.json, "")]⟩ .json = true := rfl
  simp [Invocation.read, scanned, command, options, Invocation.ofGiven?, Given.command?, file, json]

/-- **The members are listed faithfully.** Whatever topology a text holds, if it is loaded,
every command line that asks for the list of members for programs succeeds, and what it
prints reads back as one row for every member of the text, one of which is marked. The
plain command is such a command line. -/
theorem members_listed_faithfully (host : Host) (text : String) (topology : Topology)
    (loads : Topology.parse text = .ok topology) :
    ∃ snapshot, TopologySnapshot.parse text = .ok snapshot ∧
      (∀ words path, Invocation.read host.env words = .ok ⟨path, true, .nodes⟩ →
        host.file path = .ok text → PrintsMembers snapshot (run host words)) ∧
      ∀ path, (host.env "GRIDCAST_TOPOLOGY").getD "topology.json" = path → path ≠ "" →
        host.file path = .ok text → PrintsMembers snapshot (run host ["nodes", "--json"]) := by
  cases held : TopologySnapshot.parse text with
  | error fault =>
    rw [Topology.parse, held] at loads
    cases loads
  | ok snapshot =>
    have loaded : Topology.ofSnapshot snapshot = .ok topology := by
      rw [Topology.parse, held] at loads
      exact loads
    have prints (words : List String) (path : String)
        (understood : Invocation.read host.env words = .ok ⟨path, true, .nodes⟩)
        (found : host.file path = .ok text) : PrintsMembers snapshot (run host words) := by
      have file : host.load path = .ok topology := by simp only [Host.load, found, loads]
      have ran : run host words = host.perform topology true .nodes := by
        simp only [run, understood, Invocation.run, file]
      exact ran ▸ loaded_members_printed loaded
    exact ⟨snapshot, rfl, prints, fun path named nonempty found =>
      prints _ path (nodes_command_understood named nonempty) found⟩

/-- The pair is listed with `a` marked, whose address is not known. -/
theorem pair_members_listed :
    Topology.parse pairSnapshotText = .ok ⟨.ofId "a", [.ofId "a", .ofId "b"]⟩ ∧
    PrintsMembers ⟨⟨"a"⟩, [.ofId "a", .ofId "b"]⟩
      (run (hostOf pairSnapshotText) ["nodes", "--json"]) ∧
    PrintsMembers ⟨⟨"a"⟩, [.ofId "a", .ofId "b"]⟩
      (run (hostOf pairSnapshotText) ["--json", "nodes", "--topology=pair"]) := by
  have loads : Topology.parse pairSnapshotText = .ok ⟨.ofId "a", [.ofId "a", .ofId "b"]⟩ := by
    decide +kernel
  have pair : TopologySnapshot.parse pairSnapshotText =
      .ok ⟨⟨"a"⟩, [.ofId "a", .ofId "b"]⟩ := by decide +kernel
  obtain ⟨snapshot, held, prints, plain⟩ :=
    members_listed_faithfully (hostOf pairSnapshotText) pairSnapshotText _ loads
  cases held.symm.trans pair
  exact ⟨loads, plain "topology.json" rfl (by decide) rfl,
    prints _ "pair" (by decide +kernel) rfl⟩

end Fanout.Console
