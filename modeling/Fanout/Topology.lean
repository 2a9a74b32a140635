import Fanout.Node
import Fanout.ServiceError

/-! The nodes of a cluster as one process sees them: the node it runs on and all
members. A topology comes from a snapshot, which has to list every node once and
the local one among them, or is put together from handles. -/
namespace Fanout

/-- The local node and the members of a cluster. -/
structure Topology where
  localNode : Node
  members : List Node
  deriving DecidableEq, Repr

/-- The wire form of a topology: the id of the local node and the members. -/
structure TopologySnapshot where
  localId : NodeId
  members : List Node
  deriving DecidableEq, Repr

namespace TopologySnapshot

def toJson (snapshot : TopologySnapshot) : Json.Value :=
  .object [
    ("local", .string snapshot.localId.text),
    ("members", .array (snapshot.members.map Node.toJson))]

/-- A snapshot that is being read. -/
structure Draft where
  localId : Option String := none
  members : Option (List Node) := none

/-- A snapshot is read from the id of the local node and the members. -/
def shape : Json.Shape Draft TopologySnapshot where
  title := "struct TopologySnapshot"
  blank := {}
  fields := [
    { name := "local", filled := (·.localId.isSome), trailing := false
      read := fun _ d s =>
        (Json.string s).map fun (v, s) => ({ d with localId := some v }, s) },
    { name := "members", filled := (·.members.isSome), trailing := false
      read := fun depth d s =>
        (Json.list Node.shape.read depth s).map fun (v, s) =>
          ({ d with members := some v }, s) }]
  finish d :=
    match Json.required "local" d.localId with
    | .error m => .error m
    | .ok localId =>
      match Json.required "members" d.members with
      | .error m => .error m
      | .ok members => .ok ⟨⟨localId⟩, members⟩

/-- The snapshot that a text holds. -/
def parse (text : String) : Except Json.Fault TopologySnapshot :=
  Json.whole shape.read text

/-- The wire form of a snapshot as text. -/
def encode (snapshot : TopologySnapshot) : String :=
  snapshot.toJson.compact

end TopologySnapshot

namespace Topology

/-- The first member with an id. -/
def member? (topology : Topology) (id : NodeId) : Option Node :=
  topology.members.find? (·.id == id)

/-- The members as given, with the local node in front unless a member has its id. -/
def ofMembers (localNode : Node) (members : List Node) : Topology :=
  ⟨localNode, if members.contains localNode then members else localNode :: members⟩

/-- The first id that a member before it has, or that was seen already. -/
def repeated? (seen : List NodeId) : List Node → Option NodeId
  | [] => none
  | n :: rest => if n.id ∈ seen then some n.id else repeated? (n.id :: seen) rest

/-- The topology of a snapshot. A repeated id is reported before a local node that
is no member. -/
def ofSnapshot (snapshot : TopologySnapshot) : Except ServiceError Topology :=
  match repeated? [] snapshot.members with
  | some id => .error (.config ("duplicate member id in topology: " ++ id.text))
  | none =>
    match snapshot.members.find? (·.id == snapshot.localId) with
    | some localNode => .ok ⟨localNode, snapshot.members⟩
    | none =>
      .error (.config ("local node '" ++ snapshot.localId.text ++ "' is not a topology member"))

/-- The topology whose snapshot a text holds. -/
def parse (text : String) : Except ServiceError Topology :=
  match TopologySnapshot.parse text with
  | .error fault => .error (.serialization fault)
  | .ok snapshot => ofSnapshot snapshot

end Topology

/-- Where a topology comes from. -/
inductive TopologySource where
  /-- The text of a snapshot. -/
  | text (json : String)
  /-- Handles on the local node and the members. -/
  | handles (localNode : Node) (members : List Node)
  /-- A provider that answers exactly this, the local node a member or not. -/
  | provider (topology : Topology)

/-- The topology from a source. -/
def TopologySource.load : TopologySource → Except ServiceError Topology
  | .text json => Topology.parse json
  | .handles localNode members => .ok (Topology.ofMembers localNode members)
  | .provider topology => .ok topology

end Fanout
