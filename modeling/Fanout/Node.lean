import Fanout.Json.Decode

/-! Nodes of a cluster. A node is known by its id; a handle on it also carries a
name and perhaps an address, and two handles with one id mean the same node
whatever else they carry. `==` on handles compares ids, `=` compares handles. -/
namespace Fanout

/-- The id of a node. -/
structure NodeId where
  text : String
  deriving DecidableEq, Hashable, Repr

instance : ToString NodeId := ⟨NodeId.text⟩

/-- Ids are ordered like their texts, code point by code point. -/
def NodeId.le (a b : NodeId) : Bool := a.text ≤ b.text

/-- A handle on a node. -/
structure Node where
  id : NodeId
  name : String
  address : Option String
  deriving DecidableEq, Repr

namespace Node

/-- Two handles on the same node. -/
instance : BEq Node := ⟨fun a b => a.id == b.id⟩

instance : Hashable Node := ⟨fun n => hash n.id⟩

theorem beq_iff {a b : Node} : (a == b) = true ↔ a.id = b.id :=
  beq_iff_eq (a := a.id) (b := b.id)

instance : EquivBEq Node where
  rfl := beq_iff.mpr rfl
  symm same := beq_iff.mpr (beq_iff.mp same).symm
  trans same other := beq_iff.mpr ((beq_iff.mp same).trans (beq_iff.mp other))

instance : LawfulHashable Node where
  hash_eq _ _ same := congrArg (fun id : NodeId => hash id) (beq_iff.mp same)

/-- A handle that knows the id alone; the name is the id. -/
def ofId (id : String) : Node := ⟨⟨id⟩, id, none⟩

def withName (n : Node) (name : String) : Node := { n with name }

def withAddress (n : Node) (address : String) : Node := { n with address := some address }

/-- The handle in words: the id, then name and address in parentheses. -/
def display (n : Node) : String :=
  match n.address with
  | some address => n.id.text ++ " (" ++ n.name ++ "@" ++ address ++ ")"
  | none => n.id.text ++ " (" ++ n.name ++ ")"

/-! ### Wire form -/

/-- The members of the wire form; a missing address is left out. -/
def toJson (n : Node) : Json.Value :=
  .object ([("id", .string n.id.text), ("name", .string n.name)] ++
    match n.address with
    | some address => [("address", .string address)]
    | none => [])

/-- A node that is being read. -/
structure Draft where
  id : Option String := none
  name : Option String := none
  address : Option (Option String) := none

/-- A node is read from its id, its name and, perhaps, its address. -/
def shape : Json.Shape Draft Node where
  title := "struct ClusterNode"
  blank := {}
  fields := [
    { name := "id", filled := (·.id.isSome), trailing := false
      read := fun _ d s => (Json.string s).map fun (v, s) => ({ d with id := some v }, s) },
    { name := "name", filled := (·.name.isSome), trailing := false
      read := fun _ d s => (Json.string s).map fun (v, s) => ({ d with name := some v }, s) },
    { name := "address", filled := (·.address.isSome), trailing := true
      read := fun _ d s =>
        (Json.optional Json.string s).map fun (v, s) => ({ d with address := some v }, s) }]
  finish d :=
    match Json.required "id" d.id with
    | .error m => .error m
    | .ok id =>
      match Json.required "name" d.name with
      | .error m => .error m
      | .ok name => .ok ⟨⟨id⟩, name, d.address.join⟩

/-- The node that a text holds. -/
def parse (text : String) : Except Json.Fault Node :=
  Json.whole shape.read text

/-- The wire form of a node as text. -/
def encode (n : Node) : String :=
  n.toJson.compact

end Node

end Fanout
