import Fanout.Node
import Fanout.Violation
import Std.Data.HashSet

/-! The nodes that a job is meant for. A target keeps its nodes exactly as given:
their order, repetitions, names and addresses. Targets are equal when they name
the same nodes in the same order. -/
namespace Fanout

/-- The tag of a broadcast target. -/
inductive BroadcastKind where
  | allNodes
  deriving DecidableEq, Repr

def BroadcastKind.name : BroadcastKind → String
  | .allNodes => "ALL_NODES"

/-- How the nodes of a target are handed in. -/
inductive TargetForm where
  /-- As a sequence. -/
  | sequence
  /-- As a sequence that might have been absent. -/
  | optional
  /-- One by one. -/
  | elements
  deriving DecidableEq, Repr

/-- The sequence of elements that are handed in one by one. They are gathered in an
array first. -/
def gathered {α : Type} (elements : List α) : List α := (elements.foldl Array.push #[]).toList

@[simp] theorem gathered_eq {α : Type} (elements : List α) : gathered elements = elements := by
  simp [gathered]

/-- All nodes that a job is broadcast to. -/
structure BroadcastTarget (α : Type) where
  nodes : List α
  deriving Repr

namespace BroadcastTarget

variable {α : Type}

def kind (_ : BroadcastTarget α) : BroadcastKind := .allNodes

/-- The target of a sequence that may be absent. -/
def ofOption (nodes : Option (List α)) : Except Violation (BroadcastTarget α) :=
  match nodes with
  | some nodes => .ok ⟨nodes⟩
  | none => .error (.nullArgument "nodes")

/-- The target of a sequence that is handed in in a form. -/
def ofForm (form : TargetForm) (nodes : List α) : Except Violation (BroadcastTarget α) :=
  match form with
  | .sequence => .ok ⟨nodes⟩
  | .optional => ofOption (some nodes)
  | .elements => .ok ⟨gathered nodes⟩

/-- The same elements in the same order. -/
instance [BEq α] : BEq (BroadcastTarget α) := ⟨fun a b => a.nodes == b.nodes⟩

/-- The hash of a sequence, from the hashes of its elements in order. -/
def hashAll [Hashable α] (nodes : List α) : UInt64 :=
  nodes.foldl (fun h n => mixHash h (hash n)) 7

instance [Hashable α] : Hashable (BroadcastTarget α) := ⟨fun t => hashAll t.nodes⟩

end BroadcastTarget

/-- How many different elements a list has, counted with a hash set. -/
def distinctCount {α : Type} [BEq α] [Hashable α] (xs : List α) : Nat :=
  (Std.HashSet.ofList xs).size

/-- The node or nodes that a single job is meant for. -/
inductive JobTarget where
  /-- Exactly this node. -/
  | node (node : Node)
  /-- Any one of these nodes. -/
  | anyNode (candidates : List Node)
  deriving Repr

namespace JobTarget

/-- The target of candidates that may be absent. -/
def anyOf (candidates : Option (List Node)) : Except Violation JobTarget :=
  match candidates with
  | some candidates => .ok (.anyNode candidates)
  | none => .error (.nullArgument "nodes")

/-- The target of candidates that are handed in in a form. -/
def ofForm (form : TargetForm) (candidates : List Node) : Except Violation JobTarget :=
  match form with
  | .sequence => .ok (.anyNode candidates)
  | .optional => anyOf (some candidates)
  | .elements => .ok (.anyNode (gathered candidates))

/-- The nodes that a target names. -/
def candidates : JobTarget → List Node
  | .node n => [n]
  | .anyNode candidates => candidates

/-- The same form of target with the same nodes in the same order. -/
instance : BEq JobTarget where
  beq
    | .node a, .node b => a == b
    | .anyNode xs, .anyNode ys => xs == ys
    | _, _ => false

end JobTarget

end Fanout
