import Fanout.Console.Table
import Fanout.Json.Writer
import Fanout.Service.Basic

/-! Lists for people and for programs. A list has columns, each with a title and a
value for every element; it is written as a JSON array with one object for every
element, or as a table. -/
namespace Fanout.Console

/-- A column of a list. -/
structure Column (α : Type) where
  title : String
  value : α → Json.Value

/-- A value in a cell of a table: a string stands there as it is. -/
def cellText : Json.Value → String
  | .string s => s
  | value => value.compact

namespace Listing

variable {α : Type}

/-- An element as an object. -/
def record (columns : List (Column α)) (x : α) : Json.Value :=
  .object (columns.map fun column => (column.title, column.value x))

/-- A list as a JSON array. -/
def toJson (columns : List (Column α)) (xs : List α) : Json.Value :=
  .array (xs.map (record columns))

/-- A list as a table. -/
def toTable (columns : List (Column α)) (xs : List α) : Table where
  titles := columns.map Column.title
  rows := xs.map fun x => columns.map fun column => cellText (column.value x)

/-- A list as it is printed, with the end of its last line. -/
def render (asJson : Bool) (columns : List (Column α)) (xs : List α) : String :=
  if asJson then (toJson columns xs).pretty ++ "\n"
  else (toTable columns xs).render ++ "\n"

end Listing

/-- What is listed of a member: its id, its name, its address if it has one, and
whether it is the local node. -/
def nodeColumns (localId : NodeId) : List (Column Node) := [
  ⟨"id", fun n => .string n.id.text⟩,
  ⟨"name", fun n => .string n.name⟩,
  ⟨"address", fun n => .string (n.address.getD "-")⟩,
  ⟨"local", fun n => .bool (n.id == localId)⟩]

/-- An outcome in a cell: the result as JSON text, or the message for its absence. -/
def outcomeText : Outcome → String
  | .ok value => value.compact
  | .error e => e.message

/-- What is listed of a job on one node. -/
def executionColumns : List (Column Execution) := [
  ⟨"node", fun e => .string e.node.id.text⟩,
  ⟨"job_id", fun e => .string e.status.id⟩,
  ⟨"route", fun e => .string ((e.route.map Route.name).getD "-")⟩,
  ⟨"state", fun e => .string e.status.state.name⟩,
  ⟨"result", fun e => .string (outcomeText e.outcome)⟩]

end Fanout.Console
