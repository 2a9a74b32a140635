import Fanout.Job.State
import Fanout.Violation

/-! The status of one job on one node: its state and the times of its changes. A
refused change leaves the status as it was. -/
namespace Fanout

/-- The id of a job on one node. -/
abbrev JobId := String

/-- A time, in milliseconds since the epoch. -/
abbrev Millis := Int64

/-- The status of a job on one node. -/
structure JobStatus where
  id : JobId
  state : JobState
  createdAt : Millis
  startedAt : Option Millis
  finishedAt : Option Millis
  deriving DecidableEq, Repr

namespace JobStatus

/-- The status of a job that waits. -/
def queued (id : JobId) (createdAt : Millis) : JobStatus :=
  ⟨id, .queued, createdAt, none, none⟩

/-- The change from the present state to `target` is against the rules. -/
def refuse (status : JobStatus) (target : JobState) : Violation :=
  .invalidTransition status.state.name target.name

/-- A job that waits begins to run. -/
def start (status : JobStatus) (now : Millis) : Except Violation JobStatus :=
  if status.state = .queued then
    .ok { status with state := .executing, startedAt := some now }
  else .error (status.refuse .executing)

/-- A job that runs ends well. -/
def complete (status : JobStatus) (now : Millis) : Except Violation JobStatus :=
  if status.state = .executing then
    .ok { status with state := .completed, finishedAt := some now }
  else .error (status.refuse .completed)

/-- A job that has not ended fails. It may fail without ever having run. -/
def fail (status : JobStatus) (now : Millis) : Except Violation JobStatus :=
  if status.state.isFinal then .error (status.refuse .failed)
  else .ok { status with state := .failed, finishedAt := some now }

/-- A job that has not ended is canceled. -/
def cancel (status : JobStatus) (now : Millis) : Except Violation JobStatus :=
  if status.state.isFinal then .error (status.refuse .canceled)
  else .ok { status with state := .canceled, finishedAt := some now }

/-- The changes that can be asked of a status. -/
inductive Change where
  | start
  | complete
  | fail
  | cancel
  deriving DecidableEq, Repr

/-- The state that a change leads to. -/
def Change.target : Change → JobState
  | .start => .executing
  | .complete => .completed
  | .fail => .failed
  | .cancel => .canceled

/-- The status after a change. -/
def change (status : JobStatus) (change : Change) (now : Millis) : Except Violation JobStatus :=
  match change with
  | .start => status.start now
  | .complete => status.complete now
  | .fail => status.fail now
  | .cancel => status.cancel now

/-- Asks for one change after the other and answers each with its result and the
status that holds after it. -/
def replay (status : JobStatus) :
    List (Change × Millis) → List (Except Violation Unit × JobStatus)
  | [] => []
  | (c, now) :: rest =>
    match status.change c now with
    | .ok next => (.ok (), next) :: replay next rest
    | .error violation => (.error violation, status) :: replay status rest

/-! ### Wire form -/

/-- A time in its wire form, null when there is none. -/
def timeJson : Option Millis → Json.Value
  | some t => .int t.toInt
  | none => .null

def toJson (status : JobStatus) : Json.Value :=
  .object [
    ("id", .string status.id),
    ("state", status.state.toJson),
    ("created_at", .int status.createdAt.toInt),
    ("started_at", timeJson status.startedAt),
    ("finished_at", timeJson status.finishedAt)]

/-- A status that is being read. -/
structure Draft where
  id : Option JobId := none
  state : Option JobState := none
  createdAt : Option Millis := none
  startedAt : Option (Option Millis) := none
  finishedAt : Option (Option Millis) := none

/-- A status is read from its id, state and time of creation; the other times may
be left out of an object, but not out of an array. -/
def shape : Json.Shape Draft JobStatus where
  title := "struct JobStatus"
  blank := {}
  fields := [
    { name := "id", filled := (·.id.isSome), trailing := false
      read := fun _ d s => (Json.string s).map fun (v, s) => ({ d with id := some v }, s) },
    { name := "state", filled := (·.state.isSome), trailing := false
      read := fun depth d s =>
        (JobState.read depth s).map fun (v, s) => ({ d with state := some v }, s) },
    { name := "created_at", filled := (·.createdAt.isSome), trailing := false
      read := fun _ d s =>
        (Json.int64 s).map fun (v, s) => ({ d with createdAt := some v }, s) },
    { name := "started_at", filled := (·.startedAt.isSome), trailing := false
      read := fun _ d s =>
        (Json.optional Json.int64 s).map fun (v, s) => ({ d with startedAt := some v }, s) },
    { name := "finished_at", filled := (·.finishedAt.isSome), trailing := false
      read := fun _ d s =>
        (Json.optional Json.int64 s).map fun (v, s) => ({ d with finishedAt := some v }, s) }]
  finish d :=
    match Json.required "id" d.id with
    | .error m => .error m
    | .ok id =>
      match Json.required "state" d.state with
      | .error m => .error m
      | .ok state =>
        match Json.required "created_at" d.createdAt with
        | .error m => .error m
        | .ok createdAt => .ok ⟨id, state, createdAt, d.startedAt.join, d.finishedAt.join⟩

/-- The status that a text holds. -/
def parse (text : String) : Except Json.Fault JobStatus :=
  Json.whole shape.read text

/-- The wire form of a status as text. -/
def encode (status : JobStatus) : String :=
  status.toJson.compact

end JobStatus

end Fanout
