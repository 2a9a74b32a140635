import Fanout.Json.Decode

/-! The states of a job on one node. A job waits, runs, and ends in one of three
ways; a job in an ending state never changes again. -/
namespace Fanout

/-- The state of a job on one node. -/
inductive JobState where
  | queued
  | executing
  | completed
  | failed
  | canceled
  deriving DecidableEq, Repr

namespace JobState

/-- The states in the order in which messages list them. -/
def all : List JobState := [.queued, .executing, .completed, .failed, .canceled]

/-- The name of a state in messages and wire forms. -/
def name : JobState → String
  | .queued => "QUEUED"
  | .executing => "EXECUTING"
  | .completed => "COMPLETED"
  | .failed => "FAILED"
  | .canceled => "CANCELED"

/-- The job has ended. -/
def isFinal : JobState → Bool
  | .completed | .failed | .canceled => true
  | .queued | .executing => false

/-- The state with this name. -/
def ofName? (name : String) : Option JobState :=
  all.find? (·.name == name)

/-- The state of this name, or the fault that there is none. -/
def named (name : String) : Except Json.Fault JobState :=
  match ofName? name with
  | some state => .ok state
  | none => .error (.shape (.unknownVariant name (all.map JobState.name)))

def toJson (state : JobState) : Json.Value := .string state.name

/-- Reads the name of a state. Anything but a string is malformed. -/
def readName : Json.Reader JobState := fun s =>
  match Json.skipSpace s with
  | [] => .error .eof
  | c :: rest =>
    if c = '"' then
      match Json.stringRest rest with
      | .error fault => .error fault
      | .ok (name, rest) => (named name).map (·, rest)
    else .error .grammar

/-- Reads a state from its name, or from an object whose one member has that name
and is null. Anything else in its place is malformed. -/
def read (depth : Nat) : Json.Reader JobState := fun s =>
  match Json.skipSpace s with
  | [] => .error .eof
  | c :: rest =>
    if c = '\x7b' then
      match depth with
      | 0 => .error .grammar
      | _ + 1 =>
        match readName rest with
        | .error fault => .error fault
        | .ok (state, rest) =>
          match Json.colon rest with
          | .error fault => .error fault
          | .ok rest =>
            match Json.unit rest with
            | .error fault => .error fault
            | .ok (_, rest) => (Json.closeObject rest).map (state, ·)
    else readName (c :: rest)

/-- The state that a text holds. -/
def parse (text : String) : Except Json.Fault JobState :=
  Json.whole read text

/-- The wire form of a state as text. -/
def encode (state : JobState) : String :=
  state.toJson.compact

end JobState

end Fanout
