import Fanout.Json.Decode
import Fanout.Text.Blank
import Fanout.Violation

/-! What to run: the name of a job class, the deployment units it is loaded from
and free-form arguments. -/
namespace Fanout

/-- A job. -/
structure JobDescriptor where
  className : String
  units : List String := []
  args : Json.Value := .null

namespace JobDescriptor

/-- The class and every unit have to have a name. -/
def validate (job : JobDescriptor) : Except Violation Unit :=
  if Text.isBlank job.className then
    .error (.invalidValue "job class name cannot be empty")
  else if job.units.any Text.isBlank then
    .error (.invalidValue "deployment unit name cannot be empty")
  else .ok ()

/-! ### Wire form -/

def toJson (job : JobDescriptor) : Json.Value :=
  .object [
    ("job_class_name", .string job.className),
    ("units", .array (job.units.map .string)),
    ("args", job.args)]

/-- A job that is being read. -/
structure Draft where
  className : Option String := none
  units : Option (List String) := none
  args : Option Json.Value := none

/-- A job is read from its class; its units and arguments may be left out. -/
def shape : Json.Shape Draft JobDescriptor where
  title := "struct JobDescriptor"
  blank := {}
  fields := [
    { name := "job_class_name", filled := (·.className.isSome), trailing := false
      read := fun _ d s =>
        (Json.string s).map fun (v, s) => ({ d with className := some v }, s) },
    { name := "units", filled := (·.units.isSome), trailing := true
      read := fun depth d s =>
        (Json.list (fun _ => Json.string) depth s).map fun (v, s) =>
          ({ d with units := some v }, s) },
    { name := "args", filled := (·.args.isSome), trailing := true
      read := fun depth d s =>
        (Json.value depth s).map fun (v, s) => ({ d with args := some v }, s) }]
  finish d :=
    match Json.required "job_class_name" d.className with
    | .error m => .error m
    | .ok className => .ok ⟨className, d.units.getD [], d.args.getD .null⟩

/-- The job that a text holds. -/
def parse (text : String) : Except Json.Fault JobDescriptor :=
  Json.whole shape.read text

/-- The wire form of a job as text. -/
def encode (job : JobDescriptor) : String :=
  job.toJson.compact

end JobDescriptor

end Fanout
