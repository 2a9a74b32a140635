import Fanout.Proofs.PastCalls
import Fanout.Proofs.RequestCourses
import Fanout.Service.Session

/-! Requests that run nothing leave no trace. A request that is answered with an error,
with a report of nobody or by stopping the program has taken no id and no reading and has
called nobody; at most it has read the topology. So requests of this kind can be put into
a history anywhere without a change to what the other requests come to. -/
namespace Fanout

/-- The request has run nothing: it was refused, it stopped the program, or its report
is empty. -/
def Answer.IsVoid : Answer → Prop
  | .broadcast (.error _) => True
  | .broadcast (.ok report) => report.executions = []
  | .submit (.error _) => True
  | .submit (.ok _) => False
  | .setTopology (.error _) => True
  | .setTopology (.ok _) => False
  | .setConfig _ => False

/-- A request in a history: one of its own, or one that was put in. -/
inductive Entry where
  | own (request : Request)
  | inserted (request : Request)

namespace Entry

def request : Entry → Request
  | .own request | .inserted request => request

/-- The request, if it is one of the history's own. -/
def own? : Entry → Option Request
  | .own request => some request
  | .inserted _ => none

end Entry

/-- Of what the requests of a history come to, what its own requests come to. -/
def ownResults {α : Type} : List Entry → List α → List α
  | .own _ :: rest, result :: results => result :: ownResults rest results
  | .inserted _ :: rest, _ :: results => ownResults rest results
  | _, _ => []

namespace Session

/-- Every request that was put into the history runs nothing where it stands. -/
def InsertsVoid : Session → List Entry → Prop
  | _, [] => True
  | session, .own request :: rest => InsertsVoid (session.perform request).2 rest
  | session, .inserted request :: rest =>
    (session.perform request).1.IsVoid ∧ InsertsVoid (session.perform request).2 rest

/-- The sessions have the same service, and as much has been used up and the same calls have
been made in both. -/
structure Agrees (session other : Session) : Prop where
  service : session.service = other.service
  ids : session.journal.idsMade = other.journal.idsMade
  readings : session.journal.readings = other.journal.readings
  calls : session.journal.calls = other.journal.calls

end Session

variable {session other third : Session} {request : Request} {history : List Entry}

theorem agrees_refl (session : Session) : session.Agrees session := ⟨rfl, rfl, rfl, rfl⟩

theorem agrees_trans (first : session.Agrees other) (second : other.Agrees third) :
    session.Agrees third :=
  ⟨first.service.trans second.service, first.ids.trans second.ids,
    first.readings.trans second.readings, first.calls.trans second.calls⟩

/-! ### One request -/

/-- Sessions that agree are still so after what an oblivious request adds to the journals
of both, and it adds the same. -/
theorem agrees_grown {service : Service} {w v later otherLater : Journal}
    (grown : later.Alike w.effects v.effects otherLater) :
    later.since w = otherLater.since v ∧
      (Session.mk service later).Agrees (Session.mk service otherLater) := by
  refine ⟨?_, rfl, grown.ids, grown.readings, alike_calls grown⟩
  obtain ⟨more, extended, otherExtended⟩ := grown.grown
  rw [Journal.since_eq extended, Journal.since_eq otherExtended]

/-- A request comes to the same in sessions that agree. -/
theorem perform_agrees (agrees : session.Agrees other) (request : Request) :
    (session.perform request).1 = (other.perform request).1 ∧
      (session.perform request).2.journal.since session.journal =
        (other.perform request).2.journal.since other.journal ∧
      (session.perform request).2.Agrees (other.perform request).2 := by
  obtain ⟨service, w⟩ := session
  obtain ⟨otherService, v⟩ := other
  have alike : w.Alike w.effects v.effects v :=
    ⟨agrees.ids, agrees.readings, ⟨[], by simp, by simp⟩, agrees.calls⟩
  obtain rfl : service = otherService := agrees.service
  cases request with
  | broadcast target job =>
    obtain ⟨same, grown⟩ := broadcast_oblivious service target job alike
    exact ⟨congrArg Answer.broadcast same, agrees_grown grown⟩
  | submit target job draw =>
    obtain ⟨same, grown⟩ := submit_oblivious service target job draw alike
    exact ⟨congrArg Answer.submit same, agrees_grown grown⟩
  | setTopology source =>
    simp only [Session.perform]
    cases source.load with
    | error e => exact ⟨rfl, agrees_grown alike⟩
    | ok topology => exact ⟨rfl, agrees_grown alike⟩
  | setConfig config => exact ⟨rfl, agrees_grown alike⟩

/-- A void request changes nothing but what was read of the topology. -/
theorem void_agrees (void : (session.perform request).1.IsVoid) :
    (session.perform request).2.Agrees session := by
  obtain ⟨service, w⟩ := session
  cases request with
  | broadcast target job =>
    simp only [Session.perform] at void ⊢
    cases answered : service.broadcast target job w with
    | mk answer later =>
      rw [answered] at void
      cases broadcast_course answered with
      | invalid | nobody => exact agrees_refl _
      | stopped => exact ⟨rfl, rfl, rfl, afterReads_calls w⟩
      | @ran records valid named within results nodes =>
        have none : records = [] := void
        rw [none] at nodes
        exact absurd (FirstHandles.distinct_nodes_eq_nil_iff.mp nodes.symm) named
  | submit target job draw =>
    simp only [Session.perform] at void ⊢
    cases answered : service.submit target job draw w with
    | mk answer later =>
      rw [answered] at void
      cases submit_course answered with
      | invalid => exact agrees_refl _
      | nobody => exact ⟨rfl, rfl, rfl, afterReads_calls w⟩
      | ran => exact void.elim
  | setTopology source =>
    simp only [Session.perform] at void ⊢
    cases loaded : source.load with
    | error e => exact agrees_refl _
    | ok topology =>
      rw [loaded] at void
      exact void.elim
  | setConfig config => exact void.elim

/-! ### Whole histories -/

/-- Sessions that agree before a history agree after it, with or without the requests that
were put into it, and its own requests come to the same. -/
theorem history_agrees (agrees : session.Agrees other) (void : session.InsertsVoid history) :
    ownResults history (session.performAll (history.map Entry.request)).1 =
        (other.performAll (history.filterMap Entry.own?)).1 ∧
      (session.performAll (history.map Entry.request)).2.Agrees
        (other.performAll (history.filterMap Entry.own?)).2 := by
  induction history generalizing session other with
  | nil => exact ⟨rfl, agrees⟩
  | cons entry rest ih =>
    cases entry with
    | own request =>
      obtain ⟨answer, effects, next⟩ := perform_agrees agrees request
      obtain ⟨results, last⟩ := ih next void
      refine ⟨?_, last⟩
      simp only [List.map_cons, Entry.request, Session.performAll, ownResults, answer, effects,
        results, List.filterMap_cons, Entry.own?]
    | inserted request =>
      obtain ⟨here, later⟩ := void
      exact ih (agrees_trans (void_agrees here) agrees) later

/-- **Requests that run nothing leave no trace.** If every request that was put into a
history runs nothing where it stands, the answers to the history's own requests, with their
records, and the effects of each are the same without them. -/
theorem void_requests_leave_no_trace (session : Session) (history : List Entry)
    (void : session.InsertsVoid history) :
    ownResults history (session.performAll (history.map Entry.request)).1 =
        (session.performAll (history.filterMap Entry.own?)).1 ∧
      (session.performAll (history.map Entry.request)).2.Agrees
        (session.performAll (history.filterMap Entry.own?)).2 :=
  history_agrees (agrees_refl session) void

/-- A broadcast and a submit, with a change of the configuration in between, and requests
of every kind that runs nothing: a job without a name, nobody to broadcast to, nobody to
draw from, a text that is no topology, and a limit that asks for too many permits. -/
def interruptedGreeting : List Entry := [
  .inserted (.broadcast mixedTarget ⟨"", [], .null⟩),
  .inserted (.broadcast ⟨[]⟩ ⟨"greet", [], .null⟩),
  .own (.broadcast mixedTarget ⟨"greet", [], .null⟩),
  .inserted (.submit (.anyNode []) ⟨"greet", [], .null⟩ 0),
  .inserted (.setTopology (.text "")),
  .own (.setConfig ⟨.reject, some (maxPermits + 1)⟩),
  .inserted (.broadcast ⟨[]⟩ ⟨"greet", [], .null⟩),
  .inserted (.broadcast mixedTarget ⟨"greet", [], .null⟩),
  .own (.submit (.node (.ofId "b")) ⟨"greet", [], .null⟩ 0)]

theorem interrupted_greeting_untouched :
    ownResults interruptedGreeting ((Session.fresh (pairService (some 1) 2)).performAll
        (interruptedGreeting.map Entry.request)).1 =
      ((Session.fresh (pairService (some 1) 2)).performAll [
        .broadcast mixedTarget ⟨"greet", [], .null⟩,
        .setConfig ⟨.reject, some (maxPermits + 1)⟩,
        .submit (.node (.ofId "b")) ⟨"greet", [], .null⟩ 0]).1 := by
  have void : (Session.fresh (pairService (some 1) 2)).InsertsVoid interruptedGreeting :=
    ⟨trivial, rfl, trivial, trivial, trivial, trivial, trivial⟩
  exact (void_requests_leave_no_trace _ interruptedGreeting void).1

end Fanout
