import Fanout.Proofs.BroadcastRecords
import Fanout.Service.Submit

/-! What a request sees of the past. The ids and the readings that are next depend on how
many were taken, and the dispatcher answers by the calls made so far; nothing else in the
journal matters. Each part of a request is carried over from one past to another one with
the same calls: it comes to the same, and adds the same effects. -/
namespace Fanout

/-- Two journals with as many ids and readings taken, whose effects are those of two pasts
with the same calls and then the same ones. -/
structure Journal.Alike (past other : List Effect) (w v : Journal) : Prop where
  ids : w.idsMade = v.idsMade
  readings : w.readings = v.readings
  grown : ∃ more, w.effects = past ++ more ∧ v.effects = other ++ more
  called : Effect.calls past = Effect.calls other

/-- The step comes to the same, and adds the same effects, whatever the past, as long as
the same calls have been made in it. -/
def Oblivious {α : Type} (step : Journal → α × Journal) : Prop :=
  ∀ ⦃past other : List Effect⦄ ⦃w v : Journal⦄, w.Alike past other v →
    (step w).1 = (step v).1 ∧ (step w).2.Alike past other (step v).2

variable {s : Service} {view : View} {job : JobDescriptor} {past other : List Effect}
  {w v : Journal}

theorem alike_calls (alike : w.Alike past other v) : w.calls = v.calls := by
  obtain ⟨more, grown, otherGrown⟩ := alike.grown
  rw [Journal.calls, Journal.calls, grown, otherGrown, Effect.calls_append, Effect.calls_append,
    alike.called]

theorem alike_record (alike : w.Alike past other v) (effect : Effect) :
    (w.record effect).Alike past other (v.record effect) := by
  obtain ⟨more, grown, otherGrown⟩ := alike.grown
  refine ⟨alike.ids, alike.readings, ⟨more ++ [effect], ?_, ?_⟩, alike.called⟩
  · rw [Journal.record, grown, List.append_assoc]
  · rw [Journal.record, otherGrown, List.append_assoc]

/-! ### One run -/

/-- A run begins with the next id and the next reading, and the dispatcher knows the
calls. -/
theorem beginning_alike (alike : w.Alike past other v) (node : Node) :
    s.beginning view job node w = s.beginning view job node v := by
  simp only [Service.beginning, Service.memberRun, Service.departedRecord, alike.ids,
    alike.readings, alike_calls alike]

theorem begin_oblivious (s : Service) (view : View) (job : JobDescriptor) (node : Node) :
    Oblivious (s.beginRun view job node) := by
  intro past other w v alike
  have same : s.beginning view job node w = s.beginning view job node v :=
    beginning_alike alike node
  have made : w.idsMade + 1 = v.idsMade + 1 := congrArg (· + 1) alike.ids
  have taken : w.readings + 2 = v.readings + 2 := congrArg (· + 2) alike.readings
  cases member : view.has node.id with
  | false =>
    rw [Service.begin_departed _ _ _ _ _ member, Service.begin_departed _ _ _ _ _ member]
    exact ⟨same, made, taken, alike.grown, alike.called⟩
  | true =>
    rw [Service.begin_member _ _ _ _ _ member, Service.begin_member _ _ _ _ _ member]
    have call : s.memberRun view job node w = s.memberRun view job node v := by
      rw [beginning_member member, beginning_member member] at same
      exact Begun.dispatched.inj same
    refine ⟨same, made, taken, ?_, alike.called⟩
    rw [call]
    exact (alike_record alike _).grown

theorem finish_oblivious (s : Service) (run : Pending) : Oblivious (s.finishRun run) := by
  intro past other w v alike
  obtain ⟨ids, readings, grown, called⟩ := alike_record alike (.callEnded run.call)
  simp only [Service.finishRun, Service.readClock]
  rw [readings]
  split
  · exact ⟨rfl, ids, rfl, grown, called⟩
  · exact ⟨rfl, ids, rfl, grown, called⟩

/-- A run on its own begins and, if it was dispatched, ends. -/
theorem run_one_oblivious (s : Service) (view : View) (job : JobDescriptor) (node : Node) :
    Oblivious (s.runOne view job node) := by
  intro past other w v alike
  obtain ⟨same, grown⟩ := begin_oblivious s view job node alike
  simp only [Service.runOne]
  cases begins : s.beginRun view job node w with
  | mk begun later =>
    cases otherBegins : s.beginRun view job node v with
    | mk otherBegun otherLater =>
      rw [begins, otherBegins] at same grown
      cases same
      cases begun with
      | settled result => exact ⟨rfl, grown⟩
      | dispatched run => exact finish_oblivious s run grown

/-! ### The schedule -/

theorem await_oblivious (s : Service) (pauses : Nat) (run : Pending) :
    Oblivious (s.await pauses run) := by
  intro past other w v alike
  cases pauses with
  | zero =>
    obtain ⟨same, grown⟩ := finish_oblivious s run alike
    exact ⟨congrArg Progress.ended same, grown⟩
  | succ left => exact ⟨rfl, alike⟩

theorem advance_oblivious (s : Service) (view : View) (job : JobDescriptor) (holder : Holder) :
    Oblivious (s.advance view job holder) := by
  intro past other w v alike
  cases holder with
  | paused left run => exact await_oblivious s left run alike
  | granted node =>
    obtain ⟨same, grown⟩ := begin_oblivious s view job node alike
    simp only [Service.advance]
    cases begins : s.beginRun view job node w with
    | mk begun later =>
      cases otherBegins : s.beginRun view job node v with
      | mk otherBegun otherLater =>
        rw [begins, otherBegins] at same grown
        cases same
        cases begun with
        | settled result => exact ⟨rfl, grown⟩
        | dispatched run => exact await_oblivious s s.dispatcher.pause run grown

theorem attend_oblivious (s : Service) (view : View) (job : JobDescriptor) (holder : Holder)
    (place : Nat) (roster : Roster) : Oblivious (s.attend view job holder place roster) := by
  intro past other w v alike
  simp only [Service.attend]
  split
  · exact ⟨rfl, alike⟩
  · obtain ⟨same, grown⟩ := advance_oblivious s view job holder alike
    exact ⟨congrArg ((roster.charge holder).settle place) same, grown⟩

theorem drive_oblivious (s : Service) (view : View) (job : JobDescriptor) (limit : Option Nat)
    (runs : Nat) (roster : Roster) : Oblivious (s.drive view job limit runs roster) := by
  intro past other w v alike
  induction roster, w using Service.drive.induct s view job limit runs generalizing v with
  | case1 roster w next granted ih =>
    rw [drive_grant granted, drive_grant granted]
    exact ih alike
  | case2 roster w ungranted done =>
    rw [drive_done ungranted done, drive_done ungranted done]
    exact ⟨rfl, alike⟩
  | case3 roster w ungranted holder place next found after =>
    rename_i ih
    obtain ⟨same, grown⟩ := attend_oblivious s view job holder place next alike
    rw [drive_carry ungranted found, drive_carry ungranted found, ← same]
    exact ih grown

/-! ### Requests -/

theorem reads_alike (alike : w.Alike past other v) :
    w.afterReads.Alike past other v.afterReads :=
  alike_record (alike_record alike .readLocal) .readMembers

theorem broadcast_oblivious (s : Service) (target : BroadcastTarget Node) (job : JobDescriptor) :
    Oblivious (s.broadcast target job) := by
  intro past other w v alike
  simp only [Service.broadcast, read_topology]
  split
  · exact ⟨rfl, alike⟩
  · split
    · exact ⟨rfl, alike⟩
    · simp only [Service.broadcastSome]
      split
      · exact ⟨rfl, reads_alike alike⟩
      · rename_i node rest _ _
        obtain ⟨same, grown⟩ := drive_oblivious s s.view job s.config.maxParallel
          (node :: rest).length (.entry (node :: rest) (s.executor.allowance s.config.maxParallel))
          (reads_alike alike)
        simp only [Service.runAll, same]
        split <;> exact ⟨rfl, grown⟩

theorem submit_oblivious (s : Service) (target : JobTarget) (job : JobDescriptor) (draw : Nat) :
    Oblivious (s.submit target job draw) := by
  intro past other w v alike
  simp only [Service.submit, read_topology]
  split
  · exact ⟨rfl, alike⟩
  · split
    · exact ⟨rfl, reads_alike alike⟩
    · exact run_one_oblivious s s.view job _ (reads_alike alike)

end Fanout
