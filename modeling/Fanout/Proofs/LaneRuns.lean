import Fanout.Proofs.EffectCounts
import Fanout.Proofs.RunRecords
import Fanout.Service.Interleaving

/-! One run in any interleaving. `Lane.Sound` ties what a run has come to with the
journal it began with: a run that has not begun has made no id and no call, one that
has begun has made one id and at most the one call that its record tells of, and a
run that has ended has the record of a run on its node. Every step of a run keeps
this, and the lemmas on a step say what it adds to the journal. -/
namespace Fanout

/-- The run has begun. -/
def Stage.hasBegun : Stage → Bool
  | .waiting | .granted => false
  | .begun _ | .ended _ => true

@[simp] theorem hasBegun_waiting : Stage.waiting.hasBegun = false := rfl
@[simp] theorem hasBegun_granted : Stage.granted.hasBegun = false := rfl
@[simp] theorem hasBegun_begun (start : Begun) : (Stage.begun start).hasBegun = true := rfl
@[simp] theorem hasBegun_ended (result : RunResult) : (Stage.ended result).hasBegun = true := rfl

/-- The run has ended. -/
def Stage.hasEnded : Stage → Bool
  | .ended _ => true
  | _ => false

/-- The calls with which a run begins. -/
def Begun.calls : Begun → List Call
  | .settled _ => []
  | .dispatched run => [run.call]

/-- What a run has made and come to, if it began with a journal of some origin. -/
def Lane.Sound (s : Service) (view : View) (job : JobDescriptor) (origin : Journal → Prop)
    (lane : Lane) : Prop :=
  match lane.stage with
  | .waiting | .granted => lane.idsMade = 0 ∧ lane.calls = []
  | .begun start =>
    lane.idsMade = 1 ∧ ∃ w, origin w ∧ start = s.beginning view job lane.node w ∧
      lane.calls = start.calls
  | .ended result =>
    lane.idsMade = 1 ∧ ∃ w reading, origin w ∧
      result = .ok (s.runRecord view job lane.node w (s.clock reading)) ∧
      lane.calls =
        (s.dispatcher.callOf (s.runRecord view job lane.node w (s.clock reading))).toList

variable {s : Service} {view : View} {job : JobDescriptor} {origin : Journal → Prop}
  {free next : Nat} {lane moved : Lane} {w later : Journal}

/-! ### How a run begins -/

theorem beginning_departed {node : Node} (departed : view.has node.id = false) :
    s.beginning view job node w = .settled (.ok (s.departedRecord node w)) := by
  simp [Service.beginning, departed]

theorem beginning_member {node : Node} (member : view.has node.id = true) :
    s.beginning view job node w = .dispatched (s.memberRun view job node w) := by
  simp [Service.beginning, member]

/-- The beginning of a run makes one id and the calls it begins with. -/
theorem begin_run_adds {node : Node} {begun : Begun}
    (begins : s.beginRun view job node w = (begun, later)) :
    begun = s.beginning view job node w ∧ later.idsMade = w.idsMade + 1 ∧
      later.effects = w.effects ++ begun.calls.map .callBegun := by
  cases member : view.has node.id with
  | true =>
    rw [Service.begin_member _ _ _ _ _ member] at begins
    cases begins
    exact ⟨rfl, rfl, by simp [beginning_member member, Begun.calls]⟩
  | false =>
    rw [Service.begin_departed _ _ _ _ _ member] at begins
    cases begins
    exact ⟨rfl, rfl, by simp [beginning_departed member, Begun.calls]⟩

/-- The record that a run settles with as it begins. -/
theorem settled_record {node : Node} {result : RunResult} (now : Millis)
    (settled : Begun.settled result = s.beginning view job node w) :
    result = .ok (s.runRecord view job node w now) ∧
      s.dispatcher.callOf (s.runRecord view job node w now) = none := by
  cases member : view.has node.id with
  | true => rw [beginning_member member] at settled; cases settled
  | false =>
    rw [beginning_departed member] at settled
    cases settled
    simp [Service.runRecord, member, Service.departedRecord, Dispatcher.callOf]

/-- A run that was dispatched ends with its record, which tells of its call. -/
theorem dispatched_record {node : Node} {run : Pending} {start : Journal}
    (dispatched : Begun.dispatched run = s.beginning view job node start) :
    (s.finishRun run w).1 = .ok (s.runRecord view job node start (s.clock w.readings)) ∧
      s.dispatcher.callOf (s.runRecord view job node start (s.clock w.readings)) =
        some run.call := by
  cases member : view.has node.id with
  | false => rw [beginning_departed member] at dispatched; cases dispatched
  | true =>
    rw [beginning_member member] at dispatched
    cases dispatched
    rw [Service.finish_result s w rfl]
    simp [Service.runRecord, member, Service.call_of_record]

/-! ### Steps of a run -/

/-- A run has made at most one id and at most one call. -/
theorem sound_at_most_once (sound : lane.Sound s view job origin) :
    lane.idsMade ≤ 1 ∧ lane.calls.length ≤ 1 := by
  cases stage : lane.stage with
  | waiting | granted =>
    simp only [Lane.Sound, stage] at sound
    simp [sound]
  | begun start =>
    simp only [Lane.Sound, stage] at sound
    obtain ⟨once, _, _, _, called⟩ := sound
    cases start <;> simp [once, called, Begun.calls]
  | ended result =>
    simp only [Lane.Sound, stage] at sound
    obtain ⟨once, _, _, _, _, called⟩ := sound
    rw [called]
    exact ⟨Nat.le_of_eq once, Option.length_toList_le⟩

/-- Every step of a run keeps it sound; its origin is settled when it begins. -/
theorem sound_step (step : LaneStep s view job free lane w next moved later)
    (sound : lane.Sound s view job origin) (starts : lane.stage = .granted → origin w) :
    moved.Sound s view job origin := by
  cases step with
  | grant waits => simpa [Lane.Sound, Lane.reach, waits] using sound
  | start granted begins =>
    obtain ⟨same, ids, effects⟩ := begin_run_adds begins
    simp only [Lane.Sound, granted] at sound
    refine ⟨by simp [Lane.reach, sound, ids], w, starts granted, same, ?_⟩
    simp only [Lane.reach, sound, Journal.since_eq effects, List.nil_append,
      Effect.calls_map_callBegun]
  | @settle _ _ _ result settled =>
    simp only [Lane.Sound, settled] at sound
    obtain ⟨once, start, origin, same, called⟩ := sound
    obtain ⟨ended, silent⟩ := settled_record (s.clock 0) same
    exact ⟨by simp [Lane.reach, once], start, 0, origin, ended,
      by simp [Lane.reach, called, Begun.calls, silent]⟩
  | finish dispatched finishes =>
    simp only [Lane.Sound, dispatched] at sound
    obtain ⟨once, start, origin, same, called⟩ := sound
    obtain ⟨ended, call⟩ := dispatched_record (w := w) same
    rw [finishes] at ended
    have journal := Service.finish_journal finishes
    subst journal
    refine ⟨by simp [Lane.reach, once], start, w.readings, origin, ended, ?_⟩
    simp [Lane.reach, called, Begun.calls, call, Journal.since, Effect.calls, Effect.call?]

/-- A step of a run puts its effects behind those of the journal. Its calls are counted
with the run, and the calls it opens and ends are open as long as its stage says. -/
theorem step_effects (step : LaneStep s view job free lane w next moved later) :
    ∃ more, later.effects = w.effects ++ more ∧ moved.calls = lane.calls ++ Effect.calls more ∧
      Effect.reads more = [] ∧
      ∀ others, Effect.openAfter (others + lane.stage.openCalls) more =
          others + moved.stage.openCalls ∧
        Effect.peak (others + lane.stage.openCalls) more =
          max (others + lane.stage.openCalls) (others + moved.stage.openCalls) := by
  cases step with
  | grant waits =>
    exact ⟨[], by simp [Lane.reach, waits, Stage.openCalls, Effect.openAfter, Effect.peak,
      Effect.reads]⟩
  | @start _ _ _ _ begun granted begins =>
    obtain ⟨-, -, effects⟩ := begin_run_adds begins
    refine ⟨_, effects, by simp [Lane.reach, Journal.since_eq effects], ?_⟩
    cases begun <;>
      simp [Lane.reach, granted, Begun.calls, Stage.openCalls, Effect.openAfter, Effect.peak,
        Effect.reads, Effect.isRead]
  | settle settled =>
    exact ⟨[], by simp [Lane.reach, settled, Stage.openCalls, Effect.openAfter, Effect.peak,
      Effect.reads]⟩
  | finish dispatched finishes =>
    have journal := Service.finish_journal finishes
    subst journal
    refine ⟨_, rfl, by simp [Lane.reach, Journal.since], ?_⟩
    simp [Lane.reach, dispatched, Stage.openCalls, Effect.openAfter, Effect.peak, Effect.reads,
      Effect.isRead]

/-- A step either begins a run that was granted a permit, and makes one id, or makes no
id and no call and leaves it as it was whether the run has begun. -/
theorem step_begins_or_goes_on (step : LaneStep s view job free lane w next moved later) :
    moved.node = lane.node ∧
      (lane.stage = .granted ∧ moved.stage.hasBegun = true ∧ later.idsMade = w.idsMade + 1 ∨
        moved.stage.hasBegun = lane.stage.hasBegun ∧ later.idsMade = w.idsMade ∧
          later.calls = w.calls ∧ moved.calls = lane.calls) := by
  cases step with
  | grant waits => simp [Lane.reach, waits]
  | start granted begins =>
    obtain ⟨-, ids, -⟩ := begin_run_adds begins
    exact ⟨rfl, .inl ⟨granted, rfl, ids⟩⟩
  | settle settled => simp [Lane.reach, settled]
  | finish dispatched finishes =>
    have journal := Service.finish_journal finishes
    subst journal
    refine ⟨rfl, .inr ⟨by simp [Lane.reach, dispatched], rfl, ?_, ?_⟩⟩
    · simp [Journal.calls, Effect.calls, Effect.call?]
    · simp [Lane.reach, Journal.since, Effect.calls, Effect.call?]

end Fanout
