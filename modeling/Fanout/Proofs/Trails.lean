import Fanout.Proofs.LaneRuns
import Mathlib.Logic.Relation

/-! What holds on every floor that a broadcast with a limit may come to. Permits are
neither lost nor made, the runs stay in their places, and every run is sound. A trail
is a course of steps that only passes floors of some kind; the peak of the calls over
a trail is bounded by the calls that are open on its floors. -/
namespace Fanout

/-! ### Totals over the runs -/

/-- What the stages of some runs amount to together. -/
def Stage.total (amount : Stage → Nat) : List Stage → Nat
  | [] => 0
  | stage :: rest => amount stage + total amount rest

theorem total_perm (amount : Stage → Nat) {xs ys : List Stage} (perm : xs.Perm ys) :
    Stage.total amount xs = Stage.total amount ys := by
  induction perm with
  | nil => rfl
  | cons stage _ ih => simp only [Stage.total, ih]
  | swap x y rest => simp only [Stage.total]; omega
  | trans _ _ first second => exact first.trans second

theorem total_le {amount other : Stage → Nat} {stages : List Stage}
    (le : ∀ stage ∈ stages, amount stage ≤ other stage) :
    Stage.total amount stages ≤ Stage.total other stages := by
  induction stages with
  | nil => exact Nat.le_refl 0
  | cons stage rest ih =>
    have here := le stage List.mem_cons_self
    have there := ih fun stage member => le stage (List.mem_cons_of_mem _ member)
    simp only [Stage.total]
    omega

theorem le_total {amount : Stage → Nat} {stages : List Stage} {stage : Stage}
    (member : stage ∈ stages) : amount stage ≤ Stage.total amount stages := by
  induction member with
  | head rest => exact Nat.le_add_right ..
  | tail _ _ ih => exact Nat.le_trans ih (Nat.le_add_left ..)

theorem total_eq_zero {amount : Stage → Nat} {stages : List Stage}
    (none : ∀ stage ∈ stages, amount stage = 0) : Stage.total amount stages = 0 := by
  induction stages with
  | nil => rfl
  | cons stage rest ih =>
    rw [Stage.total, none stage List.mem_cons_self,
      ih fun stage member => none stage (List.mem_cons_of_mem _ member)]

/-- One run among the others counts on its own. -/
theorem total_lane (amount : Stage → Nat) (before after : List Lane) (lane : Lane) :
    Stage.total amount ((before ++ lane :: after).map Lane.stage) =
      Stage.total amount ((before ++ after).map Lane.stage) + amount lane.stage := by
  rw [total_perm amount (List.perm_middle.map Lane.stage), List.map_cons, Stage.total,
    Nat.add_comm]

theorem held_eq_total (floor : Floor) :
    floor.held = Stage.total Stage.held (floor.lanes.map Lane.stage) := by
  obtain ⟨free, lanes, w⟩ := floor
  induction lanes with
  | nil => rfl
  | cons lane rest ih => exact congrArg (lane.stage.held + ·) ih

theorem openCalls_eq_total (floor : Floor) :
    floor.openCalls = Stage.total Stage.openCalls (floor.lanes.map Lane.stage) := by
  obtain ⟨free, lanes, w⟩ := floor
  induction lanes with
  | nil => rfl
  | cons lane rest ih => exact congrArg (lane.stage.openCalls + ·) ih

/-- A call is open only while its run holds a permit. -/
theorem openCalls_le_held (floor : Floor) : floor.openCalls ≤ floor.held := by
  rw [openCalls_eq_total, held_eq_total]
  apply total_le
  intro stage _
  cases stage with
  | begun start => cases start <;> simp [Stage.openCalls, Stage.held]
  | _ => simp [Stage.openCalls]

variable {s : Service} {view : View} {job : JobDescriptor} {limit : Nat} {nodes : List Node}
  {w : Journal} {floor next : Floor}

/-! ### Reachable floors -/

/-- Every run keeps its place. -/
theorem reachable_nodes (reached : Reachable s view job (.entry limit nodes w) floor) :
    floor.lanes.map Lane.node = nodes := by
  induction reached with
  | entry => simp [Floor.entry, List.map_map, Function.comp_def]
  | step reached taken ih =>
    cases taken with
    | lane step =>
      rw [← ih]
      simp [(step_begins_or_goes_on step).1]

/-- No permit is lost and none is made. -/
theorem reachable_permits (reached : Reachable s view job (.entry limit nodes w) floor) :
    floor.free + floor.held = max limit 1 := by
  induction reached with
  | entry =>
    have unheld : (Floor.entry limit nodes w).held = 0 := by
      rw [held_eq_total]
      exact total_eq_zero (by simp [Floor.entry, Stage.held])
    rw [unheld]
    rfl
  | step reached taken ih =>
    cases taken with
    | lane step =>
      have kept := step.permits
      simp only [held_eq_total, total_lane] at ih ⊢
      omega

theorem reachable_openCalls_le (reached : Reachable s view job (.entry limit nodes w) floor) :
    floor.openCalls ≤ max limit 1 := by
  have opened := openCalls_le_held floor
  have permits := reachable_permits reached
  omega

/-- Every run is sound, wherever the others are. -/
theorem reachable_sound (reached : Reachable s view job (.entry limit nodes w) floor) :
    ∀ lane ∈ floor.lanes, lane.Sound s view job fun _ => True := by
  induction reached with
  | entry =>
    intro lane member
    obtain ⟨node, -, rfl⟩ := List.mem_map.mp member
    exact ⟨rfl, rfl⟩
  | step reached taken ih =>
    cases taken with
    | @lane free next before after lane moved v later step =>
      intro other member
      have kept : ∀ other ∈ before ++ after, other.Sound s view job fun _ => True :=
        fun other member => ih other (by
          rcases List.mem_append.mp member with member | member <;> simp [member])
      rcases List.mem_append.mp member with member | member
      · exact kept other (List.mem_append_left _ member)
      · rcases List.mem_cons.mp member with rfl | member
        · exact sound_step step (ih lane (by simp)) fun _ => trivial
        · exact kept other (List.mem_append_right _ member)

/-- Only a run on a member ever has a call open, so no more calls are open than there
are members among the nodes. -/
theorem reachable_openCalls_le_members
    (reached : Reachable s view job (.entry limit nodes w) floor) :
    floor.openCalls ≤ nodes.countP (view.has ·.id) := by
  have sound := reachable_sound reached
  rw [← reachable_nodes reached, openCalls_eq_total, List.countP_map]
  generalize floor.lanes = lanes at sound
  induction lanes with
  | nil => exact Nat.le_refl 0
  | cons lane rest ih =>
    have there := ih fun lane member => sound lane (List.mem_cons_of_mem _ member)
    have here : lane.stage.openCalls ≤ if view.has lane.node.id then 1 else 0 := by
      have sound := sound lane List.mem_cons_self
      cases stage : lane.stage with
      | waiting | granted | ended => simp [Stage.openCalls]
      | begun start =>
        simp only [Lane.Sound, stage] at sound
        obtain ⟨-, v, -, same, -⟩ := sound
        cases member : view.has lane.node.id with
        | true => cases start <;> simp [Stage.openCalls]
        | false =>
          rw [beginning_departed member] at same
          simp [same, Stage.openCalls]
    simp only [List.map_cons, Stage.total, List.countP_cons, Function.comp_apply] at there ⊢
    omega

/-! ### Trails -/

/-- A course of steps on which every floor is of some kind, the first one apart. -/
abbrev Trail (s : Service) (view : View) (job : JobDescriptor) (Kind : Floor → Prop) :
    Floor → Floor → Prop :=
  Relation.ReflTransGen fun floor next => FloorStep s view job floor next ∧ Kind next

variable {Kind : Floor → Prop} {first : Floor}

theorem trail_reachable (trail : Trail s view job Kind first floor) :
    Reachable s view job first floor := by
  induction trail with
  | refl => exact .entry
  | tail _ last ih => exact .step ih last.1

/-- Whatever is reachable is reached over reachable floors. -/
theorem reachable_trail (reached : Reachable s view job first floor) :
    Trail s view job (Reachable s view job first) first floor := by
  induction reached with
  | entry => exact .refl
  | step reached taken ih => exact ih.tail ⟨taken, .step reached taken⟩

/-- What a broadcast has done on its way to a floor: it never reads the topology again,
as many calls are open as the runs have open, and never more than on its worst floor. -/
theorem trail_effects {bound : Nat} (trail : Trail s view job Kind (.entry limit nodes w) floor)
    (bounded : ∀ passed, Reachable s view job (.entry limit nodes w) passed → Kind passed →
      passed.openCalls ≤ bound) :
    ∃ more, floor.journal.effects = w.effects ++ more ∧ Effect.reads more = [] ∧
      Effect.openAfter 0 more = floor.openCalls ∧ Effect.peak 0 more ≤ bound := by
  induction trail with
  | refl =>
    have unopened : (Floor.entry limit nodes w).openCalls = 0 := by
      rw [openCalls_eq_total]
      exact total_eq_zero (by simp [Floor.entry, Stage.openCalls])
    exact ⟨[], by simp [Floor.entry], rfl, unopened.symm, Nat.zero_le _⟩
  | @tail floor next trail last ih =>
    obtain ⟨more, effects, unread, opened, peak⟩ := ih
    obtain ⟨taken, kind⟩ := last
    have worst := bounded next (.step (trail_reachable trail) taken) kind
    have before := Effect.openAfter_le_peak 0 more
    cases taken with
    | @lane free next rest after lane moved v later step =>
      obtain ⟨added, extended, -, silent, counted⟩ := step_effects step
      obtain ⟨opens, highest⟩ :=
        counted (Stage.total Stage.openCalls ((rest ++ after).map Lane.stage))
      simp only [openCalls_eq_total, total_lane] at opened worst ⊢
      refine ⟨more ++ added, ?_, ?_, ?_, ?_⟩
      · rw [extended, effects, List.append_assoc]
      · rw [Effect.reads_append, unread, silent]
        rfl
      · rw [Effect.openAfter_append, opened, opens]
      · rw [Effect.peak_append, opened, highest]
        omega

end Fanout
