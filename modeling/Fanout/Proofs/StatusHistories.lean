import Fanout.Job.Status

/-! A status over any number of changes that are asked of it, from any status that it may
start from. Which changes are granted depends on its state alone, so the granted ones follow
the life of a job: it starts at most once, it ends at most once, and nothing comes after
its end. The times that a new status has come to carry are those of the granted changes. -/
namespace Fanout.JobStatus

/-- The change ends a job. -/
def Change.finishes : Change → Bool
  | .start => false
  | .complete | .fail | .cancel => true

/-- The change follows this state: a job that waits may start, one that runs may complete,
and one that has not ended may fail or be canceled. -/
def Change.follows : Change → JobState → Bool
  | .start, state => state == .queued
  | .complete, state => state == .executing
  | .fail, state | .cancel, state => !state.isFinal

/-- The status with the state and the time that a change writes. -/
def changed (status : JobStatus) (c : Change) (now : Millis) : JobStatus :=
  match c with
  | .start => { status with state := .executing, startedAt := some now }
  | .complete | .fail | .cancel => { status with state := c.target, finishedAt := some now }

/-- The status that holds after all changes that were asked of it. -/
def after (status : JobStatus) (asked : List (Change × Millis)) : JobStatus :=
  ((status.replay asked).getLast?.map Prod.snd).getD status

/-- The changes that were granted, of those that were asked of a status. -/
def granted (status : JobStatus) (asked : List (Change × Millis)) : List (Change × Millis) :=
  ((asked.zip (status.replay asked)).filter fun entry => entry.2.1.isOk).map Prod.fst

/-- The changes that a job goes through from a state on, with any times. -/
inductive Life : JobState → List (Change × Millis) → Prop where
  | rests {state : JobState} : Life state []
  | starts {time : Millis} {later : List (Change × Millis)} (runs : Life .executing later) :
      Life .queued ((.start, time) :: later)
  | ends {state : JobState} {c : Change} {time : Millis} (finishes : c.finishes = true)
      (follows : c.follows state = true) : Life state [(c, time)]

/-- What a change that is asked of a status is answered with, and the status next. -/
structure Answered (status : JobStatus) (c : Change) (result : Except Violation Unit)
    (next : JobStatus) : Prop where
  /-- It is granted exactly if it follows the state that it finds. -/
  granted : result = .ok () ↔ c.follows status.state = true
  reached : result = .ok () → next.state = c.target
  /-- A refusal names both states, and leaves the whole status as it was. -/
  refused : result ≠ .ok () →
    result = .error (.invalidTransition status.state.name c.target.name) ∧ next = status

/-- What comes of the changes that are asked of a status, whatever it is. -/
structure Lifelong (status : JobStatus) (asked : List (Change × Millis)) : Prop where
  /-- No change touches the id or the time of creation. -/
  identity : ∀ entry ∈ status.replay asked,
    entry.2.id = status.id ∧ entry.2.createdAt = status.createdAt
  /-- Every change is answered by the status that the changes before it have left. -/
  answered : ∀ before c now rest, asked = before ++ (c, now) :: rest → ∃ result,
    (status.replay asked)[before.length]? =
        some (result, status.after (before ++ [(c, now)])) ∧
      (status.after before).Answered c result (status.after (before ++ [(c, now)]))
  oneStart : (status.granted asked).countP (fun step => step.1 == .start) ≤ 1
  oneEnd : (status.granted asked).countP (fun step => step.1.finishes) ≤ 1
  /-- Nothing is granted after a change that ended the job. -/
  lastEnd : ∀ before step later, status.granted asked = before ++ step :: later →
    step.1.finishes = true → later = []

/-- What a status that was new has come to when some changes were granted. -/
structure Grown (status : JobStatus) (granted : List (Change × Millis)) : Prop where
  /-- It has the time of a start exactly if a start at that time was granted. -/
  started : ∀ time, status.startedAt = some time ↔ (.start, time) ∈ granted
  /-- It has the time of an end exactly if it has ended, by the one change that ended it and
  at the time of that change. -/
  finished : ∀ time, status.finishedAt = some time ↔
    status.state.isFinal = true ∧
      ∃ c, granted.filter (fun step => step.1.finishes) = [(c, time)]
  completed : status.state = .completed → ∃ time, status.startedAt = some time
  queued : status.state = .queued → status.startedAt = none ∧ status.finishedAt = none

variable {status : JobStatus} {c : Change} {now : Millis} {asked rest : List (Change × Millis)}

/-! ### One change -/

/-- The answer to a change that is asked of a status. -/
def answer (status : JobStatus) (c : Change) : Except Violation Unit :=
  if c.follows status.state then .ok ()
  else .error (.invalidTransition status.state.name c.target.name)

/-- The status after a change was asked of it. -/
def next (status : JobStatus) (c : Change) (now : Millis) : JobStatus :=
  if c.follows status.state then status.changed c now else status

/-- A change is granted if it follows the state, and refused with both states otherwise. -/
theorem change_eq (status : JobStatus) (c : Change) (now : Millis) :
    status.change c now =
      if c.follows status.state then .ok (status.changed c now)
      else .error (.invalidTransition status.state.name c.target.name) := by
  cases c with
  | start => simp [change, start, Change.follows, changed, refuse, Change.target]
  | complete => simp [change, complete, Change.follows, changed, refuse, Change.target]
  | fail =>
    cases ended : status.state.isFinal <;>
      simp [change, fail, Change.follows, changed, refuse, Change.target, ended]
  | cancel =>
    cases ended : status.state.isFinal <;>
      simp [change, cancel, Change.follows, changed, refuse, Change.target, ended]

@[simp] theorem start_finishes : Change.start.finishes = false := rfl

theorem finishes_ne_start (finishes : c.finishes = true) : c ≠ .start := by
  rintro rfl
  cases finishes

/-- A job has ended after a change that ends it. -/
theorem target_final (finishes : c.finishes = true) : c.target.isFinal = true := by
  cases c <;> simp [Change.finishes, Change.target, JobState.isFinal] at finishes ⊢

/-- No change follows an end. -/
theorem follows_final {state : JobState} (ended : state.isFinal = true) (c : Change) :
    c.follows state = false := by
  cases c <;> cases state <;> simp [Change.follows, JobState.isFinal] at ended ⊢

@[simp] theorem changed_state : (status.changed c now).state = c.target := by cases c <;> rfl

@[simp] theorem next_id : (status.next c now).id = status.id := by
  unfold next
  split
  · cases c <;> rfl
  · rfl

@[simp] theorem next_createdAt : (status.next c now).createdAt = status.createdAt := by
  unfold next
  split
  · cases c <;> rfl
  · rfl

theorem next_answered (status : JobStatus) (c : Change) (now : Millis) :
    status.Answered c (status.answer c) (status.next c now) := by
  unfold answer next
  cases follows : c.follows status.state with
  | true =>
    exact ⟨iff_of_true rfl follows, fun _ => changed_state, fun refused => absurd rfl refused⟩
  | false =>
    refine ⟨iff_of_false nofun ?_, nofun, fun _ => ⟨rfl, rfl⟩⟩
    rw [follows]
    exact Bool.false_ne_true

/-! ### The first change of many -/

theorem replay_cons (status : JobStatus) (c : Change) (now : Millis)
    (rest : List (Change × Millis)) :
    status.replay ((c, now) :: rest) =
      (status.answer c, status.next c now) :: (status.next c now).replay rest := by
  simp only [replay, change_eq, answer, next]
  cases c.follows status.state <;> rfl

theorem after_cons (status : JobStatus) (c : Change) (now : Millis)
    (rest : List (Change × Millis)) :
    status.after ((c, now) :: rest) = (status.next c now).after rest := by
  rw [after, replay_cons, List.getLast?_cons, Option.map_some, Option.getD_some, after]
  cases ((status.next c now).replay rest).getLast? <;> rfl

theorem granted_cons (status : JobStatus) (c : Change) (now : Millis)
    (rest : List (Change × Millis)) :
    status.granted ((c, now) :: rest) =
      if c.follows status.state then (c, now) :: (status.changed c now).granted rest
      else status.granted rest := by
  simp only [granted, replay_cons, answer, next]
  cases c.follows status.state <;> rfl

/-! ### All changes -/

theorem replay_length (status : JobStatus) (asked : List (Change × Millis)) :
    (status.replay asked).length = asked.length := by
  induction asked generalizing status with
  | nil => rfl
  | cons step rest ih => rw [replay_cons, List.length_cons, List.length_cons, ih]

/-- Changes that are asked later find what the earlier ones have left. -/
theorem replay_append (status : JobStatus) (earlier later : List (Change × Millis)) :
    status.replay (earlier ++ later) =
      status.replay earlier ++ (status.after earlier).replay later := by
  induction earlier generalizing status with
  | nil => rfl
  | cons step rest ih =>
    rw [List.cons_append, replay_cons, replay_cons, ih, after_cons, List.cons_append]

theorem after_append (status : JobStatus) (earlier later : List (Change × Millis)) :
    status.after (earlier ++ later) = (status.after earlier).after later := by
  induction earlier generalizing status with
  | nil => rfl
  | cons step rest ih => rw [List.cons_append, after_cons, after_cons, ih]

theorem replay_identity (status : JobStatus) (asked : List (Change × Millis)) :
    ∀ entry ∈ status.replay asked,
      entry.2.id = status.id ∧ entry.2.createdAt = status.createdAt := by
  induction asked generalizing status with
  | nil => simp [replay]
  | cons step rest ih =>
    rw [replay_cons]
    refine List.forall_mem_cons.mpr ⟨⟨next_id, next_createdAt⟩, ?_⟩
    intro entry member
    simpa using ih (status.next step.1 step.2) entry member

/-- Each change is answered by the status that it finds. -/
theorem replay_answered (status : JobStatus) (before : List (Change × Millis)) (c : Change)
    (now : Millis) (rest : List (Change × Millis)) :
    ∃ result, (status.replay (before ++ (c, now) :: rest))[before.length]? =
        some (result, status.after (before ++ [(c, now)])) ∧
      (status.after before).Answered c result (status.after (before ++ [(c, now)])) := by
  have behind : (status.replay before).length = before.length := replay_length status before
  have left : status.after (before ++ [(c, now)]) = (status.after before).next c now := by
    rw [after_append, after_cons]
    rfl
  rw [replay_append, List.getElem?_append_right (Nat.le_of_eq behind), behind, Nat.sub_self,
    replay_cons, left]
  exact ⟨_, rfl, next_answered (status.after before) c now⟩

/-- Nothing is granted to a job that has ended. -/
theorem granted_final (ended : status.state.isFinal = true) (asked : List (Change × Millis)) :
    status.granted asked = [] := by
  induction asked with
  | nil => rfl
  | cons step rest ih => rw [granted_cons, follows_final ended, if_neg Bool.false_ne_true, ih]

/-- The granted changes follow the life of a job. -/
theorem granted_life (status : JobStatus) (asked : List (Change × Millis)) :
    Life status.state (status.granted asked) := by
  induction asked generalizing status with
  | nil => exact .rests
  | cons step rest ih =>
    obtain ⟨c, now⟩ := step
    rw [granted_cons]
    split
    · rename_i follows
      cases finishes : c.finishes with
      | true =>
        rw [granted_final (changed_state ▸ target_final finishes)]
        exact .ends finishes follows
      | false =>
        cases c with
        | start =>
          rw [beq_iff_eq.mp follows]
          exact .starts (ih (status.changed .start now))
        | complete | fail | cancel => cases finishes
    · exact ih status

/-- A status has come to what the granted changes wrote, one after the other. -/
theorem after_eq_foldl (status : JobStatus) (asked : List (Change × Millis)) :
    status.after asked =
      (status.granted asked).foldl (fun current step => current.changed step.1 step.2) status := by
  induction asked generalizing status with
  | nil => rfl
  | cons step rest ih =>
    rw [after_cons, granted_cons, next, ih]
    split <;> rfl

/-! ### The life of a job -/

theorem life_one_start {state : JobState} (life : Life state rest) :
    rest.countP (fun step => step.1 == .start) ≤ 1 := by
  cases life with
  | rests => simp
  | ends => exact List.countP_le_length
  | starts runs =>
    cases runs with
    | rests => exact List.countP_le_length
    | ends finishes => simp [finishes_ne_start finishes]

theorem life_one_end {state : JobState} (life : Life state rest) :
    rest.countP (fun step => step.1.finishes) ≤ 1 := by
  cases life with
  | rests => simp
  | ends => exact List.countP_le_length
  | starts runs =>
    cases runs with
    | rests => exact List.countP_le_length
    | ends finishes => simp [finishes]

/-- An end is the last change in the life of a job. -/
theorem life_last_end {state : JobState} {before later : List (Change × Millis)}
    {step : Change × Millis} (life : Life state (before ++ step :: later))
    (finishes : step.1.finishes = true) : later = [] := by
  generalize whole : before ++ step :: later = steps at life
  induction life generalizing before with
  | rests => simp at whole
  | ends =>
    cases before with
    | nil => exact (List.cons.inj whole).2
    | cons first rest => simp at whole
  | starts _ ih =>
    cases before with
    | nil =>
      obtain ⟨rfl, -⟩ := List.cons.inj whole
      cases finishes
    | cons first rest => exact ih (List.cons.inj whole).2

/-- What a new status comes to carry in each life of a job. -/
theorem life_grown {id : JobId} {created : Millis} (life : Life .queued rest) :
    Grown (rest.foldl (fun current step => current.changed step.1 step.2) (queued id created))
      rest := by
  cases life with
  | rests => constructor <;> simp [queued, JobState.isFinal]
  | @ends _ c time finishes follows =>
    cases c with
    | start => cases finishes
    | complete => cases follows
    | fail | cancel =>
      constructor <;>
        simp [queued, changed, Change.target, Change.finishes, JobState.isFinal, eq_comm]
  | starts runs =>
    cases runs with
    | rests => constructor <;> simp [queued, changed, Change.finishes, JobState.isFinal, eq_comm]
    | @ends _ c time finishes follows =>
      cases c with
      | start => cases follows
      | complete | fail | cancel =>
        constructor <;>
          simp [queued, changed, Change.target, Change.finishes, JobState.isFinal, eq_comm]

/-- **A status over any changes.** Whatever a status is and whatever is asked of it at any
times, its life is that of a job, and a refused change leaves no trace. If it was new at
first, its times are those of the granted changes, at every moment. -/
theorem status_lives_one_life (status : JobStatus) (asked : List (Change × Millis)) :
    Lifelong status asked ∧
      ∀ id created,
        Grown ((queued id created).after asked) ((queued id created).granted asked) := by
  have life := granted_life status asked
  refine ⟨⟨replay_identity status asked, ?_, life_one_start life, life_one_end life, ?_⟩, ?_⟩
  · rintro before c now rest rfl
    exact replay_answered status before c now rest
  · intro before step later split finishes
    exact life_last_end (split ▸ life) finishes
  · intro id created
    rw [after_eq_foldl]
    exact life_grown (granted_life (queued id created) asked)

/-- A job that fails before it has started has the time of its end alone, whatever is asked
of it later. -/
example : (queued "early" 0).granted [(.complete, 1), (.fail, 2), (.start, 3), (.cancel, 4)] =
    [(.fail, 2)] := by decide

end Fanout.JobStatus
