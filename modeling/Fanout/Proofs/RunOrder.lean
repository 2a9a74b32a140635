import Fanout.Proofs.Trails

/-! The order in which the runs of a broadcast begin. Whatever the interleaving, the
runs that have begun can be listed so that each of them made the next id and found
exactly the calls of those before it; the journal holds just their ids and calls. On a
trail whose floors are in order, that list is the target order. -/
namespace Fanout

/-- Each of these runs began when those before it, and nobody else, had begun: the
first one after so many ids and these calls. -/
def InSuccession (s : Service) (view : View) (job : JobDescriptor) :
    Nat → List Call → List Lane → Prop
  | _, _, [] => True
  | ids, calls, lane :: rest =>
    lane.Sound s view job (fun w => w.idsMade = ids ∧ w.calls = calls) ∧
      InSuccession s view job (ids + 1) (calls ++ lane.calls) rest

/-- The runs that have begun, in target order. -/
def Floor.begun (floor : Floor) : List Lane := floor.lanes.filter (·.stage.hasBegun)

/-- No run has begun before one that stands in front of it in the target. -/
def Floor.InOrder (floor : Floor) : Prop :=
  floor.lanes.Pairwise fun lane later => later.stage.hasBegun → lane.stage.hasBegun

/-- The order in which the runs on a floor have begun since a journal. If `ordered`
holds it is the target order. -/
structure BeginOrder (s : Service) (view : View) (job : JobDescriptor) (ordered : Prop)
    (w : Journal) (floor : Floor) (order : List Lane) : Prop where
  perm : order.Perm floor.begun
  target : ordered → order = floor.begun
  succession : InSuccession s view job w.idsMade w.calls order
  ids : floor.journal.idsMade = w.idsMade + order.length
  calls : floor.journal.calls = w.calls ++ order.flatMap Lane.calls

variable {s : Service} {view : View} {job : JobDescriptor} {limit : Nat} {nodes : List Node}
  {w : Journal} {floor : Floor} {Kind : Floor → Prop} {ordered : Prop}

/-- The order is about which runs have begun, and nothing else. -/
theorem inOrder_iff (floor : Floor) : floor.InOrder ↔
    (floor.lanes.map (·.stage.hasBegun)).Pairwise
      fun begun later => later = true → begun = true := by
  rw [List.pairwise_map]
  rfl

theorem succession_append (ids : Nat) (calls : List Call) (xs ys : List Lane) :
    InSuccession s view job ids calls (xs ++ ys) ↔
      InSuccession s view job ids calls xs ∧
        InSuccession s view job (ids + xs.length) (calls ++ xs.flatMap Lane.calls) ys := by
  induction xs generalizing ids calls with
  | nil => simp [InSuccession]
  | cons lane rest ih =>
    have count : ids + 1 + rest.length = ids + (rest.length + 1) := by omega
    simp only [List.cons_append, InSuccession, ih, List.length_cons, List.flatMap_cons,
      List.append_assoc, count, and_assoc]

/-- A run that goes on without another call keeps its place in the succession. -/
theorem succession_replace {ids : Nat} {calls : List Call} {xs ys : List Lane}
    {lane moved : Lane} (succession : InSuccession s view job ids calls (xs ++ lane :: ys))
    (sound : ∀ origin, lane.Sound s view job origin → moved.Sound s view job origin)
    (same : moved.calls = lane.calls) :
    InSuccession s view job ids calls (xs ++ moved :: ys) := by
  rw [succession_append] at succession ⊢
  obtain ⟨before, here, after⟩ := succession
  exact ⟨before, sound _ here, same ▸ after⟩

/-- Listed runs can be replaced one by one, in the order they are listed in. -/
theorem replace_listed {order xs ys : List Lane} {lane : Lane} (moved : Lane)
    (perm : order.Perm (xs ++ lane :: ys)) (target : ordered → order = xs ++ lane :: ys) :
    ∃ before after, order = before ++ lane :: after ∧
      (before ++ moved :: after).Perm (xs ++ moved :: ys) ∧
      (ordered → before ++ moved :: after = xs ++ moved :: ys) := by
  by_cases inOrder : ordered
  · exact ⟨xs, ys, target inOrder, .refl _, fun _ => rfl⟩
  · have member : lane ∈ order := perm.mem_iff.mpr (by simp)
    obtain ⟨before, after, rfl⟩ := List.append_of_mem member
    have others : (before ++ after).Perm (xs ++ ys) :=
      (List.perm_middle.symm.trans (perm.trans List.perm_middle)).cons_inv
    exact ⟨before, after, rfl,
      List.perm_middle.trans ((others.cons moved).trans List.perm_middle.symm),
      fun holds => absurd holds inOrder⟩

theorem entry_begun (limit : Nat) (nodes : List Node) (w : Journal) :
    (Floor.entry limit nodes w).begun = [] := by
  simp [Floor.begun, Floor.entry]

theorem entry_inOrder (limit : Nat) (nodes : List Node) (w : Journal) :
    (Floor.entry limit nodes w).InOrder := by
  simp only [Floor.InOrder, Floor.entry, List.pairwise_map]
  exact List.pairwise_of_forall fun _ _ begun => by simp at begun

theorem none_begun_behind {free : Nat} {before after : List Lane} {lane : Lane}
    (inOrder : (⟨free, before ++ lane :: after, w⟩ : Floor).InOrder)
    (idle : lane.stage.hasBegun = false) : after.filter (·.stage.hasBegun) = [] := by
  rw [List.filter_eq_nil_iff]
  intro other member begun
  have behind := (List.pairwise_cons.mp (List.pairwise_append.mp inOrder).2.1).1 other member
  rw [idle] at behind
  exact Bool.false_ne_true (behind begun)

/-- A run that begins comes last among those that have begun. -/
theorem listed_begins {free : Nat} (next : Nat) {before after order : List Lane}
    {lane moved : Lane} {v : Journal} (later : Journal) (idle : lane.stage.hasBegun = false)
    (begins : moved.stage.hasBegun = true)
    (inOrder : ordered → (⟨free, before ++ lane :: after, v⟩ : Floor).InOrder)
    (perm : order.Perm (⟨free, before ++ lane :: after, v⟩ : Floor).begun)
    (target : ordered → order = (⟨free, before ++ lane :: after, v⟩ : Floor).begun) :
    (order ++ [moved]).Perm (⟨next, before ++ moved :: after, later⟩ : Floor).begun ∧
      (ordered → order ++ [moved] = (⟨next, before ++ moved :: after, later⟩ : Floor).begun) := by
  simp only [Floor.begun, List.filter_append, List.filter_cons, idle] at perm target
  have listed : (order ++ [moved]).Perm
      (before.filter (·.stage.hasBegun) ++ moved :: after.filter (·.stage.hasBegun)) :=
    (perm.append_right [moved]).trans
      (List.perm_append_singleton moved _ |>.trans List.perm_middle.symm)
  refine ⟨by simpa [Floor.begun, begins] using listed, ?_⟩
  intro holds
  have behind := none_begun_behind (inOrder holds) idle
  simp [Floor.begun, begins, behind, target holds]

/-- A run that goes on stays where it is among those that have begun. -/
theorem listed_goes_on {free : Nat} (next : Nat) {before after order : List Lane}
    {lane moved : Lane} {v : Journal} (later : Journal) (begun : lane.stage.hasBegun = true)
    (goesOn : moved.stage.hasBegun = true)
    (perm : order.Perm (⟨free, before ++ lane :: after, v⟩ : Floor).begun)
    (target : ordered → order = (⟨free, before ++ lane :: after, v⟩ : Floor).begun) :
    ∃ ahead behind, order = ahead ++ lane :: behind ∧
      (ahead ++ moved :: behind).Perm (⟨next, before ++ moved :: after, later⟩ : Floor).begun ∧
      (ordered → ahead ++ moved :: behind =
        (⟨next, before ++ moved :: after, later⟩ : Floor).begun) := by
  simp only [Floor.begun, List.filter_append, List.filter_cons, begun] at perm target
  obtain ⟨ahead, behind, split, listed, inPlace⟩ := replace_listed moved perm target
  refine ⟨ahead, behind, split, by simpa [Floor.begun, goesOn] using listed, ?_⟩
  intro holds
  simpa [Floor.begun, goesOn] using inPlace holds

theorem begun_unmoved {free next : Nat} {before after : List Lane} {lane moved : Lane}
    {v later : Journal} (idle : lane.stage.hasBegun = false)
    (idles : moved.stage.hasBegun = false) :
    (⟨next, before ++ moved :: after, later⟩ : Floor).begun =
      (⟨free, before ++ lane :: after, v⟩ : Floor).begun := by
  simp [Floor.begun, idle, idles]

theorem begin_order_begins {free next : Nat} {before after : List Lane} {lane moved : Lane}
    {v later : Journal} {order : List Lane}
    (step : LaneStep s view job free lane v next moved later)
    (granted : lane.stage = .granted) (begins : moved.stage.hasBegun = true)
    (made : later.idsMade = v.idsMade + 1)
    (inOrder : ordered → (⟨free, before ++ lane :: after, v⟩ : Floor).InOrder)
    (sound : lane.Sound s view job fun _ => True)
    (kept : BeginOrder s view job ordered w ⟨free, before ++ lane :: after, v⟩ order) :
    BeginOrder s view job ordered w ⟨next, before ++ moved :: after, later⟩
      (order ++ [moved]) := by
  obtain ⟨perm, target, succession, ids, calls⟩ := kept
  have idle : lane.stage.hasBegun = false := by rw [granted]; rfl
  obtain ⟨listed, inPlace⟩ := listed_begins next later idle begins inOrder perm target
  obtain ⟨more, extended, counted, -⟩ := step_effects step
  simp only [Lane.Sound, granted] at sound
  rw [sound.2, List.nil_append] at counted
  simp only at ids calls
  refine ⟨listed, inPlace, ?_, by simp [made, ids, Nat.add_assoc], ?_⟩
  · rw [succession_append]
    refine ⟨succession, sound_step step ?_ fun _ => ⟨ids, calls⟩, trivial⟩
    simpa only [Lane.Sound, granted] using sound
  · rw [Journal.calls_eq extended, calls, ← counted]
    simp

/-- A run that goes on without beginning stays where it is in the order, if it is in it. -/
theorem begin_order_goes_on {free next : Nat} {before after : List Lane} {lane moved : Lane}
    {v later : Journal} {order : List Lane}
    (step : LaneStep s view job free lane v next moved later)
    (same : moved.stage.hasBegun = lane.stage.hasBegun) (made : later.idsMade = v.idsMade)
    (silent : later.calls = v.calls) (called : moved.calls = lane.calls)
    (kept : BeginOrder s view job ordered w ⟨free, before ++ lane :: after, v⟩ order) :
    ∃ order, BeginOrder s view job ordered w ⟨next, before ++ moved :: after, later⟩ order := by
  obtain ⟨perm, target, succession, ids, calls⟩ := kept
  simp only at ids calls
  cases begun : lane.stage.hasBegun with
  | false =>
    rw [← begun_unmoved begun (same.trans begun)] at perm target
    exact ⟨order, perm, target, succession, made ▸ ids, silent ▸ calls⟩
  | true =>
    obtain ⟨ahead, behind, rfl, listed, inPlace⟩ :=
      listed_goes_on next later begun (same.trans begun) perm target
    have sound (origin : Journal → Prop) (held : lane.Sound s view job origin) :
        moved.Sound s view job origin :=
      sound_step step held fun granted => by simp [granted] at begun
    refine ⟨ahead ++ moved :: behind, listed, inPlace,
      succession_replace succession sound called, by simp [made, ids], ?_⟩
    simp [silent, calls, called]

/-- One step of a run keeps the order: a run that begins comes last, and one that goes
on stays where it is. -/
theorem begin_order_step {free next : Nat} {before after : List Lane} {lane moved : Lane}
    {v later : Journal} {order : List Lane}
    (step : LaneStep s view job free lane v next moved later)
    (inOrder : ordered → (⟨free, before ++ lane :: after, v⟩ : Floor).InOrder)
    (sound : lane.Sound s view job fun _ => True)
    (kept : BeginOrder s view job ordered w ⟨free, before ++ lane :: after, v⟩ order) :
    ∃ order, BeginOrder s view job ordered w ⟨next, before ++ moved :: after, later⟩ order := by
  obtain ⟨-, ⟨granted, begins, made⟩ | ⟨same, made, silent, called⟩⟩ :=
    step_begins_or_goes_on step
  · exact ⟨_, begin_order_begins step granted begins made inOrder sound kept⟩
  · exact begin_order_goes_on step same made silent called kept

/-- The runs on every floor of a trail have begun in some order, and in target order if
the floors of the trail are in order. -/
theorem trail_begin_order (trail : Trail s view job Kind (.entry limit nodes w) floor)
    (inOrder : ordered → ∀ passed, Kind passed → passed.InOrder) :
    (ordered → floor.InOrder) ∧ ∃ order, BeginOrder s view job ordered w floor order := by
  induction trail with
  | refl =>
    refine ⟨fun _ => entry_inOrder .., [], ?_, ?_, trivial, rfl, ?_⟩
    · rw [entry_begun]
    · intro _
      rw [entry_begun]
    · simp [Floor.entry]
  | @tail floor next trail last ih =>
    obtain ⟨taken, kind⟩ := last
    obtain ⟨ordered, order, kept⟩ := ih
    have sound := reachable_sound (trail_reachable trail)
    constructor
    · intro holds
      exact inOrder holds next kind
    · cases taken with
      | lane step => exact begin_order_step step ordered (sound _ (by simp)) kept

end Fanout
