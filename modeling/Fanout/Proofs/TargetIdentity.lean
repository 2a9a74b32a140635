import Fanout.Target
import Mathlib.Data.Finset.Card
import Mathlib.Data.List.Nodup
import Std.Data.HashSet.Lemmas

/-! When targets are equal. A target keeps the handles that it was given, but equality
looks at their ids alone: two targets are the same when they name the same nodes at the
same places, whatever else the handles carry and in whichever form they were handed in.
Hashes depend on the ids in the same way, so a hash set holds one target for every
sequence of ids. Targets of single jobs are compared like this among those of one
variant; they are not hashed. -/
namespace Fanout

/-- Two sequences name the same nodes at the same places. -/
def SameNodes (xs ys : List Node) : Prop :=
  xs.length = ys.length ∧
    ∀ i (left : i < xs.length) (right : i < ys.length), xs[i].id = ys[i].id

/-- The ids of a target in its order, repetitions included. -/
def BroadcastTarget.ids (target : BroadcastTarget Node) : List NodeId := target.nodes.map Node.id

/-! ### Sequences of nodes -/

theorem same_nodes_iff_ids (xs ys : List Node) :
    SameNodes xs ys ↔ xs.map Node.id = ys.map Node.id := by
  simp only [SameNodes, List.ext_getElem_iff, List.length_map, List.getElem_map]

theorem beq_nodes_iff_ids (xs ys : List Node) :
    (xs == ys) = true ↔ xs.map Node.id = ys.map Node.id := by
  induction xs generalizing ys with
  | nil => cases ys <;> simp
  | cons x xs ih =>
    cases ys with
    | nil => simp
    | cons y ys =>
      rw [List.cons_beq_cons, Bool.and_eq_true, Node.beq_iff, ih, List.map_cons, List.map_cons,
        List.cons.injEq]

/-- Comparing the handles of two sequences is comparing the ids place by place. -/
theorem beq_nodes_iff (xs ys : List Node) : (xs == ys) = true ↔ SameNodes xs ys :=
  (beq_nodes_iff_ids xs ys).trans (same_nodes_iff_ids xs ys).symm

/-! ### Broadcast targets -/

namespace BroadcastTarget

theorem beq_iff_ids {s t : BroadcastTarget Node} : (s == t) = true ↔ s.ids = t.ids :=
  beq_nodes_iff_ids s.nodes t.nodes

/-- The handles of a target enter its hash by their ids. -/
theorem hash_eq_ids (target : BroadcastTarget Node) :
    hash target = target.ids.foldl (fun h id => mixHash h (hash id)) 7 := by
  rw [ids, List.foldl_map]
  rfl

instance : EquivBEq (BroadcastTarget Node) where
  rfl := beq_iff_ids.mpr rfl
  symm same := beq_iff_ids.mpr (beq_iff_ids.mp same).symm
  trans same other := beq_iff_ids.mpr ((beq_iff_ids.mp same).trans (beq_iff_ids.mp other))

instance : LawfulHashable (BroadcastTarget Node) where
  hash_eq s t same := by rw [hash_eq_ids, hash_eq_ids, beq_iff_ids.mp same]

theorem ofForm_eq (form : TargetForm) (nodes : List Node) :
    ofForm form nodes = .ok ⟨nodes⟩ := by
  cases form with
  | sequence => rfl
  | optional => rfl
  | elements => rw [ofForm, gathered_eq]

end BroadcastTarget

theorem JobTarget.ofForm_eq (form : TargetForm) (candidates : List Node) :
    ofForm form candidates = .ok (.anyNode candidates) := by
  cases form with
  | sequence => rfl
  | optional => rfl
  | elements => rw [ofForm, gathered_eq]

/-! ### Sets of targets -/

section Counting

variable {α κ : Type} [BEq α] [Hashable α] [EquivBEq α] [LawfulHashable α] {key : α → κ}

/-- The elements that a hash set keeps have distinct keys, if elements with one key are
equal. -/
theorem kept_keys_nodup (same : ∀ a b, (a == b) = true ↔ key a = key b) (xs : List α) :
    ((Std.HashSet.ofList xs).toList.map key).Nodup := by
  refine List.pairwise_map.mpr (Std.HashSet.distinct_toList.imp ?_)
  intro a b different keys
  rw [(same a b).mpr keys] at different
  cases different

/-- A hash set keeps an element for every key of a list, and for no other one. -/
theorem mem_kept_keys (same : ∀ a b, (a == b) = true ↔ key a = key b) (xs : List α) (k : κ) :
    k ∈ (Std.HashSet.ofList xs).toList.map key ↔ k ∈ xs.map key := by
  have within (a : α) :
      (∃ b ∈ (Std.HashSet.ofList xs).toList, (a == b) = true) ↔ ∃ b ∈ xs, (a == b) = true := by
    rw [← List.contains_iff_exists_mem_beq, ← List.contains_iff_exists_mem_beq,
      Std.HashSet.contains_toList, Std.HashSet.contains_ofList]
  simp only [List.mem_map]
  constructor
  · rintro ⟨a, kept, rfl⟩
    obtain ⟨b, listed, equal⟩ := (within a).mp ⟨a, kept, BEq.rfl⟩
    exact ⟨b, listed, ((same a b).mp equal).symm⟩
  · rintro ⟨a, listed, rfl⟩
    obtain ⟨b, kept, equal⟩ := (within a).mpr ⟨a, listed, BEq.rfl⟩
    exact ⟨b, kept, ((same a b).mp equal).symm⟩

/-- A hash set of elements that are equal by their keys counts the keys. -/
theorem distinct_count_keys [DecidableEq κ] (same : ∀ a b, (a == b) = true ↔ key a = key b)
    (xs : List α) : distinctCount xs = (xs.map key).toFinset.card := by
  have keys : ((Std.HashSet.ofList xs).toList.map key).toFinset = (xs.map key).toFinset := by
    ext k
    rw [List.mem_toFinset, List.mem_toFinset, mem_kept_keys same]
  calc distinctCount xs
      = ((Std.HashSet.ofList xs).toList.map key).length := by
        rw [List.length_map, Std.HashSet.length_toList, distinctCount]
    _ = ((Std.HashSet.ofList xs).toList.map key).toFinset.card :=
        (List.toFinset_card_of_nodup (kept_keys_nodup same xs)).symm
    _ = (xs.map key).toFinset.card := by rw [keys]

end Counting

/-! ### Equality of targets -/

/-- **Targets are equal place by place.** In whichever forms two sequences are handed in,
both targets keep them as they are, and they are equal exactly if the sequences name the
same nodes at the same places; then they have the same hash, so that a hash set counts the
sequences of ids. Targets of single jobs are equal under the same condition within a
variant and never across. -/
theorem targets_equal_place_by_place :
    (∀ (form other : TargetForm) (xs ys : List Node), ∃ s t,
      BroadcastTarget.ofForm form xs = .ok s ∧ BroadcastTarget.ofForm other ys = .ok t ∧
      s.nodes = xs ∧ t.nodes = ys ∧ ((s == t) = true ↔ SameNodes xs ys) ∧
      ((s == t) = true → hash s = hash t)) ∧
    (∀ targets : List (BroadcastTarget Node),
      distinctCount targets = (targets.map BroadcastTarget.ids).toFinset.card) ∧
    (∀ (form other : TargetForm) (xs ys : List Node), ∃ s t,
      JobTarget.ofForm form xs = .ok s ∧ JobTarget.ofForm other ys = .ok t ∧
      s.candidates = xs ∧ t.candidates = ys ∧ ((s == t) = true ↔ SameNodes xs ys)) ∧
    (∀ a b, (JobTarget.node a).candidates = [a] ∧
      ((JobTarget.node a == .node b) = true ↔ SameNodes [a] [b])) ∧
    ∀ (form : TargetForm) (a : Node) (xs : List Node), ∃ t, JobTarget.ofForm form xs = .ok t ∧
      (JobTarget.node a == t) = false ∧ (t == JobTarget.node a) = false := by
  refine ⟨fun form other xs ys => ?_, fun targets => ?_, fun form other xs ys => ?_,
    fun a b => ⟨rfl, ?_⟩, fun form a xs => ?_⟩
  · exact ⟨_, _, BroadcastTarget.ofForm_eq form xs, BroadcastTarget.ofForm_eq other ys, rfl, rfl,
      beq_nodes_iff xs ys, hash_eq⟩
  · exact distinct_count_keys (fun _ _ => BroadcastTarget.beq_iff_ids) targets
  · exact ⟨_, _, JobTarget.ofForm_eq form xs, JobTarget.ofForm_eq other ys, rfl, rfl,
      beq_nodes_iff xs ys⟩
  · have one : (JobTarget.node a == .node b) = true ↔ a.id = b.id := Node.beq_iff
    rw [one, same_nodes_iff_ids]
    simp
  · exact ⟨_, JobTarget.ofForm_eq form xs, rfl, rfl⟩

/-- A target whose first handle has another name is the same target and is counted once, one
in another order or with a repetition is another one. -/
theorem renamed_target_counted_once :
    (∃ s t, BroadcastTarget.ofForm .elements [.ofId "a", .ofId "b"] = .ok s ∧
      BroadcastTarget.ofForm .optional [(Node.ofId "a").withName "again", .ofId "b"] = .ok t ∧
      (s == t) = true ∧ hash s = hash t) ∧
    distinctCount ([
      ⟨[.ofId "a", .ofId "b"]⟩,
      ⟨[(Node.ofId "a").withName "again", .ofId "b"]⟩,
      ⟨[.ofId "b", .ofId "a"]⟩,
      ⟨[.ofId "a", .ofId "b", .ofId "b"]⟩] : List (BroadcastTarget Node)) = 3 := by
  obtain ⟨equality, counted, -⟩ := targets_equal_place_by_place
  obtain ⟨s, t, made, otherMade, -, -, equal, hashes⟩ := equality .elements .optional
    [.ofId "a", .ofId "b"] [(Node.ofId "a").withName "again", .ofId "b"]
  have same := equal.mpr ((same_nodes_iff_ids _ _).mpr (by decide))
  exact ⟨⟨s, t, made, otherMade, same, hashes same⟩, (counted _).trans (by decide)⟩

end Fanout
