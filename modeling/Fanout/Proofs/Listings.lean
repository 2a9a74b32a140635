import Fanout.Console.Listing
import Fanout.Proofs.Json.Layout

/-! Lists that are printed for programs. Such a list reads back as an array with one object
for every element, in order, where every column has its value under its title. -/
namespace Fanout.Console.Listing

open Json

variable {α : Type} {columns : List (Column α)} {xs : List α} {n : Nat}

/-- An element as it is read back: an object with its members in the order of the titles. -/
def readRecord (columns : List (Column α)) (x : α) : Value :=
  .object (arrange (columns.map fun column => (column.title, column.value x)))

/-! ### Depth -/

theorem items_depth_bounded {vs : List Value} (each : ∀ v ∈ vs, v.depth ≤ n) :
    Value.itemsDepth vs ≤ n := by
  induction vs with
  | nil => exact Nat.zero_le n
  | cons v vs ih =>
    obtain ⟨here, others⟩ := List.forall_mem_cons.mp each
    exact items_depth_le.mpr ⟨here, ih others⟩

theorem members_depth_bounded {ms : List (String × Value)} (each : ∀ m ∈ ms, m.2.depth ≤ n) :
    Value.membersDepth ms ≤ n := by
  induction ms with
  | nil => exact Nat.zero_le n
  | cons m ms ih =>
    obtain ⟨here, others⟩ := List.forall_mem_cons.mp each
    exact members_depth_le.mpr ⟨here, ih others⟩

/-- An element has one level more than its values. -/
theorem record_depth (distinct : (columns.map Column.title).Nodup) (x : α)
    (shallow : ∀ column ∈ columns, (column.value x).depth ≤ n) :
    (readRecord columns x).depth ≤ n + 1 := by
  have keys : ((columns.map fun column => (column.title, column.value x)).map Prod.fst).Nodup := by
    rwa [List.map_map]
  rw [readRecord, Value.depth, arrange_depth keys]
  refine Nat.succ_le_succ (members_depth_bounded fun m member => ?_)
  obtain ⟨column, listed, rfl⟩ := List.mem_map.mp member
  exact shallow column listed

/-! ### Texts -/

/-- An element is printed as a text of the object that is read back. -/
theorem record_text (distinct : (columns.map Column.title).Nodup) (x : α)
    (canonical : ∀ column ∈ columns, (column.value x).Canonical) (level : Nat) :
    ValueText (readRecord columns x) ((record columns x).prettyChars level) := by
  refine object_laid_out (fun m member => ?_) (by rwa [List.map_map])
  obtain ⟨column, listed, rfl⟩ := List.mem_map.mp member
  exact pretty_text _ (canonical column listed) (level + 1)

/-- **A list that is printed for programs reads back**, if its titles are distinct and its
values are canonical and do not have too many levels. -/
theorem listing_reads (distinct : (columns.map Column.title).Nodup)
    (canonical : ∀ column ∈ columns, ∀ x ∈ xs, (column.value x).Canonical)
    (shallow : ∀ column ∈ columns, ∀ x ∈ xs, (column.value x).depth + 2 ≤ maxDepth) :
    Value.parse (render true columns xs) = .ok (.array (xs.map (readRecord columns))) := by
  have each : List.Forall₂ (fun w v => ValueText w (v.prettyChars 1))
      (xs.map (readRecord columns)) (xs.map (record columns)) := by
    rw [List.forall₂_map_left_iff, List.forall₂_map_right_iff]
    exact List.forall₂_same.mpr fun x listed =>
      record_text distinct x (fun column member => canonical column member x listed) 1
  refine pretty_reads (array_laid_out each) (Nat.succ_le_of_lt (Nat.lt_succ_of_le ?_))
  refine items_depth_bounded fun v member => ?_
  obtain ⟨x, listed, rfl⟩ := List.mem_map.mp member
  exact record_depth distinct x fun column member =>
    Nat.le_sub_of_add_le (shallow column member x listed)

end Fanout.Console.Listing
