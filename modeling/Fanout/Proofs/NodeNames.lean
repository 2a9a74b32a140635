import Fanout.Console.Program
import Fanout.Proofs.FirstHandles
import Fanout.Proofs.RequestDecisions
import Fanout.Proofs.TopologyLoading

/-! The nodes that a list of names stands for. A name means what is left of it without the
white space around it, and a blank one means nothing. Each name stands for the handle that
the topology has for it, and a node is kept once, where it is named first. So what reaches
the service of a list of names is settled by the distinct names that are meant. -/
namespace Fanout.Console

open FirstHandles

/-- The name is blank. -/
def Blank (name : String) : Prop := ∀ c ∈ name.toList, Text.isSpace c = true

/-- The names that a list of names means. -/
def meant (names : List String) : List String := (names.map Text.trim).filter (· ≠ "")

/-- The handle that a name stands for: that of the member, or one that knows the id alone. -/
def handleOn (topology : Topology) (name : String) : Node :=
  (topology.member? ⟨name⟩).getD (Node.ofId name)

variable {host : Host} {topology : Topology} {name : String} {names more : List String}

/-! ### The topology -/

/-- The members of a topology that was loaded have distinct ids, and the local node is one of
them. -/
theorem loaded_well_formed {path : String} (loaded : host.load path = .ok topology) :
    topology.localNode ∈ topology.members ∧ (topology.members.map Node.id).Nodup := by
  unfold Host.load at loaded
  split at loaded
  · cases loaded
  · split at loaded
    · rename_i parsed
      cases loaded
      unfold Topology.parse at parsed
      split at parsed
      · cases parsed
      · obtain ⟨distinct, -, taken⟩ := load_taken_over parsed
        rw [taken.members]
        exact ⟨taken.listed, distinct⟩
    · cases loaded

/-! ### Names -/

theorem trim_blank (blank : Blank name) : Text.trim name = "" := (trim_eq_empty_iff name).mpr blank

theorem meant_append (names more : List String) :
    meant (names ++ more) = meant names ++ meant more := by
  simp only [meant, List.map_append, List.filter_append]

theorem meant_cons (name : String) (names : List String) :
    meant (name :: names) = meant [name] ++ meant names := meant_append [name] names

/-- A blank name means nothing. -/
theorem meant_blank (blank : Blank name) : meant [name] = [] := by
  simp [meant, trim_blank blank]

/-- Nothing is meant exactly if all names are blank. -/
theorem meant_eq_nil_iff : meant names = [] ↔ ∀ name ∈ names, Blank name := by
  simp only [meant, List.filter_eq_nil_iff, List.forall_mem_map, ne_eq, decide_eq_true_eq, not_not]
  exact forall₂_congr fun name _ => trim_eq_empty_iff name

/-- White space at the two ends of a text does not count. -/
theorem trimChars_padded {lead trail : List Char} (cs : List Char)
    (before : ∀ c ∈ lead, Text.isSpace c = true) (after : ∀ c ∈ trail, Text.isSpace c = true) :
    Text.trimChars (lead ++ cs ++ trail) = Text.trimChars cs := by
  have behind (ds : List Char) :
      (ds ++ trail).reverse.dropWhile Text.isSpace = ds.reverse.dropWhile Text.isSpace := by
    rw [List.reverse_append]
    exact List.dropWhile_append_of_pos fun c member => after c (List.mem_reverse.mp member)
  rw [Text.trimChars, Text.trimChars, List.append_assoc, List.dropWhile_append_of_pos before]
  by_cases blank : ∀ c ∈ cs, Text.isSpace c = true
  · have all : ∀ c ∈ cs ++ trail, Text.isSpace c = true :=
      List.forall_mem_append.mpr ⟨blank, after⟩
    rw [List.dropWhile_eq_nil_iff.mpr all, List.dropWhile_eq_nil_iff.mpr blank]
  · have some : cs.dropWhile Text.isSpace ≠ [] :=
      fun none => blank (List.dropWhile_eq_nil_iff.mp none)
    have front : (cs ++ trail).dropWhile Text.isSpace = cs.dropWhile Text.isSpace ++ trail := by
      rw [List.dropWhile_append, if_neg (by simpa [List.isEmpty_iff] using some)]
    rw [front, behind]

/-- A name in white space means what it means without. -/
theorem meant_padded {lead trail : String} (before : Blank lead) (after : Blank trail)
    (name : String) : meant [lead ++ name ++ trail] = meant [name] := by
  have same : Text.trim (lead ++ name ++ trail) = Text.trim name := by
    simp only [Text.trim, String.toList_append, trimChars_padded name.toList before after]
  simp only [meant, List.map_cons, List.map_nil, same]

/-! ### Handles -/

theorem resolve_eq (topology : Topology) (names : List String) :
    resolve topology names = (meant names).map (handleOn topology) := rfl

theorem resolve_eq_nil_iff : resolve topology names = [] ↔ ∀ name ∈ names, Blank name := by
  rw [resolve_eq, List.map_eq_nil_iff, meant_eq_nil_iff]

/-- The handle that a name stands for has its id. -/
theorem handle_id (topology : Topology) (name : String) : (handleOn topology name).id = ⟨name⟩ := by
  rw [handleOn]
  cases found : topology.member? ⟨name⟩ with
  | none => rfl
  | some n =>
    have same := List.find?_some found
    exact beq_iff_eq.mp same

/-- The name of a member stands for the member itself. -/
theorem handle_member (distinct : (topology.members.map Node.id).Nodup) {n : Node}
    (listed : n ∈ topology.members) : handleOn topology n.id.text = n := by
  have found : topology.member? n.id = some n := (find_member_iff distinct).mpr ⟨listed, rfl⟩
  rw [handleOn, found, Option.getD_some]

theorem handle_listed (listed : (handleOn topology name).id ∈ topology.members.map Node.id) :
    handleOn topology name ∈ topology.members := by
  rw [handle_id] at listed
  obtain ⟨n, member, same⟩ := List.mem_map.mp listed
  rw [handleOn]
  cases found : topology.member? ⟨name⟩ with
  | none => exact absurd same (by simpa using List.find?_eq_none.mp found n member)
  | some other => exact List.mem_of_find?_eq_some found

/-- Renaming elements apart does not change which of them repeat others. -/
theorem eraseDups_map {α β : Type} [DecidableEq α] [DecidableEq β] {f : α → β}
    (apart : Function.Injective f) (xs : List α) : (xs.map f).eraseDups = xs.eraseDups.map f := by
  cases xs with
  | nil => rfl
  | cons x rest =>
    have others : (rest.map f).filter (fun y => !y == f x) =
        (rest.filter fun y => !y == x).map f := by
      rw [List.filter_map]
      refine congrArg (List.map f) (List.filter_congr fun y _ => congrArg (! ·) ?_)
      exact Bool.eq_iff_iff.mpr (beq_iff_eq.trans (apart.eq_iff.trans beq_iff_eq.symm))
    rw [List.map_cons, List.eraseDups_cons, others, List.eraseDups_cons, List.map_cons,
      eraseDups_map apart (rest.filter fun y => !y == x)]
  termination_by xs.length
  decreasing_by
    have bounded := List.length_filter_le (fun y => !y == x) rest
    simp only [List.length_cons]
    omega

/-- Of the nodes that names stand for, those are kept that the distinct names stand for. A
handle is settled by its id, so it is enough to know the ids that are kept. -/
theorem distinct_of_handles (topology : Topology) (names : List String) :
    distinctNodes (names.map (handleOn topology)) = names.eraseDups.map (handleOn topology) := by
  have kept : ∀ n ∈ distinctNodes (names.map (handleOn topology)),
      handleOn topology n.id.text = n := by
    intro n member
    have found := (first_handle_found member).2
    obtain ⟨name, -, rfl⟩ := List.mem_map.mp (List.mem_of_find?_eq_some found)
    rw [handle_id]
  have ids : (distinctNodes (names.map (handleOn topology))).map Node.id =
      names.eraseDups.map NodeId.mk := by
    have named : (names.map (handleOn topology)).map Node.id = names.map NodeId.mk := by
      rw [List.map_map]
      exact List.map_congr_left fun name _ => handle_id topology name
    rw [distinct_nodes_ids, named, eraseDups_map fun _ _ same => NodeId.mk.inj same]
  calc distinctNodes (names.map (handleOn topology))
      = ((distinctNodes (names.map (handleOn topology))).map Node.id).map
          fun id => handleOn topology id.text := by
        rw [List.map_map]
        exact (List.map_congr_left kept).trans (List.map_id _) |>.symm
    _ = names.eraseDups.map (handleOn topology) := by
        rw [ids, List.map_map]
        rfl

/-- The nodes that a list of names brings to a broadcast, each once. -/
theorem distinct_resolved (topology : Topology) (names : List String) :
    distinctNodes (resolve topology names) =
      (meant names).eraseDups.map (handleOn topology) := by
  rw [resolve_eq, distinct_of_handles]

end Fanout.Console
