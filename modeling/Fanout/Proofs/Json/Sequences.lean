import Fanout.Proofs.Json.Words

/-! Reading arrays and objects whose items and members are read one by one. If a reader does
with each item what a function says, it does with the whole array what the function does to
the list of items, the first fault included; and an object is a fold over its members. -/
namespace Fanout.Json

variable {α β κ σ : Type} {E : α → List Char → Prop} {K : κ → List Char → Prop} {first : Bool}
  {gap t u ws rest bound : List Char} {as : List α} {entries : List (κ × α)}

/-- The reader does with the text of each item what the function does with the item. -/
def ReadsItems (item : Reader β) (E : α → List Char → Prop) (out : α → Except Fault β)
    (as : List α) : Prop :=
  ∀ a ∈ as, ∀ t rest, E a t → Boundary rest → item (t ++ rest) = (out a).map (·, rest)

/-- The reader finds each key up to its closing quote. -/
def ReadsKeys (key : Reader κ) (K : κ → List Char → Prop) : Prop :=
  ∀ k t rest, K k t → key (t ++ rest) = .ok (k, rest)

/-- The reader does with the value of each member, behind its colon, what the function does
with the member. -/
def ReadsMembers (member : σ → κ → Reader σ) (E : α → List Char → Prop)
    (out : σ → κ × α → Except Fault σ) (entries : List (κ × α)) : Prop :=
  ∀ entry ∈ entries, ∀ acc ws more t rest, Blank ws → Blank more → E entry.2 t →
    Boundary rest →
      member acc entry.1 (ws ++ ':' :: (more ++ (t ++ rest))) = (out acc entry).map (·, rest)

/-! ### Gaps and ends -/

theorem nextItem_gap (between : Gap first gap) (opens : Opens t) :
    nextItem first (gap ++ (t ++ rest)) = .ok (true, t ++ rest) := by
  obtain ⟨c, more, rfl, word, notEnd⟩ := opens
  cases between with
  | opening blank => simp [nextItem, skipSpace_to blank word, notEnd]
  | comma before after =>
    rw [List.append_assoc, List.cons_append, nextItem, skipSpace_to before (by decide)]
    simp [skipSpace_to after word, notEnd]

theorem nextItem_close (blank : Blank ws) :
    nextItem first (ws ++ ']' :: rest) = .ok (false, ']' :: rest) := by
  simp [nextItem, skipSpace_to blank (show isSpace ']' = false from rfl)]

theorem nextKey_gap (between : Gap first gap) :
    nextKey first (gap ++ '"' :: rest) = .ok (true, rest) := by
  have word : isSpace '"' = false := rfl
  cases between with
  | opening blank => simp [nextKey, skipSpace_to blank word]
  | comma before after =>
    rw [List.append_assoc, List.cons_append, nextKey, skipSpace_to before (by decide)]
    simp [skipSpace_to after word]

theorem nextKey_close (blank : Blank ws) :
    nextKey first (ws ++ '\x7d' :: rest) = .ok (false, '\x7d' :: rest) := by
  simp [nextKey, skipSpace_to blank (show isSpace '\x7d' = false from rfl)]

theorem colon_reads (blank : Blank ws) : colon (ws ++ ':' :: rest) = .ok rest := by
  simp [colon, skipSpace_to blank (show isSpace ':' = false from rfl)]

theorem boundary_comma (between : Gap false gap) (rest : List Char) : Boundary (gap ++ rest) := by
  cases between with
  | comma before after =>
    rw [List.append_assoc]
    exact boundary_blank before (boundary_cons (by simp) _)

theorem boundary_gap (between : Gap first gap) (boundary : Boundary rest) :
    Boundary (gap ++ rest) := by
  cases first with
  | true =>
    cases between with
    | opening blank => exact boundary_blank blank boundary
  | false => exact boundary_comma between rest

theorem boundary_close {c : Char} (blank : Blank ws) (ends : c ∈ [']', '\x7d']) (rest : List Char) :
    Boundary (ws ++ c :: rest) := by
  refine boundary_blank blank (boundary_cons ?_ rest)
  simp only [List.mem_cons, List.not_mem_nil, or_false] at ends ⊢
  rcases ends with rfl | rfl <;> simp

theorem boundary_series (series : Series E false as u) (boundary : Boundary rest) :
    Boundary (u ++ rest) := by
  cases series with
  | nil => exact boundary
  | cons between item others =>
    rw [List.append_assoc]
    exact boundary_comma between _

/-- Every item but the first one has a comma in front of it. -/
theorem series_length (series : Series E first as u) : as.length ≤ u.length + first.toNat := by
  induction series with
  | nil => exact Nat.zero_le _
  | cons between item others ih =>
    cases between with
    | opening blank =>
      simp only [List.length_cons, List.length_append, Bool.toNat_true, Bool.toNat_false] at ih ⊢
      omega
    | comma before after =>
      simp only [List.length_cons, List.length_append, Bool.toNat_false] at ih ⊢
      omega

/-- What holds of all item texts that are no longer than the series holds in the series. -/
theorem series_imp {F : α → List Char → Prop} (series : Series E first as u)
    (imp : ∀ a t, E a t → t.length ≤ u.length → F a t) : Series F first as u := by
  induction series with
  | nil => exact .nil
  | cons between item others ih =>
    refine .cons between (imp _ _ item ?_) (ih fun a t here short => imp a t here ?_)
    · simp only [List.length_append]
      omega
    · simp only [List.length_append]
      omega

/-! ### Arrays -/

/-- The items at the front are read one after the other, and then whatever follows. -/
theorem items_series {item : Reader β} {out : α → Except Fault β}
    (opens : ∀ a t, E a t → Opens t) (reads : ReadsItems item E out as)
    (series : Series E first as u) (room : as.length ≤ bound.length) (boundary : Boundary rest) :
    items item bound first (u ++ rest) = (as.mapM out).bind fun bs =>
      (items item (bound.drop as.length) (first && as.isEmpty) rest).map fun (cs, s) =>
        (bs ++ cs, s) := by
  induction series generalizing bound with
  | @nil first =>
    have same : (first && ([] : List α).isEmpty) = first := Bool.and_true first
    rw [same]
    exact (congrFun Except.map_id (items item bound first rest)).symm
  | @cons first a as gap t u between here others ih =>
    cases bound with
    | nil => simp at room
    | cons b bound =>
      have others := ih (fun a member => reads a (List.mem_cons_of_mem _ member))
        (Nat.le_of_succ_le_succ room)
      have read := reads a List.mem_cons_self t (u ++ rest) here (boundary_series ‹_› boundary)
      rw [List.append_assoc, List.append_assoc, items, nextItem_gap between (opens a t here)]
      simp only [read, List.mapM_cons]
      cases out a with
      | error fault => rfl
      | ok b =>
        have started : (first && (a :: as).isEmpty) = (false && as.isEmpty) := by simp
        simp only [Except.map, bind, Except.bind, others, started, List.length_cons,
          List.drop_succ_cons]
        cases as.mapM out with
        | error fault => rfl
        | ok bs => cases items item (bound.drop as.length) (false && as.isEmpty) rest <;> rfl

theorem items_close {item : Reader β} {b : Char} (blank : Blank ws) :
    items item (b :: bound) first (ws ++ ']' :: rest) = .ok ([], ']' :: rest) := by
  rw [items, nextItem_close blank]

/-- The bound of a whole array or object is not used up by its items. -/
theorem beyond_room (series : Series E true as u) {tail : List Char} (more : tail ≠ []) :
    as.length < (beyond (u ++ tail)).length := by
  have fewer := series_length series
  have some := List.length_pos_iff.mpr more
  simp only [beyond, List.length_cons, List.length_append, Bool.toNat_true] at fewer ⊢
  omega

theorem beyond_left (series : Series E true as u) {tail : List Char} (more : tail ≠ []) :
    ∃ b bound, (beyond (u ++ tail)).drop as.length = b :: bound := by
  refine List.exists_cons_of_ne_nil ?_
  rw [ne_eq, List.drop_eq_nil_iff]
  exact Nat.not_le.mpr (beyond_room series more)

/-- An array is read item by item. -/
theorem arrayRest_series {item : Reader β} {out : α → Except Fault β}
    (opens : ∀ a t, E a t → Opens t) (reads : ReadsItems item E out as)
    (series : Series E true as u) (blank : Blank ws) :
    arrayRest item (u ++ (ws ++ ']' :: rest)) = (as.mapM out).map (·, rest) := by
  have some : ws ++ ']' :: rest ≠ [] := by simp
  obtain ⟨b, bound, left⟩ := beyond_left series some
  rw [arrayRest, items_series opens reads series (Nat.le_of_lt (beyond_room series some))
    (boundary_close blank (by simp) rest), left, items_close blank]
  cases as.mapM out with
  | error fault => rfl
  | ok bs =>
    simp only [Except.bind, Except.map, List.append_nil]
    rfl

/-- An array is refused at the first item that is. -/
theorem arrayRest_fault {item : Reader β} {out : α → Except Fault β} {bs : List β} {fault : Fault}
    (opens : ∀ a t, E a t → Opens t) (reads : ReadsItems item E out as)
    (series : Series E true as u) (all : as.mapM out = .ok bs)
    (between : Gap as.isEmpty gap) (opensNext : Opens t) (boundary : Boundary (t ++ rest))
    (refused : item (t ++ rest) = .error fault) :
    arrayRest item (u ++ (gap ++ (t ++ rest))) = .error fault := by
  have some : gap ++ (t ++ rest) ≠ [] := by
    obtain ⟨c, more, rfl, -⟩ := opensNext
    simp
  obtain ⟨b, bound, left⟩ := beyond_left series some
  rw [arrayRest, items_series opens reads series (Nat.le_of_lt (beyond_room series some))
    (boundary_gap between boundary), all, left, Bool.true_and]
  simp only [Except.bind, items, nextItem_gap between opensNext, refused]
  rfl

/-! ### Objects -/

/-- The members at the front are taken one after the other, and then whatever follows. -/
theorem members_series {key : Reader κ} {member : σ → κ → Reader σ}
    {out : σ → κ × α → Except Fault σ} (keys : ReadsKeys key K)
    (reads : ReadsMembers member E out entries)
    (series : Series (Entry K E) first entries u) (room : entries.length ≤ bound.length)
    (boundary : Boundary rest) (acc : σ) :
    members key member bound first acc (u ++ rest) = (entries.foldlM out acc).bind fun acc =>
      members key member (bound.drop entries.length) (first && entries.isEmpty) acc rest := by
  induction series generalizing bound acc with
  | nil => simp [pure, Except.pure, Except.bind]
  | @cons first entry entries gap t u between here others ih =>
    cases bound with
    | nil => simp at room
    | cons b bound =>
      have others := ih (fun entry member => reads entry (List.mem_cons_of_mem _ member))
        (Nat.le_of_succ_le_succ room)
      have behind := boundary_series ‹Series _ false entries u› boundary
      have started : (first && (entry :: entries).isEmpty) = (false && entries.isEmpty) := by simp
      cases here with
      | @mk k a kt ws more t key before after value =>
        have read := reads (k, a) List.mem_cons_self acc ws more t (u ++ rest) before after value
          behind
        simp only [List.append_assoc, List.cons_append, members, nextKey_gap between,
          keys k kt _ key, read, List.foldlM_cons, started, List.length_cons, List.drop_succ_cons]
        cases out acc (k, a) with
        | error fault => rfl
        | ok acc => exact others acc

theorem members_close {key : Reader κ} {member : σ → κ → Reader σ} {b : Char} (blank : Blank ws)
    (acc : σ) : members key member (b :: bound) first acc (ws ++ '\x7d' :: rest) =
      .ok (acc, '\x7d' :: rest) := by
  rw [members, nextKey_close blank]

/-- An object is a fold over its members, up to its closing brace. -/
theorem members_whole {key : Reader κ} {member : σ → κ → Reader σ}
    {out : σ → κ × α → Except Fault σ} (keys : ReadsKeys key K)
    (reads : ReadsMembers member E out entries)
    (series : Series (Entry K E) true entries u) (blank : Blank ws) (acc : σ)
    (rest : List Char) :
    members key member (beyond (u ++ (ws ++ '\x7d' :: rest))) true acc
        (u ++ (ws ++ '\x7d' :: rest)) =
      (entries.foldlM out acc).map (·, '\x7d' :: rest) := by
  have some : ws ++ '\x7d' :: rest ≠ [] := by simp
  obtain ⟨b, bound, left⟩ := beyond_left series some
  rw [members_series keys reads series (Nat.le_of_lt (beyond_room series some))
    (boundary_close blank (by simp) rest), left]
  cases entries.foldlM out acc with
  | error fault => rfl
  | ok acc => exact members_close (b := b) blank acc

/-- An object is refused at the first member that is. -/
theorem members_fault {key : Reader κ} {member : σ → κ → Reader σ}
    {out : σ → κ × α → Except Fault σ} {acc last : σ} {k : κ} {kt : List Char} {fault : Fault}
    (keys : ReadsKeys key K) (reads : ReadsMembers member E out entries)
    (series : Series (Entry K E) true entries u) (folded : entries.foldlM out acc = .ok last)
    (between : Gap entries.isEmpty gap) (text : K k kt)
    (refused : member last k rest = .error fault) :
    members key member (beyond (u ++ (gap ++ '"' :: (kt ++ rest)))) true acc
      (u ++ (gap ++ '"' :: (kt ++ rest))) = .error fault := by
  have some : gap ++ '"' :: (kt ++ rest) ≠ [] := by simp
  obtain ⟨b, bound, left⟩ := beyond_left series some
  rw [members_series keys reads series (Nat.le_of_lt (beyond_room series some))
    (boundary_gap between (boundary_cons (by simp) _)), folded, left, Bool.true_and]
  simp only [Except.bind, members, nextKey_gap between, keys k kt rest text, refused]

/-- An object is a fold over its members. -/
theorem objectRest_series {key : Reader κ} {member : σ → κ → Reader σ}
    {out : σ → κ × α → Except Fault σ} (keys : ReadsKeys key K)
    (reads : ReadsMembers member E out entries)
    (series : Series (Entry K E) true entries u) (blank : Blank ws) (empty : σ) :
    objectRest key member empty (u ++ (ws ++ '\x7d' :: rest)) =
      (entries.foldlM out empty).map (·, rest) := by
  rw [objectRest, members_whole keys reads series blank]
  cases entries.foldlM out empty <;> rfl

end Fanout.Json
