import Mathlib.Data.List.Induction
import Mathlib.Data.List.Sort
import Mathlib.Tactic.Common
import Signpost.Json.Value

/-!
# Sorted entries

The entries of an object are kept in the order of their keys, and of entries with one key the last is kept.  Entries put
in their places one by one have ascending keys (`ascending_sortEntries`), and they are the entries that count, sorted
(`sortEntries_eq`).
-/

namespace Signpost.Json

variable {α β : Type}

/-- The keys ascend, so that no two are equal. -/
def Ascending (es : List (String × α)) : Prop := es.Pairwise fun d e => d.1 < e.1

private theorem mem_insertSorted {k : String} {v : α} {es : List (String × α)} {e : String × α}
    (h : e ∈ insertSorted k v es) : e = (k, v) ∨ e ∈ es := by
  fun_induction insertSorted k v es <;> grind

theorem mem_of_mem_sortEntries {es : List (String × α)} {e : String × α} (h : e ∈ sortEntries es) : e ∈ es := by
  have hfold : ∀ sorted : List (String × α), e ∈ es.foldl (fun sorted e => insertSorted e.1 e.2 sorted) sorted →
      e ∈ sorted ∨ e ∈ es := by
    clear h
    induction es with
    | nil => exact fun _ h => .inl h
    | cons d es ih =>
      intro sorted h
      rcases ih _ h with h | h
      · rcases mem_insertSorted h with rfl | h
        · exact .inr List.mem_cons_self
        · exact .inl h
      · exact .inr (List.mem_cons_of_mem _ h)
  exact (hfold [] h).resolve_left List.not_mem_nil

theorem Ascending.insertSorted {es : List (String × α)} (h : Ascending es) (k : String) (v : α) :
    Ascending (insertSorted k v es) := by
  fun_induction Json.insertSorted k v es with
  | case1 => exact List.pairwise_singleton _ _
  | case2 v' es => exact List.pairwise_cons.2 (List.pairwise_cons.1 h)
  | case3 k' v' es hne hlt =>
    refine List.pairwise_cons.2 ⟨fun e he => ?_, h⟩
    obtain rfl | he := List.mem_cons.1 he
    · exact hlt
    · exact String.lt_trans hlt ((List.pairwise_cons.1 h).1 e he)
  | case4 k' v' es hne hlt ih =>
    refine List.pairwise_cons.2 ⟨fun e he => ?_, ih (List.pairwise_cons.1 h).2⟩
    obtain rfl | he := mem_insertSorted he
    · grind
    · exact (List.pairwise_cons.1 h).1 e he

theorem ascending_sortEntries (es : List (String × α)) : Ascending (sortEntries es) := by
  have h : ∀ sorted : List (String × α), Ascending sorted →
      Ascending (es.foldl (fun sorted e => insertSorted e.1 e.2 sorted) sorted) := by
    induction es with
    | nil => exact fun _ h => h
    | cons e es ih => exact fun sorted h => ih _ (h.insertSorted e.1 e.2)
  exact h [] List.Pairwise.nil

/-- Entries that come last in the order of their keys are put at the end. -/
private theorem insertSorted_append {k : String} {v : α} {es : List (String × α)} (h : ∀ e ∈ es, e.1 < k) :
    insertSorted k v es = es ++ [(k, v)] := by
  induction es with
  | nil => rfl
  | cons e es ih =>
    have hlt : e.1 < k := h e List.mem_cons_self
    rw [insertSorted, if_neg (by grind), if_neg (by grind), ih fun e' he' => h e' (List.mem_cons_of_mem _ he')]
    rfl

theorem Ascending.sortEntries {es : List (String × α)} (h : Ascending es) : sortEntries es = es := by
  have hfold : ∀ sorted : List (String × α), Ascending (sorted ++ es) →
      es.foldl (fun sorted e => Json.insertSorted e.1 e.2 sorted) sorted = sorted ++ es := by
    clear h
    induction es with
    | nil => exact fun sorted _ => (List.append_nil sorted).symm
    | cons e es ih =>
      intro sorted h
      have hlast : ∀ d ∈ sorted, d.1 < e.1 := fun d hd =>
        (List.pairwise_append.1 h).2.2 d hd e List.mem_cons_self
      rw [List.foldl_cons, insertSorted_append hlast, ih, List.append_assoc]
      · rfl
      · rwa [List.append_assoc]
  exact hfold [] h

theorem sortEntries_concat (es : List (String × α)) (e : String × α) :
    sortEntries (es ++ [e]) = insertSorted e.1 e.2 (sortEntries es) := by
  rw [sortEntries, List.foldl_append]
  rfl

/-! ### Values of entries -/

private theorem map_insertSorted (f : α → β) (k : String) (v : α) (es : List (String × α)) :
    (insertSorted k v es).map (fun e => (e.1, f e.2)) = insertSorted k (f v) (es.map fun e => (e.1, f e.2)) := by
  fun_induction insertSorted k v es with
  | case1 => rfl
  | case2 v' es => simp [insertSorted]
  | case3 k' v' es hne hlt => simp [insertSorted, hne, hlt]
  | case4 k' v' es hne hlt ih => simp [insertSorted, hne, hlt, ih]

/-- What is done to the values does not change the order of the keys. -/
theorem map_sortEntries (f : α → β) (es : List (String × α)) :
    (sortEntries es).map (fun e => (e.1, f e.2)) = sortEntries (es.map fun e => (e.1, f e.2)) := by
  induction es using List.reverseRecOn with
  | nil => rfl
  | append_singleton es e ih =>
    rw [sortEntries_concat, map_insertSorted, ih, List.map_append, List.map_singleton, sortEntries_concat]

/-! ### The entries that count -/

/-- The entries behind which no other has the same key. -/
def lastEntries : List (String × α) → List (String × α)
  | [] => []
  | e :: es => if es.any fun d => d.1 == e.1 then lastEntries es else e :: lastEntries es

/-- The entry at the end takes the place of one with its key. -/
private theorem perm_lastEntries_concat (es : List (String × α)) (e : String × α) :
    (lastEntries (es ++ [e])).Perm (e :: (lastEntries es).filter fun d => d.1 != e.1) := by
  induction es with
  | nil => simp [lastEntries]
  | cons d es ih =>
    by_cases hkey : d.1 = e.1
    · have hlater : (es ++ [e]).any (fun c => c.1 == d.1) = true := by simp [hkey]
      have hfilter : (lastEntries (d :: es)).filter (fun c => c.1 != e.1) =
          (lastEntries es).filter fun c => c.1 != e.1 := by
        rw [lastEntries]
        split
        · rfl
        · simp [hkey]
      rw [List.cons_append, lastEntries, if_pos hlater, hfilter]
      exact ih
    · have hlater : (es ++ [e]).any (fun c => c.1 == d.1) = es.any fun c => c.1 == d.1 := by
        simp [Ne.symm hkey]
      rw [List.cons_append, lastEntries, lastEntries, hlater]
      split
      · exact ih
      · rw [List.filter_cons_of_pos (by simpa using hkey)]
        exact (ih.cons d).trans (List.Perm.swap e d _)

private theorem perm_insertSorted {es : List (String × α)} (h : Ascending es) (k : String) (v : α) :
    (insertSorted k v es).Perm ((k, v) :: es.filter fun e => e.1 != k) := by
  fun_induction insertSorted k v es with
  | case1 => exact List.Perm.refl _
  | case2 v' es =>
    have hne : ∀ e ∈ es, e.1 ≠ k := fun e he heq => by
      have hlt := (List.pairwise_cons.1 h).1 e he
      grind
    have hfilter : ((k, v') :: es).filter (fun e => e.1 != k) = es := by
      simpa using hne
    rw [hfilter]
  | case3 k' v' es hne hlt =>
    have hall : ∀ e ∈ (k', v') :: es, e.1 ≠ k := by
      intro e he heq
      obtain rfl | he := List.mem_cons.1 he
      · exact hne heq.symm
      · have hlt' := (List.pairwise_cons.1 h).1 e he
        grind
    rw [List.filter_eq_self.2 (by simpa using hall)]
  | case4 k' v' es hne hlt ih =>
    rw [List.filter_cons_of_pos (by simpa using Ne.symm hne)]
    exact ((ih (List.pairwise_cons.1 h).2).cons (k', v')).trans (List.Perm.swap _ _ _)

theorem perm_sortEntries (es : List (String × α)) : (sortEntries es).Perm (lastEntries es) := by
  induction es using List.reverseRecOn with
  | nil => exact List.Perm.refl _
  | append_singleton es e ih =>
    rw [sortEntries_concat]
    have hinsert := perm_insertSorted (ascending_sortEntries es) e.1 e.2
    have hfilter := (ih.filter fun d => d.1 != e.1).cons e
    exact hinsert.trans (hfilter.trans (perm_lastEntries_concat es e).symm)

/-- Entries with one key do not stand in ascending order. -/
private theorem Ascending.eq_of_key {es : List (String × α)} (h : Ascending es) {d e : String × α} (hd : d ∈ es)
    (he : e ∈ es) (hkey : d.1 = e.1) : d = e := by
  have hkeys : (es.map (·.1)).Nodup := List.pairwise_map.2 (h.imp fun hlt => by grind)
  exact List.inj_on_of_nodup_map hkeys hd he hkey

/-- Entries are sorted by their keys, and of those with one key the last is kept. -/
theorem sortEntries_eq (es : List (String × α)) :
    sortEntries es = (lastEntries es).insertionSort fun d e => d.1 ≤ e.1 := by
  have hascending := ascending_sortEntries es
  have hperm : (sortEntries es).Perm ((lastEntries es).insertionSort fun d e => d.1 ≤ e.1) :=
    (perm_sortEntries es).trans (List.perm_insertionSort _ _).symm
  have : Std.Total fun d e : String × α => d.1 ≤ e.1 := ⟨fun d e => String.le_total d.1 e.1⟩
  have : IsTrans (String × α) fun d e => d.1 ≤ e.1 := ⟨fun _ _ _ => String.le_trans⟩
  refine hperm.eq_of_pairwise ?_ (hascending.imp Std.le_of_lt) (List.pairwise_insertionSort _ _)
  intro d e hd he hle hge
  exact hascending.eq_of_key hd (hperm.mem_iff.2 he) (String.le_antisymm hle hge)

end Signpost.Json
