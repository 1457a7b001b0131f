import Mathlib.Data.List.Induction
import Signpost.Proofs.Resolver.Used

/-!
# What a registry has seen

A registry keeps its functions and the ids that were looked up apart from each other.  What it shows of its history is
said here of the history alone: which function an id means (`get?_after`), and which look-ups had success since the
last reset (`used_after`).  From both it follows what counts as used, and as which function (`usedFunctions_after`).
-/

namespace Signpost.Resolver.Registry

/-! ### Histories -/

/-- Whether the change makes a registry forget what was looked up. -/
def Change.isReset : Change → Bool
  | .reset => true
  | _ => false

/-- What the change registers under an id. -/
def Change.registered? (id : String) : Change → Option Function
  | .register f => if f.id = id then some f else none
  | _ => none

/-- The function that an id means behind a history: the one that was registered last, or else the one of the start. -/
def latest? (r : Registry) (changes : List Change) (id : String) : Option Function :=
  ((changes.filterMap (Change.registered? id)).getLast?).or (r.functions.get? id)

/-- The id that is looked up at a place of a history, if it means a function there and no reset comes behind. -/
def hit? (r : Registry) (changes : List Change) (n : Nat) : Option String :=
  match changes[n]? with
  | some (.lookUp id) =>
    if (r.latest? (changes.take n) id).isSome && !(changes.drop n).any Change.isReset then some id else none
  | _ => none

/-- The ids that were looked up with success since the last reset, in order and as often as they were. -/
def hits (r : Registry) (changes : List Change) : List String :=
  (List.range changes.length).filterMap (r.hit? changes)

section

variable (r : Registry) (changes : List Change) (id : String)

theorem after_concat (c : Change) : r.after (changes ++ [c]) = (r.after changes).change c := by
  rw [after, List.foldl_concat, after]

theorem latest?_append (later : List Change) : r.latest? (changes ++ later) id =
    ((later.filterMap (Change.registered? id)).getLast?).or (r.latest? changes id) := by
  rw [latest?, latest?, List.filterMap_append, List.getLast?_append, Option.or_assoc]

/-- A registry has the functions that its history says. -/
theorem get?_after : (r.after changes).functions.get? id = r.latest? changes id := by
  induction changes using List.reverseRecOn with
  | nil => rfl
  | append_singleton cs c ih =>
    rw [after_concat, functions_change, latest?_append]
    cases c with
    | register f =>
      rw [Table.get?_put, ih]
      by_cases h : f.id = id <;> simp [Change.registered?, h]
    | lookUp name => simpa [Change.registered?] using ih
    | reset => simpa [Change.registered?] using ih

/-! ### Look-ups with success -/

/-- A later change does not concern what came before it, unless it is a reset. -/
private theorem hit?_concat {n : Nat} (h : n < changes.length) (c : Change) :
    r.hit? (changes ++ [c]) n = if c.isReset then none else r.hit? changes n := by
  rw [hit?, hit?, List.getElem?_append_left h, List.take_append_of_le_length (Nat.le_of_lt h),
    List.drop_append_of_le_length (Nat.le_of_lt h)]
  cases changes[n]? with
  | none => simp
  | some d =>
    cases d with
    | lookUp id => cases hc : c.isReset <;> simp [hc]
    | register f => simp
    | reset => simp

theorem hits_concat (c : Change) : r.hits (changes ++ [c]) = match c with
    | .register _ => r.hits changes
    | .lookUp id => r.hits changes ++ if (r.latest? changes id).isSome then [id] else []
    | .reset => [] := by
  have hfirst : (List.range changes.length).filterMap (r.hit? (changes ++ [c])) =
      if c.isReset then [] else r.hits changes := by
    rw [List.filterMap_congr fun n hn => hit?_concat r changes (List.mem_range.1 hn) c, hits]
    cases c.isReset <;> simp
  rw [hits, List.length_append, List.length_singleton, List.range_succ, List.filterMap_append, hfirst]
  cases c with
  | register f => simp [hit?, Change.isReset]
  | lookUp id => by_cases h : (r.latest? changes id).isSome = true <;> simp [hit?, Change.isReset, h]
  | reset => simp [hit?, Change.isReset]

/-- What was looked up with success is still there. -/
theorem isSome_latest?_of_mem (h : id ∈ r.hits changes) : (r.latest? changes id).isSome = true := by
  obtain ⟨n, -, hn⟩ := List.mem_filterMap.1 h
  rw [hit?] at hn
  split at hn
  · split at hn
    · rename_i hfound
      cases hn
      rw [Bool.and_eq_true] at hfound
      rw [← List.take_append_drop n changes, latest?_append, Option.isSome_or, hfound.1, Bool.or_true]
    · cases hn
  · cases hn

end

private theorem eraseDups_concat (ids : List String) (id : String) :
    (ids ++ [id]).eraseDups = if id ∈ ids then ids.eraseDups else ids.eraseDups ++ [id] := by
  rw [List.eraseDups_append]
  by_cases h : id ∈ ids
  · simp [List.removeAll, h]
  · simp [List.removeAll, h, List.eraseDups_cons]

variable {r : Registry}

/-- What counts as used is each id that was looked up with success, in the order of the first time. -/
theorem used_after (hr : r.used = []) (changes : List Change) :
    (r.after changes).used = (r.hits changes).eraseDups := by
  induction changes using List.reverseRecOn with
  | nil => exact hr
  | append_singleton cs c ih =>
    rw [after_concat, hits_concat]
    cases c with
    | register f => exact ih
    | reset => rfl
    | lookUp id =>
      rw [change, lookUp_eq, get?_after]
      cases hid : r.latest? cs id with
      | none => simpa [hid] using ih
      | some f =>
        change ((r.after cs).use [id]).used = (r.hits cs ++ (if (r.latest? cs id).isSome then [id] else [])).eraseDups
        rw [hid, Option.isSome_some, if_pos rfl, eraseDups_concat, used_use, ih]
        by_cases hmem : id ∈ r.hits cs
        · simp [hmem]
        · simp [hmem, List.eraseDups_cons]

private theorem map_some_filterMap {α β : Type} {f : α → Option β} {as : List α} (h : ∀ a ∈ as, (f a).isSome = true) :
    (as.filterMap f).map some = as.map f := by
  induction as with
  | nil => rfl
  | cons a as ih =>
    obtain ⟨ha, has⟩ := List.forall_mem_cons.1 h
    obtain ⟨b, hb⟩ := Option.isSome_iff_exists.1 ha
    rw [List.filterMap_cons_some hb, List.map_cons, List.map_cons, ih has, hb]

theorem map_id_usedFunctions (hr : r.used = []) (hkeyed : r.Keyed) (changes : List Change) :
    (r.after changes).usedFunctions.map (·.id) = (r.hits changes).eraseDups := by
  rw [usedFunctions, used_after hr]
  refine (hkeyed.after changes).map_id fun id hid => ?_
  rw [get?_after]
  exact isSome_latest?_of_mem r changes id (List.mem_eraseDups.1 hid)

/-- Looking up a function that is not there leaves everything as it is. -/
theorem after_lookUp_of_latest?_eq_none {changes : List Change} {id : String} (h : r.latest? changes id = none)
    (later : List Change) : r.after (changes ++ .lookUp id :: later) = r.after (changes ++ later) := by
  have hmiss : (r.after changes).change (.lookUp id) = r.after changes := by
    rw [change, lookUp_eq, get?_after, h]
    rfl
  rw [after, after, List.foldl_append, List.foldl_append, List.foldl_cons]
  change later.foldl change ((r.after changes).change (.lookUp id)) = later.foldl change (r.after changes)
  rw [hmiss]

private theorem start (hr : r = empty ∨ r = standard) : r.used = [] ∧ r.Keyed := by
  obtain rfl | rfl := hr
  · exact ⟨rfl, keyed_after []⟩
  · exact ⟨rfl, standard_eq_after ▸ keyed_after _⟩

/-- A registry that starts empty or with the standard functions shows its history.  A look-up gives the function that
was registered last.  The functions that count as used are those that were looked up with success since the last reset,
each once, in the order of the first time, and each as it was registered last; exactly their ids count as used.  Looking
up what is not there leaves no trace, whatever comes later, and registering a function does not change which ids are
used, nor their order. -/
theorem usedFunctions_after (hr : r = empty ∨ r = standard) (changes : List Change) :
    (∀ id, ((r.after changes).lookUp id).map (·.1) = r.latest? changes id) ∧
    (r.after changes).usedFunctions.map (·.id) = (r.hits changes).eraseDups ∧
    (r.after changes).usedFunctions.map some = (r.hits changes).eraseDups.map (r.latest? changes) ∧
    (∀ id, (r.after changes).isUsed id = true ↔ id ∈ r.hits changes) ∧
    (∀ id later, r.latest? changes id = none →
      r.after (changes ++ .lookUp id :: later) = r.after (changes ++ later)) ∧
    ∀ f, (r.after (changes ++ [.register f])).usedFunctions.map (·.id) = (r.after changes).usedFunctions.map (·.id) ∧
      ∀ id, (r.after (changes ++ [.register f])).isUsed id = (r.after changes).isUsed id := by
  obtain ⟨hused, hkeyed⟩ := start hr
  refine ⟨fun id => ?_, map_id_usedFunctions hused hkeyed changes, ?_, fun id => ?_,
    fun id later h => after_lookUp_of_latest?_eq_none h later, fun f => ⟨?_, fun id => ?_⟩⟩
  · rw [lookUp_eq, Option.map_map, ← get?_after]
    exact Option.map_id'
  · rw [usedFunctions, used_after hused, List.filterMap_congr fun id _ => get?_after r changes id]
    exact map_some_filterMap fun id hid => isSome_latest?_of_mem r changes id (List.mem_eraseDups.1 hid)
  · rw [isUsed, used_after hused, List.contains_iff_mem, List.mem_eraseDups]
  · rw [map_id_usedFunctions hused hkeyed, map_id_usedFunctions hused hkeyed, hits_concat]
  · rw [isUsed, isUsed, used_after hused, used_after hused, hits_concat]

/-- A function is looked up before it is registered, and one that was looked up is registered again. -/
def revisions : List Change :=
  [.lookUp "substring", .reset, .lookUp "label", .lookUp "uriEncode", .lookUp "aws.partition",
    .register { Library.isValidHostLabel with id := "label" }, .lookUp "uriEncode",
    .register { Library.uriEncode with returnsOwned := false }]

theorem usedFunctions_after_revisions :
    (standard.after revisions).usedFunctions.map some =
        [some { Library.uriEncode with returnsOwned := false }, some Library.partitionOf] ∧
      (standard.after revisions).isUsed "label" = false := by
  have h := usedFunctions_after (.inr rfl) revisions
  have hhits : standard.hits revisions = ["uriEncode", "aws.partition", "uriEncode"] := by cbv
  refine ⟨?_, ?_⟩
  · rw [h.2.2.1, hhits]
    rfl
  · rw [← Bool.not_eq_true, h.2.2.2.1, hhits]
    decide

end Signpost.Resolver.Registry
