/-!
# Tables

Entries with a key, in the order in which the keys were first put. Putting a value under a key that is
there replaces the value and keeps its place.
-/

namespace Signpost

/-- Entries by key, in order. -/
abbrev Table (κ α : Type) := List (κ × α)

namespace Table

variable {κ α : Type} [DecidableEq κ]

/-- The value under a key. -/
def get? (t : Table κ α) (key : κ) : Option α :=
  match t with
  | [] => none
  | (k, v) :: es => if k = key then some v else get? es key

theorem mem_of_get? {t : Table κ α} {key : κ} {a : α} (h : t.get? key = some a) : (key, a) ∈ t := by
  induction t with
  | nil => cases h
  | cons e es ih =>
    rw [get?] at h
    split at h
    · rename_i hkey
      cases h
      rw [← hkey]
      exact List.mem_cons_self
    · exact List.mem_cons_of_mem _ (ih h)

/-- Among distinct keys every value is found under its own. -/
theorem get?_of_mem {t : Table κ α} {key : κ} {a : α} (hkeys : (t.map (·.1)).Nodup) (h : (key, a) ∈ t) :
    t.get? key = some a := by
  induction t with
  | nil => cases h
  | cons e es ih =>
    obtain ⟨hne, hkeys⟩ := List.nodup_cons.1 hkeys
    rw [get?]
    obtain rfl | h := List.mem_cons.1 h
    · exact if_pos rfl
    · rw [if_neg fun heq => hne (List.mem_map.2 ⟨_, h, heq.symm⟩), ih hkeys h]

/-- Puts a value under a key: in place of the one there, or at the end. -/
def put (key : κ) (value : α) : Table κ α → Table κ α
  | [] => [(key, value)]
  | (k, v) :: es => if k = key then (key, value) :: es else (k, v) :: put key value es

/-- The table of a list of entries, of which later ones replace earlier ones. -/
def ofList (entries : List (κ × α)) : Table κ α := entries.foldl (fun t e => t.put e.1 e.2) []

/-- The keys in order. -/
def keys (t : Table κ α) : List κ := t.map (·.1)

/-- Whether two tables have the same keys, with values under them that count as the same. -/
def agrees (same : α → α → Bool) (t u : Table κ α) : Bool :=
  t.length == u.length && t.all fun e => (u.get? e.1).any (same e.2)

theorem mem_put {t : Table κ α} {key : κ} {value : α} {e : κ × α} (h : e ∈ t.put key value) :
    e = (key, value) ∨ e ∈ t := by
  induction t with
  | nil => exact .inl (List.mem_singleton.1 h)
  | cons d t ih =>
    rw [put] at h
    split at h
    · exact (List.mem_cons.1 h).imp_right (List.mem_cons_of_mem _)
    · obtain rfl | h := List.mem_cons.1 h
      · exact .inr List.mem_cons_self
      · exact (ih h).imp_right (List.mem_cons_of_mem _)

theorem get?_put (t : Table κ α) (key key' : κ) (value : α) :
    (t.put key value).get? key' = if key = key' then some value else t.get? key' := by
  induction t with
  | nil => rfl
  | cons d t ih =>
    rw [put]
    split
    · rename_i heq
      rw [get?, get?, heq]
      split <;> rfl
    · rename_i hne
      rw [get?, get?, ih]
      split
      · rename_i heq
        rw [if_neg fun hkey => hne (heq.trans hkey.symm)]
      · rfl

theorem put_of_not_mem {t : Table κ α} {key : κ} (h : key ∉ t.keys) (value : α) :
    t.put key value = t ++ [(key, value)] := by
  induction t with
  | nil => rfl
  | cons d t ih =>
    obtain ⟨hne, h⟩ := not_or.1 (mt List.mem_cons.2 h)
    rw [put, if_neg fun heq => hne heq.symm, ih h]
    rfl

/-- The next of distinct entries is put behind those that are there. -/
theorem put_append {t es : Table κ α} {e : κ × α} (h : (t ++ e :: es).keys.Nodup) :
    t.put e.1 e.2 ++ es = t ++ e :: es := by
  rw [keys, List.map_append, List.map_cons] at h
  have hnew : e.1 ∉ t.keys := fun hmem => (List.nodup_append.1 h).2.2 _ hmem _ List.mem_cons_self rfl
  rw [put_of_not_mem hnew, List.append_assoc, List.singleton_append]

/-- Putting a value under a key leaves the keys distinct. -/
theorem nodup_keys_put {t : Table κ α} (h : t.keys.Nodup) (key : κ) (value : α) : (t.put key value).keys.Nodup := by
  induction t with
  | nil => simp [put, keys]
  | cons d t ih =>
    rw [keys, List.map_cons, List.nodup_cons] at h
    rw [put]
    split
    · rename_i heq
      rw [keys, List.map_cons, List.nodup_cons, ← heq]
      exact h
    · rename_i hne
      rw [keys, List.map_cons, List.nodup_cons]
      refine ⟨fun hmem => ?_, ih h.2⟩
      obtain ⟨e, he, hkey⟩ := List.mem_map.1 hmem
      obtain rfl | he := mem_put he
      · exact hne hkey.symm
      · exact h.1 (hkey ▸ List.mem_map_of_mem he)

theorem nodup_keys_ofList (entries : List (κ × α)) : (ofList entries).keys.Nodup := by
  have hfold (t : Table κ α) (h : t.keys.Nodup) : (entries.foldl (fun t e => t.put e.1 e.2) t).keys.Nodup := by
    induction entries generalizing t with
    | nil => exact h
    | cons e es ih => exact ih _ (nodup_keys_put h e.1 e.2)
  exact hfold [] List.nodup_nil

/-- Distinct entries are a table as they are. -/
theorem ofList_eq_self {t : Table κ α} (h : t.keys.Nodup) : ofList t = t := by
  have hfold (es t : Table κ α) (h : (t ++ es).keys.Nodup) : es.foldl (fun t e => t.put e.1 e.2) t = t ++ es := by
    induction es generalizing t with
    | nil => exact (List.append_nil t).symm
    | cons e es ih =>
      rw [List.foldl_cons, ih _ (by rwa [put_append h]), put_append h]
  exact hfold t [] h

theorem get?_map {β : Type} (f : α → β) (t : Table κ α) (key : κ) :
    get? (t.map fun e => (e.1, f e.2)) key = (t.get? key).map f := by
  induction t with
  | nil => rfl
  | cons e t ih =>
    rw [List.map_cons, get?, get?, ih]
    split <;> rfl

omit [DecidableEq κ] in
theorem keys_map {β : Type} (f : α → β) (t : Table κ α) : keys (t.map fun e => (e.1, f e.2)) = t.keys := by
  rw [keys, keys, List.map_map]
  rfl

end Table

end Signpost
