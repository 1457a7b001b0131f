import Mathlib
import Signpost.Proofs.Traversal.Coherence
import Signpost.Schema.Document

/-!
# Shapes that contain themselves

Classifying a shape nests a call for the member of a list or set, and typing one also for the values of a map
(`Descent`).  The calls return unless they come back to a shape for which one has been made, and then there are at most
as many of them as shapes (`Descent.returns_iff_not_cyclic`, `Descent.Returns.le_length`).  A schema is loaded even if
its lists go in a circle; there the calls do not return, and only there the room for shapes inside one another runs out
(`classify_settled`).
-/

namespace Signpost.Traversal

variable {α : Type} {schema : Schema} {id m : ShapeId}

/-- A recursion along shapes of which each call nests at most one other. -/
structure Descent (α : Type) where
  /-- The shape of the nested call. -/
  inner? : ShapeId → Option ShapeId
  /-- What a call gives that nests none. -/
  last : ShapeId → Except Cause α
  /-- What a call makes of what the nested one gives. -/
  wrap : ShapeId → α → α

namespace Descent

/-- A call returns after so many nested ones. -/
inductive Returns (d : Descent α) : Nat → ShapeId → Except Cause α → Prop
  | last {id : ShapeId} (h : d.inner? id = none) : Returns d 0 id (d.last id)
  | nested {n : Nat} {id m : ShapeId} {r : Except Cause α} (h : d.inner? id = some m) (hm : Returns d n m r) :
    Returns d (n + 1) id (r.map (d.wrap id))

/-- The shape of the call that is nested so deep, if there is one. -/
def nested? (d : Descent α) : Nat → ShapeId → Option ShapeId
  | 0, id => some id
  | k + 1, id => (d.inner? id).bind (d.nested? k)

/-- Whether the calls come to a shape for which they are made again. -/
def Cyclic (d : Descent α) (id : ShapeId) : Prop :=
  ∃ i m, d.nested? i id = some m ∧ ∃ k, d.nested? (k + 1) m = some m

variable {d : Descent α}

theorem nested?_add (i j : Nat) (id : ShapeId) : d.nested? (i + j) id = (d.nested? i id).bind (d.nested? j) := by
  induction i generalizing id with
  | zero =>
    rw [Nat.zero_add]
    rfl
  | succ i ih =>
    rw [Nat.succ_add, nested?, nested?, Option.bind_assoc]
    exact congrArg _ (funext ih)

/-- A call returns after the last nested one. -/
theorem exists_returns_iff {n : Nat} :
    (∃ r, d.Returns n id r) ↔ ∃ m, d.nested? n id = some m ∧ d.inner? m = none := by
  induction n generalizing id with
  | zero =>
    constructor
    · rintro ⟨r, ⟨h⟩⟩
      exact ⟨id, rfl, h⟩
    · rintro ⟨m, hm, h⟩
      cases hm
      exact ⟨_, .last h⟩
  | succ n ih =>
    rw [nested?]
    constructor
    · rintro ⟨r, h⟩
      cases h with
      | nested h hm =>
        rw [h]
        exact ih.1 ⟨_, hm⟩
    · rintro ⟨m, hm, h⟩
      obtain ⟨m', hm', hnested⟩ := Option.bind_eq_some_iff.1 hm
      obtain ⟨r, hr⟩ := ih.2 ⟨m, hnested, h⟩
      exact ⟨_, .nested hm' hr⟩

/-- Nothing is nested in the last call. -/
theorem Returns.nested?_eq_none {n k : Nat} {r : Except Cause α} (h : d.Returns n id r) (hk : n < k) :
    d.nested? k id = none := by
  obtain ⟨m, hm, hlast⟩ := exists_returns_iff.1 ⟨r, h⟩
  obtain ⟨j, rfl⟩ : ∃ j, k = n + (j + 1) := ⟨k - n - 1, by omega⟩
  rw [nested?_add, hm, Option.bind_some, nested?, hlast, Option.bind_none]

/-- Calls that come back do so again and again. -/
theorem nested?_mul {k : Nat} (h : d.nested? k m = some m) (j : Nat) : d.nested? (j * k) m = some m := by
  induction j with
  | zero =>
    rw [Nat.zero_mul]
    rfl
  | succ j ih => rw [Nat.succ_mul, nested?_add, ih, Option.bind_some, h]

theorem Returns.not_cyclic {n : Nat} {r : Except Cause α} (h : d.Returns n id r) : ¬ d.Cyclic id := by
  rintro ⟨i, m, hi, k, hk⟩
  have hdeep : d.nested? (i + (n + 1) * (k + 1)) id = some m := by
    rw [nested?_add, hi, Option.bind_some, nested?_mul hk]
  have hle : n + 1 ≤ (n + 1) * (k + 1) := Nat.le_mul_of_pos_right _ (Nat.succ_pos k)
  rw [h.nested?_eq_none (by omega)] at hdeep
  cases hdeep

/-- Two nested calls for one shape are a circle. -/
theorem cyclic_of_eq {i j : Nat} (h : i < j) (hi : d.nested? i id = some m) (hj : d.nested? j id = some m) :
    d.Cyclic id := by
  obtain ⟨k, rfl⟩ : ∃ k, j = i + (k + 1) := ⟨j - i - 1, by omega⟩
  rw [nested?_add, hi, Option.bind_some] at hj
  exact ⟨i, m, hi, k, hj⟩

section Bounded

variable {ids : List ShapeId} (hids : ∀ id m, d.inner? id = some m → id ∈ ids)
include hids

/-- More nested calls than there are shapes come back to one of them. -/
theorem cyclic_of_nested? (h : d.nested? (ids.length + 1) id = some m) : d.Cyclic id := by
  -- each call in front of the last one nests another, so that it is for one of the shapes
  have hmem : ∀ i ∈ Finset.range (ids.length + 1), d.nested? i id ∈ (ids.map some).toFinset := by
    intro i hi
    have hlt := Finset.mem_range.1 hi
    obtain ⟨k, hk⟩ : ∃ k, ids.length + 1 = i + (k + 1) := ⟨ids.length - i, by omega⟩
    rw [hk, nested?_add] at h
    obtain ⟨m', hm', h⟩ := Option.bind_eq_some_iff.1 h
    obtain ⟨m'', hm'', -⟩ := Option.bind_eq_some_iff.1 h
    rw [hm', List.mem_toFinset]
    exact List.mem_map_of_mem (hids _ _ hm'')
  have hcard : (ids.map some).toFinset.card < (Finset.range (ids.length + 1)).card := by
    have := List.toFinset_card_le (ids.map some)
    rw [List.length_map] at this
    rw [Finset.card_range]
    omega
  obtain ⟨i, hi, j, hj, hne, heq⟩ := Finset.exists_ne_map_eq_of_card_lt_of_maps_to hcard hmem
  obtain ⟨m', -, hm'⟩ := List.mem_map.1 (List.mem_toFinset.1 (hmem i hi))
  rcases Nat.lt_or_gt_of_ne hne with hlt | hlt
  · exact cyclic_of_eq hlt hm'.symm (heq ▸ hm'.symm)
  · exact cyclic_of_eq hlt (heq ▸ hm'.symm) hm'.symm

theorem Returns.le_length {n : Nat} {r : Except Cause α} (h : d.Returns n id r) : n ≤ ids.length := by
  by_contra hlt
  obtain ⟨m, hm, -⟩ := exists_returns_iff.1 ⟨r, h⟩
  obtain ⟨k, rfl⟩ : ∃ k, n = (ids.length + 1) + k := ⟨n - (ids.length + 1), by omega⟩
  rw [nested?_add] at hm
  obtain ⟨m', hm', -⟩ := Option.bind_eq_some_iff.1 hm
  exact h.not_cyclic (cyclic_of_nested? hids hm')

/-- Calls return unless they come back to where they have been. -/
theorem returns_iff_not_cyclic : (∃ n r, d.Returns n id r) ↔ ¬ d.Cyclic id := by
  refine ⟨fun ⟨n, r, h⟩ => h.not_cyclic, fun hcyclic => ?_⟩
  by_contra hno
  -- without a last call there is one at every depth
  have hdeep : ∀ k, ∃ m, d.nested? k id = some m := by
    intro k
    induction k with
    | zero => exact ⟨id, rfl⟩
    | succ k ih =>
      obtain ⟨m, hm⟩ := ih
      have hinner : d.inner? m ≠ none := by
        intro hlast
        obtain ⟨r, hr⟩ := exists_returns_iff.2 ⟨m, hm, hlast⟩
        exact hno ⟨k, r, hr⟩
      obtain ⟨m', hm'⟩ := Option.ne_none_iff_exists'.1 hinner
      refine ⟨m', ?_⟩
      rw [nested?_add, hm, Option.bind_some, nested?, hm']
      rfl
  obtain ⟨m, hm⟩ := hdeep (ids.length + 1)
  exact hcyclic (cyclic_of_nested? hids hm)

end Bounded

/-! ### Computing with room -/

section Within

variable {within : Nat → ShapeId → Except Cause α} (hzero : ∀ id, within 0 id = .error (.endlessShape id))
  (hsucc : ∀ n id, within (n + 1) id =
    match d.inner? id with
    | none => d.last id
    | some m => (within n m).map (d.wrap id))

include hsucc in
/-- With room for all nested calls, what is computed is what is returned. -/
theorem Returns.within_eq {n k : Nat} {r : Except Cause α} (h : d.Returns n id r) (hk : n < k) : within k id = r := by
  induction h generalizing k with
  | last h =>
    obtain ⟨k, rfl⟩ : ∃ j, k = j + 1 := ⟨k - 1, by omega⟩
    rw [hsucc, h]
  | @nested n id m r h hm ih =>
    obtain ⟨k, rfl⟩ : ∃ j, k = j + 1 := ⟨k - 1, by omega⟩
    rw [hsucc, h]
    exact congrArg (Except.map (d.wrap id)) (ih (Nat.lt_of_succ_lt_succ hk))

include hzero hsucc in
/-- Where no call returns, no room is enough. -/
theorem within_eq_endless (h : ¬ ∃ n r, d.Returns n id r) (k : Nat) :
    ∃ x, within k id = .error (.endlessShape x) := by
  induction k generalizing id with
  | zero => exact ⟨id, hzero id⟩
  | succ k ih =>
    cases hinner : d.inner? id with
    | none => exact absurd ⟨0, _, .last hinner⟩ h
    | some m =>
      have hno : ¬ ∃ n r, d.Returns n m r := fun ⟨n, r, hr⟩ => h ⟨n + 1, _, .nested hinner hr⟩
      obtain ⟨x, hx⟩ := ih hno
      refine ⟨x, ?_⟩
      rw [hsucc, hinner]
      show (within k m).map _ = _
      rw [hx]
      rfl

end Within

/-- What is computed for a shape is what its call returns after at most so many nested ones, if it does. -/
structure Settled (d : Descent α) (most : Nat) (computed : Except Cause α) (id : ShapeId) : Prop where
  returns_iff : (∃ n r, d.Returns n id r) ↔ ¬ d.Cyclic id
  returned : ∀ {n r}, d.Returns n id r → n ≤ most ∧ computed = r
  endless : d.Cyclic id → ∃ x, computed = .error (.endlessShape x)

theorem settled {d : Descent α} {ids : List ShapeId} {within : Nat → ShapeId → Except Cause α}
    (hids : ∀ id m, d.inner? id = some m → id ∈ ids) (hzero : ∀ id, within 0 id = .error (.endlessShape id))
    (hsucc : ∀ n id, within (n + 1) id =
      match d.inner? id with
      | none => d.last id
      | some m => (within n m).map (d.wrap id)) (id : ShapeId) :
    d.Settled ids.length (within (ids.length + 1) id) id where
  returns_iff := returns_iff_not_cyclic hids
  returned h := ⟨h.le_length hids, h.within_eq hsucc (Nat.lt_succ_of_le (h.le_length hids))⟩
  endless h := within_eq_endless hzero hsucc (fun hr => (returns_iff_not_cyclic hids).1 hr h) _

end Descent

/-! ### Classifying and typing -/

/-- Classifying, which looks through lists and sets. -/
def classification (schema : Schema) : Descent ValueShape where
  inner? id :=
    match schema.get? id with
    | some (.list m) | some (.set m) => some m
    | _ => none
  last := classifyWithin schema 1
  wrap id m := .array (some id) m

/-- Typing, which looks through lists, sets and the values of maps. -/
def typing (schema : Schema) : Descent Ty where
  inner? id :=
    match schema.get? id with
    | some (.list m) | some (.set m) | some (.map m) => some m
    | _ => none
  last := typeWithin schema 1
  wrap id t :=
    match schema.get? id with
    | some (.map _) => .map .string t
    | _ => .vec t

theorem classifyWithin_succ_eq (n : Nat) (id : ShapeId) : classifyWithin schema (n + 1) id =
    match (classification schema).inner? id with
    | none => (classification schema).last id
    | some m => (classifyWithin schema n m).map ((classification schema).wrap id) := by
  simp only [classification, classifyWithin, lookUp]
  cases schema.get? id with
  | none => rfl
  | some s => cases s <;> rfl

theorem typeWithin_succ_eq (n : Nat) (id : ShapeId) : typeWithin schema (n + 1) id =
    match (typing schema).inner? id with
    | none => (typing schema).last id
    | some m => (typeWithin schema n m).map ((typing schema).wrap id) := by
  simp only [typing, typeWithin, lookUp]
  cases schema.get? id with
  | none => rfl
  | some s => cases s <;> rfl

private theorem mem_keys_of_inner? (schema : Schema) :
    (∀ id m, (classification schema).inner? id = some m → id ∈ schema.shapes.keys) ∧
      ∀ id m, (typing schema).inner? id = some m → id ∈ schema.shapes.keys := by
  have hkey {id : ShapeId} {s : Shape} (h : schema.get? id = some s) : id ∈ schema.shapes.keys :=
    List.mem_map.2 ⟨(id, s), Table.mem_of_get? h, rfl⟩
  constructor
  · intro id m h
    cases hs : schema.get? id with
    | none => simp [classification, hs] at h
    | some s => exact hkey hs
  · intro id m h
    cases hs : schema.get? id with
    | none => simp [typing, hs] at h
    | some s => exact hkey hs

/-- Classifying and typing a shape return unless they come back to it, with at most as many nested calls as shapes. -/
theorem classify_settled (schema : Schema) (id : ShapeId) :
    (classification schema).Settled schema.shapes.length (classify schema id) id ∧
      (typing schema).Settled schema.shapes.length (typeOf schema id) id := by
  have hlength : schema.shapes.keys.length = schema.shapes.length := List.length_map _
  obtain ⟨hclass, htype⟩ := mem_keys_of_inner? schema
  rw [classify, typeOf, ← hlength]
  exact ⟨Descent.settled hclass (fun _ => rfl) classifyWithin_succ_eq id,
    Descent.settled htype (fun _ => rfl) typeWithin_succ_eq id⟩

/-- A list of itself. -/
private def circle : Schema := ⟨[(⟨"A"⟩, .list ⟨"A"⟩)]⟩

/-- A list of text. -/
private def texts : Schema := ⟨[(⟨"A"⟩, .list ⟨"B"⟩), (⟨"B"⟩, .string)]⟩

theorem classify_settled_circle :
    (Schema.ofText circle.write = .ok circle ∧ (¬ ∃ n r, (classification circle).Returns n ⟨"A"⟩ r) ∧
      ¬ ∃ n r, (typing circle).Returns n ⟨"A"⟩ r) ∧
    Schema.ofText texts.write = .ok texts ∧ (classification texts).Returns 1 ⟨"A"⟩ (classify texts ⟨"A"⟩) ∧
      (typing texts).Returns 1 ⟨"A"⟩ (typeOf texts ⟨"A"⟩) := by
  refine ⟨⟨by cbv, fun h => ?_, fun h => ?_⟩, by cbv, ?_, ?_⟩
  · exact (classify_settled _ _).1.returns_iff.1 h ⟨0, ⟨"A"⟩, rfl, 0, by decide⟩
  · exact (classify_settled _ _).2.returns_iff.1 h ⟨0, ⟨"A"⟩, rfl, 0, by decide⟩
  · have hone : (classification texts).Returns 1 ⟨"A"⟩ _ := .nested rfl (.last rfl)
    rwa [← ((classify_settled _ _).1.returned hone).2] at hone
  · have hone : (typing texts).Returns 1 ⟨"A"⟩ _ := .nested rfl (.last rfl)
    rwa [← ((classify_settled _ _).2.returned hone).2] at hone

end Signpost.Traversal
