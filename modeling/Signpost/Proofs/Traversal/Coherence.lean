import Signpost.Proofs.Except
import Signpost.Samples.Inventory
import Signpost.Traversal.Scope

/-!
# Shapes and types that belong together

The shape and the type of a value are computed apart from one another, from the schema (`classify`, `typeOf`) and by
each step.  `Coherent` says that they describe the same values; references and options in front of the type do not
count.  What the schema says of one shape is coherent (`coherent_of_typeOf`), and so are the elements of coherent
lists.  It may also say nothing of a shape; the causes for which it does not are told once, for any shapes that
references from one to another do not lead out of (`Blames`).
-/

namespace Signpost.Traversal

open Code (Ident)

/-- The type behind all references and options in front of it. -/
def Ty.bare : Ty → Ty
  | ref t | option t => t.bare
  | t => t

/-- The type of the objects of a shape: of a structure its own type, of a map one from text to its values. -/
def objectType? (schema : Schema) (id : ShapeId) : Option Ty :=
  match schema.get? id with
  | some (.record _) => some (.model id.typeName)
  | some (.map v) => (typeOf schema v).toOption.map (.map .string)
  | _ => none

/-- Whether values of the shape are values of the type, perhaps behind references and in options. -/
def Coherent (schema : Schema) : ValueShape → Ty → Prop
  | .array _ m, t => ∃ u, t.bare = .vec u ∧ Coherent schema m u
  | .object id, t => id.bind (objectType? schema) = some t.bare
  | .bool _, t => t.bare = .bool
  | .enum id, t => id.map (.model ·.typeName) = some t.bare ∨ t.bare = .str
  | .number _, t => t.bare.isNumeric
  | .string _, t => t.bare = .string ∨ t.bare = .str

/-- Coherence can be checked. -/
instance decidableCoherent (schema : Schema) : (shape : ValueShape) → (t : Ty) → Decidable (Coherent schema shape t)
  | .array _ m, t =>
    match h : t.bare with
    | .vec u =>
      have := decidableCoherent schema m u
      decidable_of_iff (Coherent schema m u) (by simp [Coherent, h])
    | .bool | .int _ | .float _ | .string | .str | .model _ | .map _ _ | .option _ | .ref _ =>
      isFalse (by simp [Coherent, h])
  | .object _, _ => inferInstanceAs (Decidable (_ = _))
  | .bool _, _ => inferInstanceAs (Decidable (_ = _))
  | .enum _, _ => inferInstanceAs (Decidable (_ ∨ _))
  | .number _, _ => inferInstanceAs (Decidable (_ = _))
  | .string _, _ => inferInstanceAs (Decidable (_ ∨ _))

/-- A number is no text. -/
example : ¬ Coherent .empty (.number none) .strRef := by decide

variable {schema : Schema} {shape m : ValueShape} {t u : Ty} {id : ShapeId}

/-! ### Types -/

@[simp] theorem Ty.bare_option : (option t).bare = t.bare := rfl

@[simp] theorem Ty.bare_unwrapOption : t.unwrapOption.bare = t.bare := by
  cases t <;> rfl

/-- Iterating gives the elements of the list behind the references, perhaps by reference. -/
theorem Ty.bare_of_item? (h : t.item? = some u) : ∃ v, t.bare = .vec v ∧ u.bare = v.bare := by
  induction t using Ty.item?.induct generalizing u with
  | case1 v =>
    obtain rfl : v = u := Option.some.inj h
    exact ⟨v, rfl, rfl⟩
  | case2 v =>
    obtain rfl : ref v = u := Option.some.inj h
    exact ⟨v, rfl, rfl⟩
  | case3 t ih => exact ih h
  | case4 t =>
    rw [Ty.item?] at h
    all_goals first | assumption | cases h

theorem Ty.bare_eq_of_isNumeric (h : t.isNumeric = true) : t.bare = t := by
  cases t <;> first | rfl | cases h

/-- References and options in front of a type do not count. -/
theorem Coherent.of_bare (h : Coherent schema shape t) (hu : u.bare = t.bare) : Coherent schema shape u := by
  cases shape <;> simpa only [Coherent, hu] using h

theorem coherent_of_isBool (hs : shape.isBool = true) (ht : t.bare = .bool) : Coherent schema shape t := by
  cases shape <;> first | exact ht | cases hs

theorem coherent_of_isNumber (hs : shape.isNumber = true) (ht : t.bare.isNumeric = true) :
    Coherent schema shape t := by
  cases shape <;> first | exact ht | cases hs

theorem coherent_of_isTextual (hs : shape.isTextual = true) (ht : t.bare = .str) : Coherent schema shape t := by
  cases shape with
  | string i | enum i => exact .inr ht
  | _ => cases hs

theorem Coherent.bare_eq_bool (h : Coherent schema shape t) (hs : shape.isBool = true) : t.bare = .bool := by
  cases shape <;> first | exact h | cases hs

/-- What iterating over a list gives is coherent. -/
theorem Coherent.item (h : Coherent schema shape t) (hm : shape.member? = some m) (hu : t.item? = some u) :
    Coherent schema m u := by
  obtain ⟨v, hv, huv⟩ := Ty.bare_of_item? hu
  cases shape with
  | array i m' =>
    obtain rfl : m' = m := Option.some.inj hm
    obtain ⟨w, hw, h⟩ := h
    obtain rfl : w = v := by rwa [hw, Ty.vec.injEq] at hv
    exact h.of_bare huv
  | _ => cases hm

/-! ### Schemas -/

/-- More room for shapes inside one another does not change the type of a shape. -/
private theorem typeWithin_succ {n : Nat} (h : typeWithin schema n id = .ok t) :
    typeWithin schema (n + 1) id = .ok t := by
  induction n generalizing id t with
  | zero => cases h
  | succ n ih =>
    rw [typeWithin] at h ⊢
    obtain ⟨s, hs, h⟩ := exists_of_bind_ok h
    rw [hs, ok_bind]
    cases s with
    | map v | list v | set v =>
      obtain ⟨u, hu, h⟩ := exists_of_bind_ok h
      show (typeWithin schema (n + 1) v >>= _) = _
      rw [ih hu]
      exact h
    | _ => exact h

theorem typeWithin_mono {n k : Nat} (h : typeWithin schema n id = .ok t) (hk : n ≤ k) :
    typeWithin schema k id = .ok t := by
  induction hk with
  | refl => exact h
  | step _ ih => exact typeWithin_succ ih

theorem lookUp_ok_iff {s : Shape} : lookUp schema id = .ok s ↔ schema.get? id = some s := by
  unfold lookUp
  cases schema.get? id <;> simp

private theorem coherent_of_typeWithin {n : Nat} (hn : n ≤ schema.shapes.length + 1)
    (hs : classifyWithin schema n id = .ok shape) (ht : typeWithin schema n id = .ok t) :
    Coherent schema shape t := by
  -- both functions look through lists in the same way, so that what is left of the room stays the same
  induction n generalizing id shape t with
  | zero => cases hs
  | succ n ih =>
    rw [classifyWithin] at hs
    rw [typeWithin] at ht
    obtain ⟨s, hget, hs⟩ := exists_of_bind_ok hs
    rw [hget, ok_bind] at ht
    rw [lookUp_ok_iff] at hget
    cases s with
    | record ms =>
      cases hs
      cases ht
      simp [Coherent, objectType?, hget, Ty.bare]
    | map v =>
      cases hs
      obtain ⟨u, hu, ht⟩ := exists_of_bind_ok ht
      cases ht
      -- the values were typed with less room than the schema allows
      have htype : typeOf schema v = .ok u := typeWithin_mono hu (by omega)
      simp [Coherent, objectType?, hget, Ty.bare, htype, Except.toOption]
    | list v | set v =>
      obtain ⟨m, hm, hs⟩ := exists_of_bind_ok hs
      obtain ⟨u, hu, ht⟩ := exists_of_bind_ok ht
      cases hs
      cases ht
      exact ⟨u, rfl, ih (by omega) hm hu⟩
    | boolean =>
      cases hs
      cases ht
      rfl
    | string | enum vs =>
      cases hs
      cases ht
      exact .inl rfl
    | byte | short | integer | long | float | double =>
      cases hs
      cases ht
      rfl
    | _ => cases hs

/-- What the schema says of a shape is coherent. -/
theorem coherent_of_typeOf (hs : classify schema id = .ok shape) (ht : typeOf schema id = .ok t) :
    Coherent schema shape t :=
  coherent_of_typeWithin (Nat.le_refl _) hs ht

/-! ### Failing -/

/-- Classifying and typing a shape that is told by `I` fail only for causes that have the property `P`. -/
structure Blames (schema : Schema) (I : ShapeId → Prop) (P : Cause → Prop) : Prop where
  targets : ∀ id s, I id → schema.get? id = some s → ∀ v ∈ s.targets, I v
  missing : ∀ id, I id → schema.get? id = none → P (.invalid (.unknownShape id))
  unsupported : ∀ what, P (.unsupported what)
  endless : ∀ id, P (.endlessShape id)

namespace Blames

variable {I : ShapeId → Prop} {P : Cause → Prop} {cause : Cause}

private theorem lookUp (h : Blames schema I P) (hid : I id) (he : lookUp schema id = .error cause) : P cause := by
  unfold Traversal.lookUp at he
  split at he <;> cases he
  exact h.missing id hid ‹_›

theorem classifyWithin (h : Blames schema I P) {n : Nat} (hid : I id)
    (he : classifyWithin schema n id = .error cause) : P cause := by
  induction n generalizing id with
  | zero =>
    cases he
    exact h.endless id
  | succ n ih =>
    rw [Traversal.classifyWithin] at he
    obtain he | ⟨s, hs, he⟩ := exists_of_bind_error he
    · exact h.lookUp hid he
    have htargets := h.targets id s hid (lookUp_ok_iff.1 hs)
    cases s with
    | list v | set v =>
      obtain he | ⟨m, -, he⟩ := exists_of_bind_error he
      · exact ih (htargets v List.mem_cons_self) he
      · cases he
    | _ => cases he <;> exact h.unsupported _

theorem typeWithin (h : Blames schema I P) {n : Nat} (hid : I id) (he : typeWithin schema n id = .error cause) :
    P cause := by
  induction n generalizing id with
  | zero =>
    cases he
    exact h.endless id
  | succ n ih =>
    rw [Traversal.typeWithin] at he
    obtain he | ⟨s, hs, he⟩ := exists_of_bind_error he
    · exact h.lookUp hid he
    have htargets := h.targets id s hid (lookUp_ok_iff.1 hs)
    cases s with
    | map v | list v | set v =>
      obtain he | ⟨u, -, he⟩ := exists_of_bind_error he
      · exact ih (htargets v List.mem_cons_self) he
      · cases he
    | _ => cases he <;> exact h.unsupported _

theorem referenceTo (h : Blames schema I P) (hid : I id) (he : referenceTo schema id = .error cause) : P cause := by
  obtain he | ⟨shape, -, he⟩ := exists_of_bind_error he
  · exact h.classifyWithin hid he
  obtain he | ⟨t, -, he⟩ := exists_of_bind_error he
  · exact h.typeWithin hid he
  · cases he

end Blames

open Samples (inventory output)

theorem ofShape_output : Binding.ofShape inventory none ⟨"root", false⟩ ⟨"Output"⟩ = .ok output :=
  eq_ok_of_toOption (by decide +kernel)

end Signpost.Traversal
