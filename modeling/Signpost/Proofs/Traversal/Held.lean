import Signpost.Proofs.Traversal.Coherence

/-!
# The types that values have

`Ty.Held` lists the types of the values that steps compute: data of the model by reference, scalars, text, and lists of
all these; elements of a list may be options, but there are no options of options and no references to options.  A value
that may be absent is an option of such a type (`Ty.Kept`).  To take a scalar from behind its references or to read text
gives one type only, whatever stands in front of it (`Ty.dereferenced_of_wraps`, `Ty.textAs_of_wraps`); the exception is
text in a reference to an option, which comes up where the elements of a list are options.
-/

namespace Signpost.Traversal

namespace Ty

/-- Whether this is a type of the data model, which has no references, no options and no borrowed text. -/
def isData : Ty → Bool
  | bool | int _ | float _ | string | model _ => true
  | vec t => t.isData
  | map k v => k.isData && v.isData
  | str | option _ | ref _ => false

/-- The types of values that are there. -/
inductive Held : Ty → Prop
  | bool : Held bool
  | int (bits : Nat) : Held (int bits)
  | float (bits : Nat) : Held (float bits)
  | text : Held strRef
  | data {t : Ty} (h : t.isData = true) : Held (ref t)
  | list {t : Ty} (h : Held t) : Held (vec t)
  | options {t : Ty} (h : Held t) : Held (vec (option t))

/-- The types of values that are there, and of those that may be absent where this is allowed. -/
inductive Kept : Bool → Ty → Prop
  | held {mayBeAbsent : Bool} {t : Ty} (h : Held t) : Kept mayBeAbsent t
  | option {t : Ty} (h : Held t) : Kept true (option t)

/-- Whether this is the type of a list of options. -/
def listsOptions : Ty → Bool
  | vec (option _) => true
  | _ => false

/-- The type or an option of it. -/
def wrap (isOption : Bool) (t : Ty) : Ty := if isOption then option t else t

/-- A type with an option, a reference or both in front of it. -/
inductive Wraps : (isOption : Bool) → (inner : Ty) → Ty → Prop
  | none {t : Ty} : Wraps false t t
  | ref {t : Ty} : Wraps false t (ref t)
  | option {t : Ty} : Wraps true t (option t)
  | refOption {t : Ty} : Wraps true t (ref (option t))

/-- The type of what is taken from behind references. -/
def dereferenced : Ty → Ty
  | ref t => if t.isCopy then t.dereferenced else ref t
  | option (ref t) => if t.isCopy && t.isScalar then option t else option (ref t)
  | t => t

/-- The values of a type can be read as text of another. -/
inductive TextAs : Ty → Ty → Prop
  | text : TextAs strRef strRef
  | string : TextAs (ref string) strRef
  | model {name : String} : TextAs (ref (model name)) strRef
  | ref {t u : Ty} (h : TextAs (ref t) u) : TextAs (ref (ref t)) u
  | optionText : TextAs (option strRef) (option strRef)
  | optionString : TextAs (option (ref string)) (option strRef)
  | optionModel {name : String} : TextAs (option (ref (model name))) (option strRef)

/-- The types from which text is read, without what stands in front. -/
def isText : Ty → Bool
  | string | str | model _ => true
  | _ => false

variable {t u : Ty} {isOption mayBeAbsent : Bool}

/-! ### Values that are there -/

theorem bare_of_isData (h : t.isData = true) : t.bare = t := by
  cases t <;> first | rfl | cases h

theorem referent_of_isData (h : t.isData = true) : t.referent = t := by
  cases t <;> first | rfl | cases h

namespace Held

theorem isOption_eq_false (h : t.Held) : t.isOption = false := by
  cases h <;> rfl

theorem unwrapOption (h : t.Held) : t.unwrapOption = t := by
  cases h <;> rfl

/-- Only references stand in front of the type of a value that is there. -/
theorem referent (h : t.Held) : t.referent = t.bare := by
  cases h with
  | data h => exact (referent_of_isData h).trans (bare_of_isData h).symm
  | _ => rfl

/-- Elements of a list are there, unless it lists options. -/
theorem item (h : t.Held) (hu : t.item? = some u) : u.Kept t.listsOptions := by
  cases h with
  | list h =>
    cases hu
    exact .held h
  | options h =>
    cases hu
    exact .option h
  | @data d h =>
    cases d with
    | vec v =>
      cases hu
      exact .held (.data h)
    | ref v => cases h
    | _ => cases hu
  | _ => cases hu

/-- What a reference to an element of a list refers to. -/
theorem element (h : t.Held) (hu : t.referent = vec u) :
    ∃ isOption v, Wraps isOption v (ref u) ∧ v.Held ∧ (isOption = true → t.listsOptions = true) := by
  cases h with
  | list h =>
    cases hu
    exact ⟨_, _, .ref, h, fun h => by cases h⟩
  | options h =>
    cases hu
    exact ⟨_, _, .refOption, h, fun _ => rfl⟩
  | data h =>
    have hd := (referent_of_isData h).symm.trans hu
    rw [hd] at h
    exact ⟨_, _, .none, .data h, fun h => by cases h⟩
  | _ => cases hu

end Held

namespace Kept

theorem toHeld (h : t.Kept false) : t.Held := by
  cases h with
  | held h => exact h

theorem held_of_not_option (h : t.Kept mayBeAbsent) (hno : ∀ u, t ≠ Ty.option u) : t.Held := by
  cases h with
  | held h => exact h
  | option h => exact absurd rfl (hno _)

theorem weaken (h : t.Kept mayBeAbsent) : t.Kept true := by
  cases h with
  | held h => exact .held h
  | option h => exact .option h

theorem unwrapOption (h : t.Kept mayBeAbsent) : t.unwrapOption.Held := by
  cases h with
  | held h => rwa [h.unwrapOption]
  | option h => exact h

/-- Options are no lists. -/
theorem item (h : t.Kept mayBeAbsent) (hu : t.item? = some u) : u.Kept t.listsOptions := by
  cases h with
  | held h => exact h.item hu
  | option h => cases hu

theorem wraps (h : t.Kept mayBeAbsent) :
    ∃ isOption u, Wraps isOption u t ∧ t = wrap isOption u ∧ u.Held ∧ (isOption = true → mayBeAbsent = true) := by
  cases h with
  | held h => exact ⟨false, t, .none, rfl, h, fun h => by cases h⟩
  | option h => exact ⟨true, _, .option, rfl, h, fun _ => rfl⟩

/-- A list of values that are all there or all in options. -/
theorem list (h : t.Kept mayBeAbsent) : (vec t).Held := by
  cases h with
  | held h => exact .list h
  | option h => exact .options h

end Kept

/-! ### Coercions -/

theorem Wraps.bare (h : Wraps isOption u t) : t.bare = u.bare := by
  cases h <;> rfl

theorem isCopy_of_isScalar (h : t.isScalar = true) : t.isCopy = true := by
  cases t <;> first | rfl | cases h

private theorem dereferenced_of_isScalar (h : t.isScalar = true) :
    t.dereferenced = t ∧ (option t).dereferenced = option t := by
  cases t <;> first | exact ⟨rfl, rfl⟩ | cases h

private theorem exists_of_isScalar (h : u.Held) (hs : u.bare.isScalar = true) :
    ∃ b, b.isScalar = true ∧ u.bare = b ∧ (u = b ∨ u = ref b) := by
  cases h with
  | data h => exact ⟨_, hs, rfl, .inr (congrArg ref (bare_of_isData h).symm)⟩
  | text | list _ | options _ => cases hs
  | _ => exact ⟨_, hs, rfl, .inl rfl⟩

/-- A scalar is taken out of all references in front of it, and stays in an option. -/
theorem dereferenced_of_wraps (h : Wraps isOption u t) (hu : u.Held) (hs : u.bare.isScalar = true) :
    t.dereferenced = wrap isOption u.bare := by
  obtain ⟨b, hb, hbare, hub⟩ := exists_of_isScalar hu hs
  have hcopy := isCopy_of_isScalar hb
  obtain ⟨hself, hoption⟩ := dereferenced_of_isScalar hb
  rw [hbare]
  -- the scalar itself may stand behind a reference, so that there are up to two in front of it
  rcases hub with rfl | rfl
  · cases h <;> simp [dereferenced, wrap, isCopy, hcopy, hself, hoption]
  · cases h <;> simp [dereferenced, wrap, isCopy, hcopy, hself, hb]

private theorem textAs_of_isText (h : u.Held) (ht : u.bare.isText = true) :
    TextAs u strRef ∧ TextAs (ref u) strRef ∧ TextAs (option u) (option strRef) := by
  cases h with
  | text => exact ⟨.text, .ref .text, .optionText⟩
  | @data d h =>
    have hd : d.isText = true := by rwa [Ty.bare, bare_of_isData h] at ht
    cases d with
    | string => exact ⟨.string, .ref .string, .optionString⟩
    | model name => exact ⟨.model, .ref .model, .optionModel⟩
    | str => cases h
    | _ => cases hd
  | _ => cases ht

theorem Held.textAs (h : u.Held) (ht : u.bare.isText = true) : TextAs u strRef := (textAs_of_isText h ht).1

/-- Text can be read, and stays in an option, unless it is in a reference to an option. -/
theorem textAs_of_wraps (h : Wraps isOption u t) (hu : u.Held) (ht : u.bare.isText = true) :
    TextAs t (wrap isOption strRef) ∨ isOption = true ∧ t = ref (option u) := by
  obtain ⟨hself, href, hoption⟩ := textAs_of_isText hu ht
  cases h with
  | none => exact .inl hself
  | ref => exact .inl href
  | option => exact .inl hoption
  | refOption => exact .inr ⟨rfl, rfl⟩

end Ty

/-! ### Schemas -/

variable {schema : Schema} {shape : ValueShape} {t : Ty} {id : ShapeId}

theorem Coherent.isText (h : Coherent schema shape t) (hs : shape.isTextual = true) : t.bare.isText = true := by
  cases shape with
  | string id =>
    rcases h with h | h <;> rw [h] <;> rfl
  | enum id =>
    rcases h with h | h
    · cases id with
      | none => cases h
      | some id => rw [← Option.some.inj h]; rfl
    · rw [h]
      rfl
  | _ => cases hs

theorem Coherent.isNumeric (h : Coherent schema shape t) (hs : shape.isNumber = true) : t.bare.isNumeric = true := by
  cases shape <;> first | exact h | cases hs

/-- A reference to an element of a list is coherent. -/
theorem Coherent.element {i : Option ShapeId} {m : ValueShape} {u : Ty} (h : Coherent schema (.array i m) t)
    (ht : t.Held) (hu : t.referent = .vec u) : Coherent schema m (.ref u) := by
  obtain ⟨v, hv, h⟩ := h
  rw [← ht.referent, hu] at hv
  cases hv
  exact h.of_bare rfl

private theorem isData_of_typeWithin {n : Nat} (h : typeWithin schema n id = .ok t) : t.isData = true := by
  induction n generalizing id t with
  | zero => cases h
  | succ n ih =>
    rw [typeWithin] at h
    obtain ⟨s, -, h⟩ := exists_of_bind_ok h
    cases s with
    | map v | list v | set v =>
      obtain ⟨u, hu, h⟩ := exists_of_bind_ok h
      have hdata := ih hu
      cases h
      exact hdata
    | _ => cases h <;> rfl

theorem isData_of_typeOf (h : typeOf schema id = .ok t) : t.isData = true := isData_of_typeWithin h

end Signpost.Traversal
