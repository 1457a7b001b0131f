import Signpost.Traversal.Scope

/-!
# Projections

Evaluating a part of a query on a value, on the value inside an option, or on each element of a
collection. What is evaluated is given as a function of the value to evaluate it on; none stands for
the value itself.
-/

namespace Signpost.Traversal

/-- What is evaluated on each element. -/
abbrev Body := Binding → Naming Computed

/-- A right side evaluated on a value, or inside it if the value is an option. -/
def apply (right : Body) (left : Computed) : Naming Computed :=
  match left.ty with
  | .option t => do
    let item ← fresh "elem"
    let r ← right ⟨none, item, left.shape, t⟩
    let name ← fresh "sub"
    return ⟨name, r.shape, .option r.ty.unwrapOption,
      left.steps ++ [.bind name (.andThen left.name item r.steps r.asOption)]⟩
  | _ => do
    let r ← right left.asCurrent
    return { r with steps := left.steps ++ r.steps }

/-- The category and the type of the elements of a list. -/
def elements (left : Computed) : Naming (ValueShape × Ty) :=
  match left.shape.member?, left.ty.item? with
  | some member, some item => return (member, item)
  | _, _ => throw (.invalid (.projection left.shape))

/-- The list of what the body gives for each element; absent values are left out. -/
def projection (body : Option Body) (left : Computed) : Naming Computed := do
  let (member, ty) ← elements left
  match body with
  | none => return left
  | some body =>
    let item ← fresh "elem"
    let r ← body ⟨none, item, member, ty⟩
    let name ← fresh "prj"
    return ⟨name, .arrayOf r.shape, .vec r.ty.unwrapOption,
      left.steps ++ [.bind name (.each left.name .elements item r.steps r.asOption)]⟩

/-- The list of what the body gives for each element that meets a condition. -/
def filtered (query : Query.Expr) (condition : Body) (body : Option Body) (left : Computed) :
    Naming Computed := do
  let (member, ty) ← elements left
  let item ← fresh "elem"
  let element : Binding := ⟨none, item, member, ty⟩
  let c ← condition element
  if !c.shape.isBool then throw (.invalid (.condition c.shape query))
  let c ← c.dereference
  let r ← match body with
    | none => pure element.value
    | some body => body element
  let tail := if body.isSome then r.asOption else .present item
  let ty := if body.isSome then r.ty.unwrapOption else ty
  let name ← fresh "flt"
  return ⟨name, .arrayOf r.shape, .vec ty,
    left.steps ++
      [.bind name (.each left.name .elements item (c.steps ++ .guard c.name :: r.steps) tail)]⟩

/-- The shape of the values of a map. -/
def valueShape (schema : Schema) (left : Computed) : Except Cause ShapeId :=
  match left.shape.shapeId?.bind schema.get?, left.shape.isObject with
  | some (.map v), true => .ok v
  | some (.record _), _ => .error (.unsupported .structureValues)
  | _, _ => .error (.invalid (.valuesOf left.shape))

/-- The list of what the body gives for each value of a map. -/
def valueProjection (schema : Schema) (body : Option Body) (left : Computed) : Naming Computed := do
  let id ← MonadExcept.ofExcept (valueShape schema left)
  let (member, ty) ← MonadExcept.ofExcept (referenceTo schema id)
  let name ← fresh "obj"
  match body with
  | none =>
    return ⟨name, .arrayOf member, .vec ty, left.steps ++ [.bind name (.values left.name)]⟩
  | some body =>
    let item ← fresh "elem"
    let r ← body ⟨none, item, member, ty⟩
    return ⟨name, .arrayOf r.shape, .vec r.ty.unwrapOption,
      left.steps ++ [.bind name (.each left.name .values item r.steps r.asOption)]⟩

/-- The elements of the elements of a list; a list of anything else stays as it is. -/
def flattened (left : Computed) : Naming Computed := do
  let (member, ty) ← elements left
  match member.member?, ty.item? with
  | some nested, some item =>
    let name ← fresh "flat"
    return { left.bind name (.vec item) (.flatten left.name) with shape := .arrayOf nested }
  | _, _ => return left

end Signpost.Traversal
