import Signpost.Traversal.Classify
import Signpost.Traversal.Computed

/-!
# Scopes of a query

What a query is evaluated on: at most one value whose members are in scope, and values in scope under
names. A name means a named value if there is one, and otherwise a member of the former.
-/

namespace Signpost.Traversal

open Code (Ident)

/-- A value in scope, under a name or with all its members. -/
structure Binding where
  name : Option String
  ident : Ident
  shape : ValueShape
  ty : Ty
  deriving DecidableEq, Repr, Inhabited

/-- Values in scope, of which earlier ones are found first. -/
abbrev Scope := List Binding

/-- The value of a binding, which takes no steps. -/
def Binding.value (b : Binding) : Computed := ⟨b.ident, b.shape, b.ty, []⟩

/-- The value as the one whose members are in scope. -/
def Computed.asCurrent (c : Computed) : Binding := ⟨none, c.name, c.shape, c.ty⟩

namespace Scope

/-- The value whose members are in scope. -/
def current? (s : Scope) : Option Binding := s.find? (·.name.isNone)

/-- The value in scope under a name. -/
def named? (s : Scope) (name : String) : Option Binding := s.find? (·.name == some name)

end Scope

/-- The category of the values of a shape, and the type of a reference to one. -/
def referenceTo (schema : Schema) (id : ShapeId) : Except Cause (ValueShape × Ty) := do
  let shape ← classify schema id
  return (shape, .ref (← typeOf schema id))

/-- A value in scope that is a reference to one of the shape. -/
def Binding.ofShape (schema : Schema) (name : Option String) (ident : Ident) (id : ShapeId) :
    Except Cause Binding := do
  let (shape, ty) ← referenceTo schema id
  return ⟨name, ident, shape, ty⟩

/-- A field of a structure, or a key of a map. -/
structure Access where
  target : ShapeId
  operation : Operation
  /-- Whether the value may be absent. -/
  isOptional : Bool
  deriving Repr

/-- How a member of the objects of a shape is reached. -/
def access (schema : Schema) (id : ShapeId) (src : Ident) (name : String) (retain : Bool) :
    Except Cause Access :=
  match schema.get? id with
  | some (.record members) =>
    match members.get? name with
    | none => .error (.invalid (.noMember id name))
    | some m =>
      match Ident.ofName? name with
      | none => .error (.unnameable name)
      | some f =>
        .ok ⟨m.target, if m.required then .field src f else .optionalField src f (!retain), !m.required⟩
  | some (.map v) => .ok ⟨v, .entry src name (!retain), true⟩
  | _ => .error (.mismatch .object)

/-- A member of a value. One that may be absent is an option if options are retained; otherwise the
steps return when it is absent. -/
def Computed.member (schema : Schema) (retain : Bool) (name : String) (parent : Computed) :
    Naming Computed :=
  match parent.shape with
  | .object (some id) => do
    let a ← MonadExcept.ofExcept (access schema id parent.name name retain)
    let (shape, ty) ← MonadExcept.ofExcept (referenceTo schema a.target)
    let ty := if a.isOptional && retain then .option ty else ty
    let ident ← fresh "fld"
    return { parent.bind ident ty a.operation with shape }
  | shape => throw (.invalid (.fieldOf shape name))

/-- What a name means in a scope. -/
def Scope.field (schema : Schema) (retain : Bool) (scope : Scope) (name : String) : Naming Computed :=
  if scope.isEmpty then throw (.missingBinding name)
  else
    match scope.named? name, scope.current? with
    | some b, _ =>
      if b.shape.isObject then return b.value else throw (.invalid (.boundTo b.shape name))
    | none, some b => b.value.member schema retain name
    | none, none => throw (.invalid (.notInScope name))

/-- The value inside an option, for which the steps return when there is none. -/
def Computed.unwrap (c : Computed) : Naming Computed :=
  match c.ty with
  | .option t => return c.bind (← fresh "some") t (.unwrap c.name)
  | _ => return c

/-- The value whose members are in scope. -/
def Scope.current (retain : Bool) (scope : Scope) : Naming Computed :=
  if scope.isEmpty then throw (.missingBinding "@")
  else
    match scope.current? with
    | none => throw (.invalid .noCurrent)
    | some b => if retain then return b.value else b.value.unwrap

end Signpost.Traversal
