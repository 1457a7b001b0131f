import Signpost.Traversal.Failure
import Signpost.Traversal.Steps

/-!
# Computed values

A value that steps compute: the local it ends up in, its shape and type, and the steps. A coercion takes
a value and gives one with more steps, at the end, that holds the same thing as another type.
Locals that steps bind are numbered, so no two of them share a name.
-/

namespace Signpost.Traversal

open Code (Ident)

/-- The number of locals named so far. -/
structure Namer where
  taken : Nat
  deriving DecidableEq, Repr, Inhabited

/-- The local with this stem and number. -/
def localName (stem : String) (n : Nat) : Ident := ⟨"_" ++ stem ++ "_" ++ toString n, false⟩

/-- What takes names for locals and may fail; names stay taken after a failure. -/
abbrev Naming := ExceptT Cause (StateM Namer)

/-- A local that was not named before. -/
def fresh (stem : String) : Naming Ident := do
  let n := (← get).taken + 1
  set (Namer.mk n)
  return localName stem n

/-- A value and the steps that compute it. -/
structure Computed where
  name : Ident
  shape : ValueShape
  ty : Ty
  steps : List Step
  deriving Repr, Inhabited

namespace Computed

/-- The value with one more step, which binds something made from it. -/
def bind (c : Computed) (name : Ident) (ty : Ty) (op : Operation) : Computed :=
  { c with name, ty, steps := c.steps ++ [.bind name op] }

/-- The value in `Some`. -/
def lift (c : Computed) : Naming Computed := do
  return c.bind (← fresh "opt") (.option c.ty) (.wrap c.name)

/-- The value named `name` of type `ty` taken from behind all its references, as far as it can be
copied. -/
def dereferenceFrom (c : Computed) : Ty → Naming Computed
  | .ref t =>
    if t.isCopy then do
      let name ← fresh "deref"
      (c.bind name t (.deref c.name)).dereferenceFrom t
    else return c
  | .option (.ref t) =>
    if t.isCopy && t.isScalar then
      return c.bind (← fresh "deref") (.option t) (.copied c.name)
    else return c
  | _ => return c

/-- A truth value, a number or a reference from behind its references, in an option too. -/
def dereference (c : Computed) : Naming Computed := c.dereferenceFrom c.ty

/-- Text or an enum of this type as text. -/
def toTextFrom (c : Computed) : Ty → Naming Computed
  | .ref .str => return c
  | .ref .string | .ref (.model _) => return c.bind (← fresh "str") .strRef (.text c.name)
  | .ref (.ref t) => do
    let name ← fresh "deref"
    (c.bind name (.ref t) (.deref c.name)).toTextFrom (.ref t)
  | .ref _ => throw (.mismatch .reference)
  | .option (.ref .str) => return c
  | .option (.ref .string) | .option (.ref (.model _)) => do
    let item ← fresh "v"
    return c.bind (← fresh "str") (.option .strRef) (.mapText c.name item)
  | .option _ => throw (.mismatch .option)
  | _ => throw (.mismatch .value)

/-- Text or an enum as text, in an option if it was in one. -/
def toText (c : Computed) : Naming Computed := c.toTextFrom c.ty

/-- A number cast to a type, in an option if it was in one. -/
def toNumber (target : Ty) (c : Computed) : Naming Computed := do
  let c ← c.dereference
  if c.ty = target then return c
  match c.ty with
  | .int _ | .float _ => return c.bind (← fresh "num") target (.cast c.name target)
  | .option t =>
    if !t.isNumeric then throw (.mismatch .number)
    else if t = target then return c
    else
      let item ← fresh "v"
      return c.bind (← fresh "num") (.option target) (.mapCast c.name item target)
  | _ => throw (.mismatch .number)

/-- The end of a block that gives the value as an option. -/
def asOption (c : Computed) : Tail := if c.ty.isOption then .plain c.name else .present c.name

end Computed

end Signpost.Traversal
