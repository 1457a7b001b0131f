import Signpost.Resolver.Failure
import Signpost.Resolver.Scope
import Signpost.Resolver.Value

/-!
# Compiled values

A value with its type. A string is either one of its own or a view; what is only looked at may be a view
(`Compiled.view`), and what leaves the resolver must be a string of its own or a constant
(`Compiled.own`).
-/

namespace Signpost.Resolver

/-- A value and its type. -/
structure Compiled where
  value : Value
  ty : Ty
  /-- Whether the value is a string of its own. -/
  isOwned : Bool
  deriving Repr, Inhabited

/-- What may fail, and looks functions up in the registry. -/
abbrev Compiling := StateT Registry (Except Failure)

/-- Fails for a cause, in no rule so far. -/
def fail {α : Type} (c : Cause) : Compiling α := throw ⟨c, none⟩

/-- The function of a name, which counts as used from now on. -/
def function (name : String) : Compiling Function := do
  match (← get).lookUp name with
  | some (f, registry) =>
    set registry
    return f
  | none => fail (.unknownFunction name)

namespace Compiled

/-- A value that is not a string of its own. -/
def plain (value : Value) (ty : Ty) : Compiled := ⟨value, ty, false⟩

/-- A view instead of a string of its own. -/
def view (c : Compiled) : Compiled := if c.isOwned then ⟨.asStr c.value, c.ty, false⟩ else c

/-- A string of its own instead of a view. -/
def own (c : Compiled) : Compiled :=
  if c.ty = .string && !c.isOwned then ⟨.toOwned c.value, .string, true⟩ else c

/-- Fails unless the value has the type that its place asks for. -/
def expect (place : Place) (want : Ty) (c : Compiled) : Compiling Unit :=
  if c.ty = want then return ()
  else if c.ty.unwrapOption = want then fail (.mismatch (.notSet place))
  else fail (.mismatch (.wrongType place want c.ty))

end Compiled

end Signpost.Resolver
