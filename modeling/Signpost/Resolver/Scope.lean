import Signpost.Code.Ident
import Signpost.Resolver.Ty

/-!
# Scopes of rules

The names that a rule can refer to. Binding a name gives a new scope and leaves the old one as it is, so
that rules beside each other never see what the others bind.
-/

namespace Signpost.Resolver

/-- A local of emitted code. -/
structure Binding where
  ident : Code.Ident
  ty : Ty
  deriving DecidableEq, Repr, Inhabited

/-- The names in scope, the innermost first. -/
structure Scope where
  bindings : List (String × Binding)
  deriving DecidableEq, Repr, Inhabited

namespace Scope

/-- The scope in which nothing is bound. -/
def empty : Scope := ⟨[]⟩

/-- The scope in which a name is bound too; it hides an earlier binding of the name. -/
def bind (s : Scope) (name : String) (b : Binding) : Scope := ⟨(name, b) :: s.bindings⟩

/-- The innermost binding of a name. -/
def get? (s : Scope) (name : String) : Option Binding := s.bindings.lookup name

/-- Whether nothing is bound. -/
def isEmpty (s : Scope) : Bool := s.bindings.isEmpty

end Scope

end Signpost.Resolver
