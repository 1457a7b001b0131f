import Signpost.Code.Item
import Signpost.Resolver.Ty
import Signpost.Table

/-!
# Functions of rules

The functions that rules can call, how calls of them are emitted, and the state that a resolver keeps
for them. A registry knows functions by their ids, and which of them have been looked up, in the order
of the first look-up.
-/

namespace Signpost.Resolver

open Code (Token Ident Path)

/-- What a call of a function names. -/
inductive Callee where
  /-- A function of the runtime library. -/
  | library (path : List String)
  /-- A method of the state that the resolver keeps. -/
  | state (field : Ident) (method : String)
  deriving DecidableEq, Repr, Inhabited

/-- State that the resolver keeps for a function. -/
structure State where
  field : Ident
  /-- The type, in the runtime library. -/
  type : List String
  /-- The function of the type that makes the state, and its arguments. -/
  constructor : String
  arguments : List Token
  deriving Repr, Inhabited

/-- A function that rules can call. -/
structure Function where
  id : String
  parameters : List Ty
  returns : Ty
  /-- Whether a string that it returns is a new one, rather than a view of another. -/
  returnsOwned : Bool
  callee : Callee
  /-- Whether the last argument is the place to report failed checks to. -/
  reports : Bool
  state : Option State
  deriving Repr, Inhabited

namespace Function

/-- The tokens of a call. -/
def call (runtime : Path) (diagnostics : Ident) (f : Function) (args : List (List Token)) : List Token :=
  let args := if f.reports then args ++ [[Code.ident diagnostics]] else args
  let callee := match f.callee with
    | .library path => runtime.extend path
    | .state field method => [Code.ident field, .leaf ".", .leaf method]
  callee ++ [Code.parens (Code.commas args)]

end Function

namespace State

/-- The tokens of the type. -/
def typeTokens (runtime : Path) (s : State) : List Token := runtime.extend s.type

/-- The tokens of the first value. -/
def initTokens (runtime : Path) (s : State) : List Token :=
  runtime.extend (s.type ++ [s.constructor]) ++ [Code.parens s.arguments]

end State

/-- Functions by id, and the ids of those looked up, in order. -/
structure Registry where
  functions : Table String Function
  used : List String
  deriving Repr, Inhabited

namespace Registry

/-- The registry without functions. -/
def empty : Registry := ⟨[], []⟩

/-- The registry with one more function, which replaces one of the same id. -/
def register (r : Registry) (f : Function) : Registry :=
  { r with functions := r.functions.put f.id f }

/-- The function of an id, and the registry in which it counts as used. -/
def lookUp (r : Registry) (id : String) : Option (Function × Registry) :=
  (r.functions.get? id).map fun f =>
    (f, if r.used.contains id then r else { r with used := r.used ++ [id] })

/-- Whether a function has been looked up. -/
def isUsed (r : Registry) (id : String) : Bool := r.used.contains id

/-- The functions looked up, in order. -/
def usedFunctions (r : Registry) : List Function := r.used.filterMap r.functions.get?

/-- The registry in which no function counts as used. -/
def reset (r : Registry) : Registry := { r with used := [] }

end Registry

end Signpost.Resolver
