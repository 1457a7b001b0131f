/-!
# Types of rules values

The types that expressions of a ruleset have. A value of a parameter that need not be given, or of a
check that may fail, is optional.
-/

namespace Signpost.Resolver

mutual

/-- A type. -/
inductive Ty where
  | string
  | bool
  /-- A whole number; only literals and results of functions have this type. -/
  | int
  | stringArray
  /-- A value with attributes; the name is used in messages. -/
  | record (name : String) (attributes : Attributes)
  | option (inner : Ty)
  deriving DecidableEq, Repr

/-- The attributes of a record in order, each with the method that reads it. -/
inductive Attributes where
  | none
  | cons (name accessor : String) (ty : Ty) (rest : Attributes)
  deriving DecidableEq, Repr

end

instance : Inhabited Ty := ⟨.bool⟩

namespace Attributes

/-- Attributes from a list. -/
def ofList : List (String × String × Ty) → Attributes
  | [] => none
  | (name, accessor, ty) :: as => cons name accessor ty (ofList as)

/-- The attributes as a list. -/
def toList : Attributes → List (String × String × Ty)
  | none => []
  | cons name accessor ty rest => (name, accessor, ty) :: rest.toList

/-- The method and the type of the first attribute of a name. -/
def get? (name : String) : Attributes → Option (String × Ty)
  | none => .none
  | cons n accessor ty rest => if n = name then some (accessor, ty) else rest.get? name

end Attributes

namespace Ty

def isOption : Ty → Bool
  | option _ => true
  | _ => false

def isRecord : Ty → Bool
  | record _ _ => true
  | _ => false

/-- The type inside an option, or the type itself. -/
def unwrapOption : Ty → Ty
  | option t => t
  | t => t

/-- Whether values can be put into a string. -/
def isDisplayable : Ty → Bool
  | string | bool | int => true
  | _ => false

/-- The type in words. -/
def render : Ty → String
  | string => "string"
  | bool => "boolean"
  | int => "integer"
  | stringArray => "string array"
  | record name _ => name
  | option t => "optional " ++ t.render

end Ty

end Signpost.Resolver
