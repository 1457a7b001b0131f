import Signpost.Schema.Basic

/-!
# Shapes of values

What a traversal knows of a value: its category, and the shape of the schema behind it if there is
one. Computed values, such as a length, have none.
-/

namespace Signpost.Traversal

/-- The category of a value. -/
inductive ValueShape where
  | array (shape : Option ShapeId) (member : ValueShape)
  /-- A structure or a map. -/
  | object (shape : Option ShapeId)
  | bool (shape : Option ShapeId)
  | enum (shape : Option ShapeId)
  | number (shape : Option ShapeId)
  | string (shape : Option ShapeId)
  deriving DecidableEq, Repr, Inhabited

namespace ValueShape

/-- An array that no shape of the schema stands behind. -/
def arrayOf (member : ValueShape) : ValueShape := array none member

/-- The shape of the schema behind the value. -/
def shapeId? : ValueShape → Option ShapeId
  | array id _ | object id | bool id | enum id | number id | string id => id

/-- The shape of the elements of an array. -/
def member? : ValueShape → Option ValueShape
  | array _ m => some m
  | _ => none

def isArray : ValueShape → Bool
  | array _ _ => true
  | _ => false

def isObject : ValueShape → Bool
  | object _ => true
  | _ => false

def isBool : ValueShape → Bool
  | bool _ => true
  | _ => false

def isNumber : ValueShape → Bool
  | number _ => true
  | _ => false

/-- Strings and enums, which compare as strings. -/
def isTextual : ValueShape → Bool
  | string _ | enum _ => true
  | _ => false

/-- The name of the category. -/
def kind : ValueShape → String
  | array _ _ => "array"
  | object _ => "object"
  | bool _ => "boolean"
  | enum _ => "enum"
  | number _ => "number"
  | string _ => "string"

/-- The category with that of the elements. -/
def render : ValueShape → String
  | array _ m => "array of " ++ m.render
  | s => s.kind

/-- Whether values of the two categories can be equal. -/
def isComparable (a b : ValueShape) : Bool :=
  (a.isTextual && b.isTextual) || (a.isNumber && b.isNumber) || (a.isBool && b.isBool)

end ValueShape

end Signpost.Traversal
