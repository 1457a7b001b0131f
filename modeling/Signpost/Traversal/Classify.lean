import Signpost.Traversal.Failure

/-!
# Shapes of the schema as values

The category of the values of a shape, and their type. Both look through lists and maps, so that they
visit at most as many shapes one inside the other as the schema has.
-/

namespace Signpost.Traversal

/-- The shape under an id, which has to be there. -/
def lookUp (schema : Schema) (id : ShapeId) : Except Cause Shape :=
  match schema.get? id with
  | some shape => .ok shape
  | none => .error (.invalid (.unknownShape id))

/-- The category of a shape of which at most so many others are inside one another. -/
def classifyWithin (schema : Schema) : Nat → ShapeId → Except Cause ValueShape
  | 0, id => .error (.endlessShape id)
  | n + 1, id => do
    match ← lookUp schema id with
    | .record _ | .map _ => return .object (some id)
    | .list m | .set m => return .array (some id) (← classifyWithin schema n m)
    | .boolean => return .bool (some id)
    | .enum _ => return .enum (some id)
    | .byte | .short | .integer | .long | .float | .double => return .number (some id)
    | .string => return .string (some id)
    | shape => throw (.unsupported (.shape shape.kind))

/-- The category of the values of a shape. -/
def classify (schema : Schema) (id : ShapeId) : Except Cause ValueShape :=
  classifyWithin schema (schema.shapes.length + 1) id

/-- The type of a shape of which at most so many others are inside one another. -/
def typeWithin (schema : Schema) : Nat → ShapeId → Except Cause Ty
  | 0, id => .error (.endlessShape id)
  | n + 1, id => do
    match ← lookUp schema id with
    | .record _ | .enum _ => return .model id.typeName
    | .map v => return .map .string (← typeWithin schema n v)
    | .list m | .set m => return .vec (← typeWithin schema n m)
    | .boolean => return .bool
    | .string => return .string
    | .byte => return .int 8
    | .short => return .int 16
    | .integer => return .int 32
    | .long => return .int 64
    | .float => return .float 32
    | .double => return .float 64
    | shape => throw (.unsupported (.shape shape.kind))

/-- The type of the values of a shape. -/
def typeOf (schema : Schema) (id : ShapeId) : Except Cause Ty :=
  typeWithin schema (schema.shapes.length + 1) id

end Signpost.Traversal
