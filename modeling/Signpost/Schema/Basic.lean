import Signpost.Table
import Signpost.Naming.Words

/-!
# Schemas

The shapes of a data model by their ids: structures with members, collections of other shapes, and
scalars.
-/

namespace Signpost

/-- The id of a shape, which may have a namespace and `#` in front of its name. -/
structure ShapeId where
  text : String
  deriving DecidableEq, Repr, Inhabited

namespace ShapeId

/-- What follows the last `#`, or everything if there is none. -/
private def afterHash : List Char → List Char → List Char
  | name, [] => name
  | name, c :: cs => if c = '#' then afterHash cs cs else afterHash name cs

/-- The id without its namespace. -/
def name (id : ShapeId) : String :=
  String.ofList (afterHash id.text.toList id.text.toList)

/-- The name of the type that stands for the shape. -/
def typeName (id : ShapeId) : String := Naming.camelCase id.name

end ShapeId

/-- A member of a structure; one that is not required may be absent. -/
structure Member where
  target : ShapeId
  required : Bool
  deriving DecidableEq, Repr, Inhabited

/-- A shape of the data model. -/
inductive Shape where
  /-- A structure. -/
  | record (members : Table String Member)
  | union (members : Table String Member)
  | map (value : ShapeId)
  | list (member : ShapeId)
  | set (member : ShapeId)
  | boolean
  | string
  | enum (values : List String)
  | byte
  | short
  | integer
  | long
  | float
  | double
  | bigInteger
  | bigDecimal
  | blob
  | timestamp
  | document
  deriving DecidableEq, Repr, Inhabited

namespace Shape

/-- The name of the kind of shape. -/
def kind : Shape → String
  | record _ => "structure"
  | union _ => "union"
  | map _ => "map"
  | list _ => "list"
  | set _ => "set"
  | boolean => "boolean"
  | string => "string"
  | enum _ => "enum"
  | byte => "byte"
  | short => "short"
  | integer => "integer"
  | long => "long"
  | float => "float"
  | double => "double"
  | bigInteger => "bigInteger"
  | bigDecimal => "bigDecimal"
  | blob => "blob"
  | timestamp => "timestamp"
  | document => "document"

/-- The shapes that a shape refers to, in order. -/
def targets : Shape → List ShapeId
  | record ms | union ms => ms.map (·.2.target)
  | map id | list id | set id => [id]
  | _ => []

end Shape

/-- Shapes by id. -/
structure Schema where
  shapes : Table ShapeId Shape
  deriving DecidableEq, Repr, Inhabited

namespace Schema

/-- The schema without shapes. -/
def empty : Schema := ⟨[]⟩

/-- The schema with a shape put under an id. -/
def insert (s : Schema) (id : ShapeId) (shape : Shape) : Schema := ⟨s.shapes.put id shape⟩

/-- The shape under an id. -/
def get? (s : Schema) (id : ShapeId) : Option Shape := s.shapes.get? id

/-- The first shape that refers to one that is not there, and the one it refers to. -/
def dangling? (s : Schema) : Option (ShapeId × ShapeId) :=
  s.shapes.findSome? fun (id, shape) =>
    (shape.targets.find? fun t => (s.get? t).isNone).map fun t => (id, t)

end Schema

end Signpost
