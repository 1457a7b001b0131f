import Signpost.Schema.Basic
import Signpost.Json.Decode
import Signpost.Diagnosis

/-!
# Schema documents

A schema as JSON text. Every shape is an object with its kind under `type`, which may stand anywhere
among its entries; a schema is accepted if no shape refers to one that is missing. What `Schema.write`
writes is in the order of the schema, with nothing left out.
-/

namespace Signpost

namespace Shape

open Json

/-- A draft of a member. -/
structure MemberDraft where
  target : Option ShapeId
  required : Option Bool

def shapeId : Decoder ShapeId := fun src o => (Decoder.string src o).map ShapeId.mk

def memberFields : List (Json.Field MemberDraft) :=
  [.of "target" true (·.target) (fun id m => { m with target := some id }) shapeId,
   .of "required" false (·.required) (fun b m => { m with required := some b }) Decoder.bool]

def memberDecoder : Decoder Member := fun src o => do
  let m ← Record.decoder memberFields "struct Member" ⟨none, none⟩ src o
  return ⟨m.target.getD default, m.required.getD false⟩

def membersDecoder : Decoder (Table String Member) := fun src o => do
  let ms ← Record.single "struct Structure" "members" false (Decoder.entries memberDecoder) src o
  return ms.getD []

def valuesDecoder : Decoder (List String) := fun src o => do
  let vs ← Record.single "struct EnumShape" "values" false (Decoder.list Decoder.string) src o
  return vs.getD []

def targetDecoder (field type : String) : Decoder ShapeId := fun src o => do
  let id ← Record.single type field true shapeId src o
  return id.getD default

/-- The content of a shape without any: an object is passed over, a list must be empty. -/
def bareDecoder (shape : Shape) : Decoder Shape := fun _ o =>
  match o with
  | .list _ (i :: is) _ => .error (.wrongLength (i :: is).length "0 elements in sequence")
  | _ => .ok shape

def bare (shape : Shape) : String × Decoder Shape := (shape.kind, bareDecoder shape)

def listType : String := "struct ListShape"

/-- The kinds of shapes and how their content is read. -/
def kinds : List (String × Decoder Shape) :=
  [("structure", fun src o => (membersDecoder src o).map .record),
   ("union", fun src o => (membersDecoder src o).map .union),
   ("map", fun src o => (targetDecoder "value" "struct MapShape" src o).map .map),
   ("list", fun src o => (targetDecoder "member" listType src o).map .list),
   ("set", fun src o => (targetDecoder "member" listType src o).map .set),
   bare boolean, bare string,
   ("enum", fun src o => (valuesDecoder src o).map .enum),
   bare byte, bare short, bare integer, bare long, bare float, bare double, bare bigInteger,
   bare bigDecimal, bare blob, bare timestamp, bare document]

/-- A shape. -/
def decoder : Decoder Shape := Decoder.tagged "type" "internally tagged enum Shape" kinds

end Shape

namespace Schema

open Json

/-- Why a text is not a schema. -/
inductive DocumentError where
  | mismatch (m : Mismatch)
  /-- A shape that refers to one that is missing. -/
  | dangling (shape target : ShapeId)

/-- The mistake as it is reported. -/
def DocumentError.diagnosis : DocumentError → Diagnosis
  | mismatch m => ⟨.invalidDocument, m.message, none⟩
  | dangling shape target =>
    ⟨.invalidDocument,
      "shape `" ++ shape.text ++ "` targets unknown shape `" ++ target.text ++ "`", none⟩

/-- A schema, whether or not its shapes refer to missing ones. -/
def decoder : Decoder Schema := fun src o => do
  let shapes ← Record.single "struct Schema" "shapes" true (Decoder.entries Shape.decoder) src o
  return ⟨(shapes.getD []).map fun (k, shape) => (⟨k⟩, shape)⟩

/-- Reads a schema. -/
def ofText (text : String) : Except DocumentError Schema :=
  match Json.decode decoder text with
  | .error m => .error (.mismatch m)
  | .ok s =>
    match s.dangling? with
    | some (shape, target) => .error (.dangling shape target)
    | none => .ok s

end Schema

/-! ### Writing -/

namespace Json

/-- The text of an object with its entries in this order. -/
def writeObject (entries : List (String × String)) : String :=
  "\x7b" ++ ",".intercalate (entries.map fun (k, v) => Value.quote k ++ ":" ++ v) ++ "\x7d"

/-- The text of a list. -/
def writeList (items : List String) : String := "[" ++ ",".intercalate items ++ "]"

/-- The text of a truth value. -/
def writeBool (b : Bool) : String := if b then "true" else "false"

end Json

open Json in
/-- The text of a member. -/
def Member.write (m : Member) : String :=
  writeObject [("target", Value.quote m.target.text), ("required", writeBool m.required)]

open Json in
/-- The text of a shape, its kind first. -/
def Shape.write (s : Shape) : String :=
  let content : List (String × String) := match s with
    | record ms | union ms => [("members", writeObject (ms.map fun (k, m) => (k, m.write)))]
    | map id => [("value", Value.quote id.text)]
    | list id | set id => [("member", Value.quote id.text)]
    | enum values => [("values", writeList (values.map Value.quote))]
    | _ => []
  writeObject (("type", Value.quote s.kind) :: content)

open Json in
/-- The text of a schema. -/
def Schema.write (s : Schema) : String :=
  writeObject [("shapes", writeObject (s.shapes.map fun (id, shape) => (id.text, shape.write)))]

end Signpost
