import Signpost.Json.Value

/-!
# Query literals

The constants of a query. A literal is written as JSON, with floating point numbers laid out plainly,
and `ofJson` takes a JSON value for what it is.
-/

namespace Signpost.Query

/-- A constant. -/
inductive Literal where
  | null
  | bool (b : Bool)
  | int (n : Int)
  | float (x : Binary64)
  | string (s : String)
  | array (items : List Literal)
  | object (entries : List (String × Literal))
  deriving Inhabited, Repr

namespace Literal

/-- The name of the literal's JSON type. -/
def typeName : Literal → String
  | null => "null"
  | bool _ => "boolean"
  | int _ | float _ => "number"
  | string _ => "string"
  | array _ => "array"
  | object _ => "object"

/-- Whole numbers that fit into 64 bits with a sign; other numbers are floating. -/
def ofNumber : Json.Number → Literal
  | .int n =>
    if n < 0x8000000000000000 then int n else float (Binary64.ofDecimal false n.toNat 0)
  | .real x => float x

mutual

/-- The literal that a JSON value stands for. -/
def ofJson : Json.Value → Literal
  | .null => null
  | .bool b => bool b
  | .number n => ofNumber n
  | .string s => string s
  | .array items => array (ofItems items)
  | .object entries => object (ofEntries entries)

def ofItems : List Json.Value → List Literal
  | [] => []
  | v :: vs => ofJson v :: ofItems vs

def ofEntries : List (String × Json.Value) → List (String × Literal)
  | [] => []
  | (k, v) :: es => (k, ofJson v) :: ofEntries es

end

/-- A character inside double quotes: the control characters with a letter of their own use it, the
others their code point. -/
def quoteChar (c : Char) : List Char :=
  match c with
  | '"' => ['\\', '"']
  | '\\' => ['\\', '\\']
  | '\n' => ['\\', 'n']
  | '\t' => ['\\', 't']
  | '\r' => ['\\', 'r']
  | c =>
    if c.toNat < 0x20 ∨ 0x7F ≤ c.toNat ∧ c.toNat < 0xA0 then
      ['\\', 'u', '0', '0', Hexadecimal.small (c.toNat / 16), Hexadecimal.small (c.toNat % 16)]
    else [c]

/-- Text in double quotes. -/
def quote (s : String) : List Char := '"' :: (s.toList.flatMap quoteChar ++ ['"'])

mutual

/-- The literal as JSON. -/
def write : Literal → List Char
  | null => "null".toList
  | bool b => (if b then "true" else "false").toList
  | int n => (toString n).toList
  | float x => (Layout.plain.write x).toList
  | string s => quote s
  | array items => '[' :: (writeItems items ++ [']'])
  | object entries => '{' :: (writeEntries entries ++ ['}'])

def writeItems : List Literal → List Char
  | [] => []
  | [l] => write l
  | l :: ls => write l ++ ',' :: writeItems ls

def writeEntries : List (String × Literal) → List Char
  | [] => []
  | [(k, l)] => quote k ++ ':' :: write l
  | (k, l) :: es => quote k ++ ':' :: (write l ++ ',' :: writeEntries es)

end

/-- The literal as JSON. -/
def render (l : Literal) : String := String.ofList l.write

end Literal

end Signpost.Query
