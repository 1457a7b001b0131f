import Signpost.Naming.Words
import Signpost.Unicode.Identifier

/-!
# Identifiers of emitted code

The names that emitted Rust may use. An identifier is plain or raw; `Ident.plain?` and `Ident.raw?`
give one only where the language has it. `Ident.ofName?` turns any name of a schema or a ruleset into
one, and fails only if the name has numbers that no identifier has.
-/

namespace Signpost.Code

/-- An identifier; a raw one is written with `r#` in front, so that it may be a keyword. -/
structure Ident where
  name : String
  isRaw : Bool
  deriving DecidableEq, Repr, Inhabited

/-- The identifier as written. -/
def Ident.text (i : Ident) : String := if i.isRaw then "r#" ++ i.name else i.name

/-- The words that a field or a variable may not be called without being raw. -/
def keywords : List String :=
  ["abstract", "as", "async", "await", "become", "box", "break", "const", "continue", "crate",
   "do", "dyn", "else", "enum", "extern", "false", "final", "fn", "for", "gen", "if", "impl",
   "in", "let", "loop", "macro", "match", "mod", "move", "mut", "override", "priv", "pub", "ref",
   "return", "self", "Self", "static", "struct", "super", "trait", "true", "try", "type",
   "typeof", "union", "unsafe", "unsized", "use", "virtual", "where", "while", "yield"]

/-- Whether a name is a keyword. -/
def isKeyword (name : String) : Bool := keywords.contains name

/-- Whether the characters are those of an identifier. -/
def isIdentText : List Char → Bool
  | [] => false
  | c :: cs =>
    (c == '_' || Unicode.identifierStart.contains c) && cs.all Unicode.identifierContinue.contains

namespace Ident

/-- A plain identifier of this name. -/
def plain? (name : String) : Option Ident :=
  if isIdentText name.toList then some ⟨name, false⟩ else none

/-- A raw identifier of this name. -/
def raw? (name : String) : Option Ident :=
  if isIdentText name.toList && !(["_", "super", "self", "Self", "crate"].contains name) then
    some ⟨name, true⟩
  else none

/-- An identifier as written, plain or raw. -/
def ofText? (text : String) : Option Ident :=
  match text.toList with
  | 'r' :: '#' :: cs => raw? (String.ofList cs)
  | _ => plain? text

/-- The name of a field or a variable for a name from outside: in snake case, with an underscore in
front of nothing and of a digit. -/
def fieldName (name : String) : String :=
  let s := Naming.snakeCase name
  match s.toList with
  | [] => "_"
  | c :: _ => if c.isDigit then "_" ++ s else s

/-- The field or variable for a name from outside. Keywords become raw, and those that cannot be raw
get an underscore behind. -/
def ofName? (name : String) : Option Ident :=
  let s := fieldName name
  if ["self", "Self", "crate", "super"].contains s then plain? (s ++ "_")
  else if isKeyword s then raw? s
  else plain? s

end Ident

end Signpost.Code
