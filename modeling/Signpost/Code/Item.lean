import Signpost.Code.Path

/-!
# Items of emitted code

The structures, functions, implementations and modules that make up emitted code. `Item.tokens` writes
an item, and `Item.outline` names it and what it holds.
-/

namespace Signpost.Code

/-- A path continued by plain names. -/
def Path.extend (p : Path) (names : List String) : List Token :=
  p.tokens ++ names.flatMap fun n => [.leaf "::", .leaf n]

/-- A function. -/
structure Function where
  /-- Attributes, visibility and the word `fn`. -/
  header : List Token
  name : Ident
  /-- What stands between the name and the body. -/
  signature : List Token
  body : List Token
  deriving Repr, Inhabited

/-- The tokens of a function. -/
def Function.tokens (f : Function) : List Token :=
  f.header ++ ident f.name :: (f.signature ++ [braces f.body])

/-- A structure with named fields. -/
structure Record where
  header : List Token
  name : Ident
  /-- The fields with their types. -/
  fields : List (Ident × List Token)
  deriving Repr, Inhabited

/-- Fields with what follows their colons, and a comma after each. -/
def fieldTokens (fields : List (Ident × List Token)) : List Token :=
  trailing (fields.map fun (i, ts) => ident i :: .leaf ":" :: ts)

/-- An item. -/
inductive Item where
  | record (r : Record)
  | function (f : Function)
  /-- The methods of a type, perhaps those of a trait, which is named by the last part of its path. -/
  | implementation (trait : Option Path) (target : Ident) (methods : List Function)
  | module (header : List Token) (name : Ident) (items : List Item)
  deriving Inhabited

namespace Item

/-- The trait of an implementation and the word after it. -/
def traitTokens : Option Path → List Token
  | some p => p.tokens ++ [.leaf "for"]
  | none => []

mutual

/-- The tokens of an item. -/
def tokens : Item → List Token
  | record r => r.header ++ .leaf "struct" :: ident r.name :: [braces (fieldTokens r.fields)]
  | function f => f.tokens
  | implementation t target ms =>
    .leaf "impl" :: (traitTokens t ++ ident target :: [braces (ms.flatMap (·.tokens))])
  | module header name is => header ++ .leaf "mod" :: ident name :: [braces (tokensOf is)]

/-- The tokens of items in order. -/
def tokensOf : List Item → List Token
  | [] => []
  | i :: is => tokens i ++ tokensOf is

end

/-- The last part of a path. -/
def traitName (p : Path) : String := ((p.segments.getLast?).map (·.text)).getD ""

mutual

/-- The names of an item, of the functions of an implementation, and of the items of a module. -/
def outline : Item → List String
  | record r => ["struct " ++ r.name.text]
  | function f => ["fn " ++ f.name.text]
  | implementation t target ms =>
    ("impl " ++ (t.map fun p => traitName p ++ " for ").getD "" ++ target.text) ::
      ms.map fun m => "  fn " ++ m.name.text
  | module _ name is => ("mod " ++ name.text) :: outlineOf is

/-- The names of items in order. -/
def outlineOf : List Item → List String
  | [] => []
  | i :: is => outline i ++ outlineOf is

end

end Item

end Signpost.Code
