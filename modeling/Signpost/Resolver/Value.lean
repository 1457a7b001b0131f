import Signpost.Resolver.Registry

/-!
# Emitted values

What expressions of rules become: computations on locals, which may call functions of the registry, and
the documents that hold endpoint properties.
-/

namespace Signpost.Resolver

open Code (Token Ident Path code parens squares)

/-- A computation of a value. -/
inductive Value where
  | local (name : Ident)
  | string (s : String)
  | bool (b : Bool)
  | int (n : Int)
  /-- A text with places in which the values are put; braces around nothing are a place, and doubled
  braces are braces. -/
  | format (layout : String) (args : List Value)
  /-- A string of its own for a view of one. -/
  | toOwned (v : Value)
  /-- A view of a string. -/
  | asStr (v : Value)
  | isSome (v : Value)
  | not (v : Value)
  | equal (a b : Value)
  /-- The attribute that the method reads. -/
  | read (v : Value) (accessor : Ident)
  /-- The string at a place of an array, if there is one. -/
  | item (v : Value) (index : Nat)
  /-- The first of two options that holds a value. -/
  | or (a b : Value)
  /-- The value of an option, or another. -/
  | unwrapOr (a b : Value)
  /-- The value of an option as a string of its own, or another string. -/
  | ownedOr (a b : Value)
  /-- The first of two values that are both computed. -/
  | first (a b : Value)
  | call (f : Function) (args : List Value)
  deriving Inhabited, Repr

/-- The computation of a document. -/
inductive Document where
  | int (n : Int)
  | array (items : List Document)
  | record (fields : List (String × Document))
  /-- A string or a truth value. -/
  | value (v : Value)
  /-- A number that is computed. -/
  | number (v : Value)
  /-- A string array that is computed. -/
  | strings (v : Value)
  deriving Inhabited, Repr

/-- The names that emitted code uses: the path to the runtime library, and the place that failed checks
are reported to. -/
structure Names where
  runtime : Path
  diagnostics : Ident
  deriving DecidableEq, Repr, Inhabited

mutual

/-- The tokens of a value. -/
def Value.tokens (names : Names) : Value → List Token
  | .local i => [Code.ident i]
  | .string s => [Code.string s]
  | .bool b => [Code.bool b]
  | .int n => Code.integer n ""
  | .format layout args =>
    code ":: std :: format !" ++
      [parens (Code.string layout :: .leaf "," :: Code.commas (Value.tokensOf names args))]
  | .toOwned v => v.tokens names ++ code ". to_owned ()"
  | .asStr v => v.tokens names ++ code ". as_str ()"
  | .isSome v => v.tokens names ++ code ". is_some ()"
  | .not v => .leaf "!" :: v.tokens names
  | .equal a b => [parens (a.tokens names ++ .leaf "==" :: b.tokens names)]
  | .read v accessor => v.tokens names ++ [.leaf ".", Code.ident accessor, parens []]
  | .item v i =>
    v.tokens names ++ code ". get" ++ parens (Code.integer i "") ::
      code ". map" ++ [parens (code ":: std :: string :: String :: as_str")]
  | .or a b => a.tokens names ++ code ". or" ++ [parens (b.tokens names)]
  | .unwrapOr a b => a.tokens names ++ code ". unwrap_or" ++ [parens (b.tokens names)]
  | .ownedOr a b =>
    a.tokens names ++ code ". map" ++ parens (code ":: std :: string :: String :: from") ::
      code ". unwrap_or" ++ [parens (b.tokens names)]
  | .first a b => parens (a.tokens names ++ .leaf "," :: b.tokens names) :: code ". 0"
  | .call f args => f.call names.runtime names.diagnostics (Value.tokensOf names args)

/-- The tokens of each of several values. -/
def Value.tokensOf (names : Names) : List Value → List (List Token)
  | [] => []
  | v :: vs => v.tokens names :: Value.tokensOf names vs

end

namespace Document

/-- The path to the type of documents. -/
def typeTokens (names : Names) : List Token := names.runtime.extend ["Document"]

/-- A document made from something. -/
def make (names : Names) (content : List Token) : List Token :=
  typeTokens names ++ code ":: from" ++ [parens content]

/-- A collection made from a list of its elements. -/
def collection (names : Names) (type : List Token) (items : List (List Token)) : List Token :=
  make names (type ++ code ":: from" ++ [parens [squares (Code.commas items)]])

/-- The type of lists of documents. -/
def listType (names : Names) : List Token :=
  code ":: std :: vec :: Vec :: <" ++ typeTokens names ++ code ">"

/-- The type of documents by name. -/
def mapType (names : Names) : List Token :=
  code ":: std :: collections :: HashMap :: < :: std :: string :: String ," ++ typeTokens names ++
    code ">"

mutual

/-- The tokens of a document. -/
def tokens (names : Names) : Document → List Token
  | int n => make names (Code.integer n "i64")
  | array items => collection names (listType names) (tokensOf names items)
  | record fields => collection names (mapType names) (fieldTokens names fields)
  | value v => make names (v.tokens names)
  | number v => make names (v.tokens names ++ code "as i64")
  | strings v =>
    make names (v.tokens names ++ code ". iter () . map" ++
      parens (code "| s |" ++ make names (code "s . as_str ()")) ::
        code ". collect :: < :: std :: vec :: Vec < _ >> ()")

/-- The tokens of each of several documents. -/
def tokensOf (names : Names) : List Document → List (List Token)
  | [] => []
  | d :: ds => tokens names d :: tokensOf names ds

/-- The tokens of fields, each a pair of a name and a document. -/
def fieldTokens (names : Names) : List (String × Document) → List (List Token)
  | [] => []
  | (name, d) :: fs =>
    [parens (Code.string name :: (code ". to_owned ()" ++ .leaf "," :: tokens names d))] ::
      fieldTokens names fs

end

end Document

end Signpost.Resolver
