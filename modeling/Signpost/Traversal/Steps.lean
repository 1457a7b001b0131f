import Signpost.Traversal.Ty
import Signpost.Query.Basic

/-!
# Steps of a traversal

A traversal is a list of steps, each of which computes a value from the values of earlier locals and
binds it to a local of its own. Closures and the right sides of `&&` and `||` hold steps of their own,
and end in the value they give. `tokensOf` writes the steps as code.
-/

namespace Signpost.Traversal

open Code (Token Ident code parens braces squares)

/-- What a block gives. -/
inductive Tail where
  | plain (value : Ident)
  /-- The value in `Some`. -/
  | present (value : Ident)
  /-- Whether two values are equal. -/
  | equal (left right : Ident)
  deriving DecidableEq, Repr, Inhabited

/-- A constant. -/
inductive Constant where
  | bool (b : Bool)
  | int (n : Int)
  | float (negative : Bool) (magnitude : Magnitude)
  | string (s : String)
  deriving Repr, Inhabited

/-- What a closure ranges over. -/
inductive Source where
  /-- The elements of a list. -/
  | elements
  /-- The values of a map. -/
  | values
  deriving DecidableEq, Repr

mutual

/-- A computation on locals. -/
inductive Operation where
  /-- A field that is always there, by reference. -/
  | field (src name : Ident)
  /-- A field that may be absent; an eager one returns from the block when it is. -/
  | optionalField (src name : Ident) (eager : Bool)
  /-- The value under a key of a map; an eager one returns from the block when there is none. -/
  | entry (src : Ident) (key : String) (eager : Bool)
  /-- The value inside an option, returning from the block when there is none. -/
  | unwrap (src : Ident)
  /-- The value in `Some`. -/
  | wrap (src : Ident)
  | deref (src : Ident)
  /-- The option of a copy of the referenced value. -/
  | copied (src : Ident)
  | text (src : Ident)
  /-- The text of the value inside an option. -/
  | mapText (src item : Ident)
  | cast (src : Ident) (target : Ty)
  | mapCast (src item : Ident) (target : Ty)
  | not (src : Ident)
  | compare (op : Query.Comparison) (left right : Ident)
  /-- The right side is computed only if the left side does not decide. -/
  | both (left : Ident) (right : List Step) (value : Tail)
  | either (left : Ident) (right : List Step) (value : Tail)
  /-- The body on the value inside an option. -/
  | andThen (src item : Ident) (body : List Step) (value : Tail)
  /-- The values that the body gives for the elements. -/
  | each (src : Ident) (source : Source) (item : Ident) (body : List Step) (value : Tail)
  /-- The values of a map as a list. -/
  | values (src : Ident)
  /-- The elements of the elements of a list. -/
  | flatten (src : Ident)
  | charCount (src : Ident)
  | length (src : Ident)
  | list (items : List Ident)
  /-- A list of keys known in advance. -/
  | names (keys : List String)
  /-- The keys of a map. -/
  | keys (src item : Ident)
  | containsText (src part : Ident)
  /-- Whether the body gives true for an element. -/
  | any (src item : Ident) (body : List Step) (value : Tail)

/-- A step. -/
inductive Step where
  | bind (name : Ident) (value : Operation)
  | const (name : Ident) (ty : Ty) (value : Constant)
  /-- Returns nothing from the block unless the condition holds. -/
  | guard (condition : Ident)
  /-- A remark that computes nothing. -/
  | note (remark : String)

end

deriving instance Repr for Operation, Step
deriving instance Inhabited for Operation
deriving instance Inhabited for Step

/-- The tokens of what a block gives. -/
def Tail.tokens : Tail → List Token
  | plain v => [Code.ident v]
  | present v => [.leaf "Some", parens [Code.ident v]]
  | equal l r => [Code.ident l, .leaf "==", Code.ident r]

/-- The tokens of a constant. -/
def Constant.tokens : Constant → List Token
  | bool b => [Code.bool b]
  | int n => Code.integer n ""
  | float negative x => Code.decimal negative x
  | string s => [Code.string s]

/-- A call of a method. -/
def method (name : String) (args : List Token) : List Token := [.leaf ".", .leaf name, parens args]

/-- A closure with one parameter. -/
def closure (item : Ident) (body : List Token) : List Token :=
  .leaf "|" :: Code.ident item :: .leaf "|" :: body

/-- Collecting into a list. -/
def collect : List Token := code ". collect :: < :: std :: vec :: Vec < _ >>" ++ [parens []]

/-- The type of a number or of text; these need no path to a data model. -/
def plainType (t : Ty) : List Token := (t.tokens [] none).getD []

/-- Returning early from what may be absent. -/
def early (eager : Bool) : List Token := if eager then [.leaf "?"] else []

mutual

/-- The tokens of a computation. -/
def Operation.tokens : Operation → List Token
  | .field s f => [.leaf "&", Code.ident s, .leaf ".", Code.ident f]
  | .optionalField s f eager =>
    Code.ident s :: .leaf "." :: Code.ident f :: (method "as_ref" [] ++ early eager)
  | .entry s key eager => Code.ident s :: (method "get" [Code.string key] ++ early eager)
  | .unwrap s => [Code.ident s, .leaf "?"]
  | .wrap s => code ":: std :: option :: Option :: Some" ++ [parens [Code.ident s]]
  | .deref s => [.leaf "*", Code.ident s]
  | .copied s => Code.ident s :: method "copied" []
  | .text s => Code.ident s :: method "as_str" []
  | .mapText s v => Code.ident s :: method "map" (closure v (Code.ident v :: method "as_str" []))
  | .cast s t => Code.ident s :: .leaf "as" :: plainType t
  | .mapCast s v t => Code.ident s :: method "map" (closure v (Code.ident v :: .leaf "as" :: plainType t))
  | .not s => [.leaf "!", Code.ident s]
  | .compare op l r => [Code.ident l, .leaf op.sign, Code.ident r]
  | .both l steps v => [Code.ident l, .leaf "&&", braces (Step.tokensOf steps ++ v.tokens)]
  | .either l steps v => [Code.ident l, .leaf "||", braces (Step.tokensOf steps ++ v.tokens)]
  | .andThen s item steps v =>
    Code.ident s :: method "and_then" (closure item [braces (Step.tokensOf steps ++ v.tokens)])
  | .each s source item steps v =>
    Code.ident s :: (method (match source with | .elements => "into_iter" | .values => "values") [] ++
      method "filter_map" (closure item [braces (Step.tokensOf steps ++ v.tokens)]) ++ collect)
  | .values s => Code.ident s :: (method "values" [] ++ collect)
  | .flatten s => Code.ident s :: (method "into_iter" [] ++ method "flatten" [] ++ collect)
  | .charCount s => Code.ident s :: (method "chars" [] ++ method "count" [] ++ code "as i64")
  | .length s => Code.ident s :: (method "len" [] ++ code "as i64")
  | .list items => code ":: std :: vec !" ++ [squares (Code.commas (items.map ([Code.ident ·])))]
  | .names [] => code ":: std :: vec :: Vec :: < & str > :: new" ++ [parens []]
  | .names ks => code ":: std :: vec !" ++ [squares (Code.commas (ks.map ([Code.string ·])))]
  | .keys s k =>
    Code.ident s :: (method "keys" [] ++
      method "map" (closure k (Code.ident k :: method "as_str" [])) ++ collect)
  | .containsText s t => Code.ident s :: method "contains" [Code.ident t]
  | .any s item steps v =>
    Code.ident s :: (method "iter" [] ++
      method "any" (closure item [braces (Step.tokensOf steps ++ v.tokens)]))

/-- The tokens of a step. -/
def Step.tokens : Step → List Token
  | .bind name op => .leaf "let" :: Code.ident name :: .leaf "=" :: (op.tokens ++ [.leaf ";"])
  | .const name t c =>
    .leaf "const" :: Code.ident name :: .leaf ":" ::
      (plainType t ++ .leaf "=" :: (c.tokens ++ [.leaf ";"]))
  | .guard c => [.leaf "if", .leaf "!", Code.ident c, braces (code "return None ;")]
  | .note remark => code "const _ : & str =" ++ [Code.string remark, .leaf ";"]

/-- The tokens of a list of steps. -/
def Step.tokensOf : List Step → List Token
  | [] => []
  | s :: ss => s.tokens ++ Step.tokensOf ss

end

end Signpost.Traversal
