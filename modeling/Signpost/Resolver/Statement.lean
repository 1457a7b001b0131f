import Signpost.Resolver.Value

/-!
# Emitted statements

What rules become: statements that check a condition around the rest of a rule, and statements that
return an endpoint or an error. Statements are run in order until one returns.
-/

namespace Signpost.Resolver

open Code (Token Ident Path code parens braces)

/-- The computation of an endpoint. -/
structure Endpoint where
  url : Value
  /-- The values of headers, each with the name of the header. -/
  headers : List (String × Value)
  properties : List (String × Document)
  deriving Inhabited, Repr

/-- A statement. -/
inductive Statement where
  /-- The body with the value of an option as a local, if the option holds one. -/
  | ifSome (name : Ident) (option : Value) (body : List Statement)
  | ifTrue (condition : Value) (body : List Statement)
  /-- The body with a truth value as a local, if it is true. -/
  | ifBound (name : Ident) (condition : Value) (body : List Statement)
  /-- The body with a value as a local; of a string of its own the local is a view. -/
  | bind (name : Ident) (value : Value) (isOwned : Bool) (body : List Statement)
  | endpoint (e : Endpoint)
  | error (message : Value)
  /-- The error that no rule matches. -/
  | noMatch
  deriving Inhabited, Repr

namespace Endpoint

/-- The tokens of an endpoint. -/
def tokens (names : Names) (e : Endpoint) : List Token :=
  let call (method : String) (args : List Token) : List Token := [.leaf ".", .leaf method, parens args]
  names.runtime.extend ["Endpoint", "builder"] ++ parens [] :: call "url" (e.url.tokens names) ++
    e.headers.flatMap (fun (name, v) =>
      call "header" (Code.string name :: .leaf "," :: v.tokens names)) ++
    e.properties.flatMap (fun (name, d) =>
      call "property" (Code.string name :: .leaf "," :: d.tokens names)) ++
    call "build" []

end Endpoint

/-- What is said when no rule matches, with a place for the parameters. -/
def noMatchLayout : String :=
  "No rules matched these parameters. This is a bug. \x7b_params:?\x7d"

/-- The error with a message. -/
def errorTokens (names : Names) (message : List Token) : List Token :=
  code "return :: std :: result :: Result :: Err" ++
    [parens (names.runtime.extend ["ResolveEndpointError", "message"] ++ [parens message]), .leaf ";"]

namespace Statement

mutual

/-- The tokens of a statement. -/
def tokens (names : Names) : Statement → List Token
  | ifSome i v body =>
    code "if let :: std :: option :: Option :: Some" ++
      parens [Code.ident i] :: .leaf "=" :: (v.tokens names ++ [braces (tokensOf names body)])
  | ifTrue v body => .leaf "if" :: (v.tokens names ++ [braces (tokensOf names body)])
  | ifBound i v body =>
    [braces (.leaf "let" :: Code.ident i :: .leaf "=" :: (v.tokens names ++
      [.leaf ";", .leaf "if", Code.ident i, braces (tokensOf names body)]))]
  | bind i v isOwned body =>
    let view : List Token :=
      if isOwned then
        .leaf "let" :: Code.ident i :: .leaf "=" :: Code.ident i :: code ". as_str () ;"
      else []
    [braces (.leaf "let" :: Code.ident i :: .leaf "=" :: (v.tokens names ++
      .leaf ";" :: (view ++ tokensOf names body)))]
  | endpoint e =>
    code "return :: std :: result :: Result :: Ok" ++ [parens (e.tokens names), .leaf ";"]
  | error v => errorTokens names (v.tokens names)
  | noMatch => errorTokens names (code ":: std :: format !" ++ [parens [Code.string noMatchLayout]])

/-- The tokens of statements in order. -/
def tokensOf (names : Names) : List Statement → List Token
  | [] => []
  | s :: ss => tokens names s ++ tokensOf names ss

end

end Statement

end Signpost.Resolver
