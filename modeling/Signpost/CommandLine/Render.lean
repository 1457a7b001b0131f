import Signpost.Query.Parser
import Signpost.Resolver.Tests
import Signpost.Traversal.Function

/-!
# Rendering

The items that a command emits. A complaint is a list of sentences, of which each says why the one before
holds.
-/

namespace Signpost.CommandLine

open Code (Token Ident Path Item code)

/-- Why nothing is emitted. -/
inductive Complaint where
  | reasons (first : String) (others : List String)
  /-- A name that no identifier can be made of. -/
  | unnameable
  deriving DecidableEq, Repr

namespace Complaint

/-- A complaint about a step, and its reason. -/
def because (step reason : String) : Complaint := .reasons step [reason]

/-- A complaint about a text that is not a path. -/
def path (text : String) : Complaint := .reasons ("`" ++ text ++ "` is not a path") []

/-- A complaint about a ruleset or its tests. -/
def ofResolver (step : String) (f : Resolver.Failure) : Complaint :=
  match f.cause with
  | .unnameable _ => unnameable
  | _ => because step f.render

/-- A complaint about a query. -/
def ofTraversal (step : String) (f : Traversal.Failure) : Complaint :=
  match f.cause with
  | .unnameable _ | .endlessShape _ => unnameable
  | _ => because step f.render

end Complaint

/-- Whether a token after another names nothing where a function, a field or a method is named. -/
def misnames (before t : Token) : Bool :=
  match before, t with
  | .leaf b, .leaf "_" => b == "." || b == "fn"
  | _, _ => false

mutual

/-- Whether tokens after another name every function, field and method. -/
def isNamed (before : Token) : List Token → Bool
  | [] => true
  | t :: ts => !misnames before t && isNamedInside t && isNamed t ts

/-- Whether the tokens of a group do. -/
def isNamedInside : Token → Bool
  | .leaf _ => true
  | .group _ ts => isNamed (.leaf "") ts

end

/-- The items, if they are code: a single underscore names no function, field or method. -/
def checked (items : List Item) : Except Complaint (List Item) :=
  if isNamed (.leaf "") (Item.tokensOf items) then .ok items
  else .error (.reasons "generated invalid code" [])

/-- The path that a text spells. -/
def readPath (text : String) : Except Complaint Path :=
  match Path.ofText? text with
  | some p => .ok p
  | none => .error (.path text)

/-- The module of the tests of a resolver. -/
def testModule (tests : List Item) : Item :=
  .module (.leaf "#" :: [Code.squares [.leaf "cfg", Code.parens [.leaf "test"]]])
    ⟨"tests", false⟩ tests

/-- The items of a resolver, and of its tests if there are any. -/
def renderResolver (ruleset : String) (tests : Option String) (runtime : String) :
    Except Complaint (List Item) := do
  let r ← (Rules.Ruleset.ofText ruleset).mapError fun e =>
    .because "unable to parse ruleset" e.diagnosis.render
  let settings := { Resolver.Settings.standard with runtime := ← readPath runtime }
  let items ← (Resolver.resolverItems settings r).mapError (.ofResolver "unable to compile ruleset")
  match tests with
  | none => checked items
  | some tests =>
    let suite ← (Rules.TestSuite.ofText tests).mapError fun e =>
      .because "unable to parse tests" e.diagnosis.render
    let tests ← (Resolver.testItems settings r suite.cases).mapError
      (.ofResolver "unable to generate tests")
    checked (items ++ [testModule tests])

/-- The items of a function that evaluates a query on a value of a shape. -/
def renderTraversal (schema shape expr name model : String) : Except Complaint (List Item) := do
  let s ← (Schema.ofText schema).mapError fun e =>
    .because "unable to parse schema" e.diagnosis.render
  let e ← (Query.Expr.ofText expr).mapError fun f =>
    .because ("unable to parse `" ++ expr ++ "`") f.diagnosis.render
  let model ← readPath model
  let f ← ((Traversal.Settings.ofSchema s).function name e [⟨none, ⟨shape⟩⟩]).mapError
    (.ofTraversal ("unable to compile `" ++ e.render ++ "`"))
  checked [.function (f.code model)]

end Signpost.CommandLine
