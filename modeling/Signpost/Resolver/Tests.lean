import Signpost.Resolver.Items
import Signpost.Rules.Suite

/-!
# Tests of a resolver

The functions that test cases become: each builds parameters, resolves an endpoint and compares it, or
the error, with what is expected.
-/

namespace Signpost.Resolver

open Code (Token Ident Path Item code parens squares)
open Rules (Ruleset TestCase ParameterValue PropertyValue ExpectedEndpoint Expectation)

/-- The tokens of a value for a parameter. -/
def parameterTokens : ParameterValue → List Token
  | .string s => [Code.string s]
  | .bool b => [Code.bool b]
  | .stringArray items =>
    code ":: std :: vec :: Vec :: < :: std :: string :: String > :: from" ++
      [parens [squares (Code.commas (items.map ownedString))]]

mutual

/-- The value of a property as a document. -/
def propertyDocument : PropertyValue → Document
  | .string s => .value (.string s)
  | .bool b => .value (.bool b)
  | .int n => .int n
  | .array items => .array (propertyDocuments items)
  | .object fields => .record (propertyFields fields)

/-- The documents of values in order. -/
def propertyDocuments : List PropertyValue → List Document
  | [] => []
  | v :: vs => propertyDocument v :: propertyDocuments vs

/-- The documents of fields in order. -/
def propertyFields : List (String × PropertyValue) → List (String × Document)
  | [] => []
  | (name, v) :: fs => (name, propertyDocument v) :: propertyFields fs

end

/-- The endpoint that a test expects. -/
def expectedEndpoint (e : ExpectedEndpoint) : Endpoint where
  url := .string e.url
  headers := e.headers.flatMap fun (name, values) => values.map fun v => (name, .string v)
  properties := propertyFields e.properties

/-- The calls that set the parameters of a test. -/
private def settings (r : Ruleset) (test : Nat) :
    List (String × ParameterValue) → Except Cause (List Token)
  | [] => .ok []
  | (name, v) :: vs => do
    let p ← match r.parameter? name with
      | some p => pure p
      | none => throw (.badArgument (.unknownParameter test name))
    if p.type ≠ v.type then throw (.mismatch (.testParameter test name p.type v.type))
    let i ← match Ident.ofName? name with
      | some i => pure i
      | none => throw (.unnameable name)
    let rest ← settings r test vs
    return .leaf "." :: Code.ident i :: parens (parameterTokens v) :: rest

/-- The comparison with what is expected. -/
private def comparison (names : Names) : Expectation → List Token
  | .endpoint e =>
    code "let endpoint = endpoint . expect" ++
      parens [Code.string ("expected a valid endpoint: " ++ e.url)] :: .leaf ";" ::
      (code "assert_eq !" ++
        [parens (code "endpoint ," ++ (expectedEndpoint e).tokens names), .leaf ";"])
  | .error message =>
    code "let error = endpoint . expect_err" ++
      parens [Code.string ("expected an error: " ++ message)] :: .leaf ";" ::
      (code "assert_eq !" ++ [parens (code "error . to_string () ," ++ [Code.string message]), .leaf ";"])

/-- The function for test number `n`. -/
private def testFunction (s : Settings) (r : Ruleset) (n : Nat) (test : TestCase) :
    Except Cause Code.Function := do
  let setters ← settings r n test.params
  let docs := ((test.documentation.map Code.lines).getD []).flatMap fun l => Code.doc (" " ++ l)
  return {
    header := docs ++ .leaf "#" :: squares [.leaf "test"] :: code "fn"
    name := ⟨testName n, false⟩
    signature := code "()"
    body :=
      code "let params =" ++ s.resolver.extend ["Params", "builder"] ++ parens [] :: setters ++
        code ". build () . expect" ++ parens [Code.string "invalid params"] :: .leaf ";" ::
        (code "let resolver =" ++ s.resolver.extend ["DefaultResolver", "new"] ++ parens [] ::
          (code "; let endpoint = resolver . resolve_endpoint" ++
            parens (code "& params") :: .leaf ";" :: comparison (.forRuntime s.runtime) test.expect)) }

/-- The functions for tests from number `n` on. -/
private def testFunctions (s : Settings) (r : Ruleset) (n : Nat) :
    List TestCase → Except Cause (List Code.Function)
  | [] => .ok []
  | t :: ts => do
    let f ← testFunction s r n t
    return f :: (← testFunctions s r (n + 1) ts)

/-- The items of the tests of a resolver. -/
def testItems (s : Settings) (r : Ruleset) (tests : List TestCase) : Except Failure (List Item) :=
  ((testFunctions s r 1 tests).map (·.map .function)).mapError (⟨·, none⟩)

end Signpost.Resolver
