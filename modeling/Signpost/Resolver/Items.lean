import Signpost.Resolver.Library
import Signpost.Resolver.Parameters

/-!
# Resolvers

The items that a ruleset becomes: the parameters, a resolver that keeps the state of the functions that
the rules use, and the compiled rules.
-/

namespace Signpost.Resolver

open Code (Token Ident Path Item code parens braces)
open Rules (Ruleset)

/-- The place that compiled rules report failed checks to. -/
def diagnosticsName : Ident := ⟨"_diagnostic_collector", false⟩

/-- The names in the rules compiled for a runtime library. -/
def Names.forRuntime (runtime : Path) : Names := ⟨runtime, diagnosticsName⟩

/-- The structure of resolvers. -/
def resolverName : Ident := ⟨"DefaultResolver", false⟩

/-- The method that makes a resolver. -/
private def newFunction (runtime : Path) (states : List State) : Code.Function where
  header := Code.comment " Creates a resolver." ++ code "pub fn"
  name := ⟨"new", false⟩
  signature := code "() -> Self"
  body :=
    [.leaf "Self", braces (Code.fieldTokens (states.map fun s => (s.field, s.initTokens runtime)))]

/-- The method that resolves an endpoint. -/
private def resolveFunction (runtime : Path) (states : List State) : Code.Function where
  header :=
    Code.comment " Resolves the endpoint for `params`." ++ Code.comment "" ++
      Code.comment " When no rule matches, the error's source explains" ++
      Code.comment " the last check that failed." ++ code "pub fn"
  name := ⟨"resolve_endpoint", false⟩
  signature :=
    parens (code "& self , params : & Params ,") :: CompiledRules.resultType runtime
  body :=
    let args := code "params" :: code "& mut diagnostic_collector" ::
      states.map fun s => code "& self ." ++ [Code.ident s.field]
    let source := code "diagnostic_collector . take_last_error ()"
    code "let mut diagnostic_collector =" ++ runtime.extend ["DiagnosticCollector", "new"] ++
      parens [] :: .leaf ";" :: .leaf "resolve_endpoint" :: parens (Code.trailing args) ::
        (code ". map_err" ++ [parens (code "| err | err . with_source" ++ [parens source])])

/-- The method that makes a resolver when nothing else is said. -/
private def defaultFunction : Code.Function where
  header := code "fn"
  name := ⟨"default", false⟩
  signature := code "() -> Self"
  body := code "Self :: new ()"

/-- The items of compiled rules with these parameters. -/
def CompiledRules.items (runtime : Path) (ps : List NamedParameter) (c : CompiledRules) : List Item :=
  parameterItems runtime ps ++
    [.record {
      header :=
        Code.comment " Resolves endpoints by evaluating the ruleset." ++ derive ["Debug"] ++ code "pub"
      name := resolverName
      fields := c.states.map fun s => (s.field, s.typeTokens runtime) },
     .implementation none resolverName [newFunction runtime c.states, resolveFunction runtime c.states],
     .implementation (some (.ofNames true ["std", "default", "Default"])) resolverName
       [defaultFunction],
     .function (c.function (.forRuntime runtime))]

/-- What resolvers are made with: the path to the runtime library, the path that tests use for the
resolver, the functions that rules can call, and the deepest nesting of rules. -/
structure Settings where
  runtime : Path
  resolver : Path
  registry : Registry
  maxDepth : Nat
  deriving Repr, Inhabited

/-- The settings where nothing else is said. -/
def Settings.standard : Settings where
  runtime := .ofNames true ["rulegen_runtime"]
  resolver := .ofNames false ["super"]
  registry := .standard
  maxDepth := 64

/-- The items of the resolver for a ruleset. -/
def resolverItems (s : Settings) (r : Ruleset) : Except Failure (List Item) := do
  let c ← compileRules s.registry s.maxDepth r
  return c.items s.runtime (r.parameters.filterMap NamedParameter.of?)

end Signpost.Resolver
