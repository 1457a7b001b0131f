import Signpost.Resolver.Level

/-!
# Compiling rulesets

The function that a ruleset becomes: the parameters as locals, then the statements of the rules. The
functions that the rules use contribute the state that they need as further parameters.
-/

namespace Signpost.Resolver

open Code (Token Ident Path code parens squares)
open Rules (Ruleset Parameter ParameterType)

/-- How a local reads a parameter. -/
inductive ParameterView where
  | string
  /-- A string or an array that may be absent. -/
  | optional
  | array
  | copy
  deriving DecidableEq, Repr, Inhabited

/-- How the local for a parameter reads it. -/
def ParameterView.of (p : Parameter) : ParameterView :=
  match p.type, p.isAlwaysSet with
  | .boolean, _ => copy
  | .string, true => string
  | .stringArray, true => array
  | _, false => optional

/-- The type of the local for a parameter. -/
def parameterType (p : Parameter) : Ty :=
  let ty : Ty := match p.type with
    | .string => .string
    | .boolean => .bool
    | .stringArray => .stringArray
  if p.isAlwaysSet then ty else .option ty

/-- A local that reads a parameter. -/
structure ParameterLocal where
  ident : Ident
  view : ParameterView
  deriving DecidableEq, Repr, Inhabited

/-- The tokens that declare the local. -/
def ParameterLocal.tokens (l : ParameterLocal) : List Token :=
  let view := match l.view with
    | .string => code ". as_str ()"
    | .optional => code ". as_deref ()"
    | .array => code ". as_slice ()"
    | .copy => []
  .leaf "let" :: Code.ident l.ident :: (code "= _params ." ++ Code.ident l.ident :: (view ++ [.leaf ";"]))

/-- The locals for parameters, and the scope in which they are bound. -/
def parameterLocals (scope : Scope) : List Parameter → Compiling (List ParameterLocal × Scope)
  | [] => return ([], scope)
  | p :: ps => do
    let i ← localOf p.name
    let (locals, scope) ← parameterLocals (scope.bind p.name ⟨i, parameterType p⟩) ps
    return (⟨i, .of p⟩ :: locals, scope)

/-- A compiled ruleset. -/
structure CompiledRules where
  locals : List ParameterLocal
  body : List Statement
  /-- The functions that the rules use, in the order of their first use. -/
  used : List Function
  deriving Repr, Inhabited

namespace CompiledRules

/-- The state that the functions need. -/
def states (c : CompiledRules) : List State := c.used.filterMap (·.state)

/-- The lints that the compiled rules are free from. -/
private def allowed : List (List Token) :=
  ["unreachable_code", "unused_parens", "unused_variables", "clippy :: bool_comparison",
    "clippy :: needless_return", "clippy :: nonminimal_bool"].map code

/-- The type of what resolving an endpoint gives. -/
def resultType (runtime : Path) : List Token :=
  code "-> :: std :: result :: Result <" ++ runtime.extend ["Endpoint"] ++
    .leaf "," :: (runtime.extend ["ResolveEndpointError"] ++ [.leaf ">"])

/-- The function. -/
def function (names : Names) (c : CompiledRules) : Code.Function where
  header :=
    .leaf "#" :: squares [.leaf "allow", parens (Code.commas allowed)] ::
      .leaf "pub" :: parens [.leaf "crate"] :: [.leaf "fn"]
  name := ⟨"resolve_endpoint", false⟩
  signature :=
    let diagnostics := Code.ident names.diagnostics ::
      (code ": & mut" ++ names.runtime.extend ["DiagnosticCollector"])
    let states := c.states.map fun s => Code.ident s.field :: (code ": &" ++ s.typeTokens names.runtime)
    parens (Code.trailing (code "_params : & Params" :: diagnostics :: states)) ::
      resultType names.runtime
  body := c.locals.flatMap (·.tokens) ++ Statement.tokensOf names c.body

end CompiledRules

/-- Compiles a ruleset with the functions of a registry. -/
def compileRules (registry : Registry) (maxDepth : Nat) (r : Ruleset) : Except Failure CompiledRules :=
  if r.rules.isEmpty then .error ⟨.noRules, none⟩
  else do
    let work : Compiling (List ParameterLocal × List Statement) := do
      let (locals, scope) ← parameterLocals .empty r.parameters
      return (locals, ← level maxDepth scope r.rules)
    let ((locals, body), registry) ← work.run registry.reset
    return ⟨locals, body, registry.usedFunctions⟩

end Signpost.Resolver
