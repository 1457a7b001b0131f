import Signpost.Resolver.Expression
import Signpost.Resolver.Statement

/-!
# Compiling rules

Rules become statements in their order, and the conditions of a rule become checks one inside the
other. Where every rule of a level may fail to match, the level ends in an error, so that statements
always return.
-/

namespace Signpost.Resolver

open Rules (Rule Outcome Condition EndpointTemplate)

/-- The local for a name. -/
def localOf (name : String) : Compiling Code.Ident :=
  match Code.Ident.ofName? name with
  | some i => return i
  | none => fail (.unnameable name)

/-- The local that a condition shows to be set, and the scope in which it is: this is what a condition
does that only asks whether a name is set whose value may be absent. -/
def narrowing (scope : Scope) (c : Condition) : Compiling (Option (Code.Ident × Scope)) :=
  match c.call.name, c.assign, c.call.args with
  | "isSet", none, [.ref name] =>
    match scope.get? name with
    | none => fail (.unknownReference name)
    | some b =>
      match b.ty with
      | .option t => return some (b.ident, scope.bind name ⟨b.ident, t⟩)
      | _ => return none
  | _, _, _ => return none

/-- What follows conditions, compiled in the scope that they lead to. -/
abbrev Rest := Scope → Compiling (List Statement)

/-- The check that a condition amounts to, around what follows. -/
def check (scope : Scope) (c : Condition) (rest : Rest) : Compiling (List Statement) := do
  match ← narrowing scope c with
  | some (i, inner) => return [.ifSome i (.local i) (← rest inner)]
  | none =>
    let v ← compile scope c.call.toExpr
    match c.assign, v.ty with
    | none, .option _ => return [.ifTrue (.isSome v.value) (← rest scope)]
    | none, .bool => return [.ifTrue v.value (← rest scope)]
    | none, ty => fail (.mismatch (.condition c ty))
    | some name, .option ty => do
      let i ← localOf name
      return [.ifSome i v.value (← rest (scope.bind name ⟨i, ty⟩))]
    | some name, .bool => do
      let i ← localOf name
      return [.ifBound i v.value (← rest (scope.bind name ⟨i, .bool⟩))]
    | some name, ty => do
      let i ← localOf name
      return [.bind i v.value v.isOwned (← rest (scope.bind name ⟨i, ty⟩))]

/-- The checks of conditions, one inside the other. -/
def checks (rest : Rest) : List Condition → Rest
  | [], scope => rest scope
  | c :: cs, scope => check scope c (checks rest cs)

/-- The values of a header in order. -/
def headerValues (scope : Scope) (name : String) (values : List Rules.Expr) :
    Compiling (List (String × Value)) :=
  values.mapM fun e => return (name, ← compileString scope (.header name) e)

/-- An endpoint: its URL, then its headers, then its properties. -/
def endpoint (scope : Scope) (e : EndpointTemplate) : Compiling Endpoint := do
  let url ← compileString scope .url e.url
  let headers ← e.headers.mapM fun (name, values) => headerValues scope name values
  return ⟨url, headers.flatten, ← documentFields scope e.properties⟩

/-- Gives a failure the rule that it lies in. -/
def inRule {α : Type} (path : RulePath) (m : Compiling α) : Compiling α :=
  fun registry => (m registry).mapError (·.inRule path)

mutual

/-- The statements of a rule at a path. -/
def rule (maxDepth : Nat) (scope : Scope) (path : RulePath) : Rule → Compiling (List Statement)
  | .mk _ conditions o =>
    inRule path (checks (fun inner => outcome maxDepth inner path o) conditions scope)

/-- The statements of what a matching rule leads to. -/
def outcome (maxDepth : Nat) (scope : Scope) (path : RulePath) : Outcome → Compiling (List Statement)
  | .endpoint e => return [.endpoint (← endpoint scope e)]
  | .error message => return [.error (← compileString scope .message message)]
  | .tree rules =>
    if maxDepth < path.length then fail (.unsupported (.nesting maxDepth))
    else levelFrom maxDepth scope path 0 true rules

/-- The statements of the rules of a level from number `i` on; `isOpen` says whether the rule before
may fail to match. -/
def levelFrom (maxDepth : Nat) (scope : Scope) (path : RulePath) (i : Nat) (isOpen : Bool) :
    List Rule → Compiling (List Statement)
  | [] => return if isOpen then [.noMatch] else []
  | r :: rs => do
    let statements ← rule maxDepth scope (path ++ [i]) r
    return statements ++ (← levelFrom maxDepth scope path (i + 1) (!r.conditions.isEmpty) rs)

end

/-- The statements of the rules of a ruleset. -/
def level (maxDepth : Nat) (scope : Scope) (rules : List Rule) : Compiling (List Statement) :=
  levelFrom maxDepth scope [] 0 true rules

end Signpost.Resolver
