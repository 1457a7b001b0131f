import Signpost.Traversal.Call
import Signpost.Traversal.Projection

/-!
# Compiling queries

`compile` turns a query into the steps that compute it on the values in scope. Absent members make the
steps return, except inside projections, which leave the element out. A query that is nested too
deeply is not compiled. The value of each query inside it is shown to an observer (`compileWith`), which
for `compile` itself lets everything pass.
-/

namespace Signpost.Traversal

/-- What queries are compiled for. -/
structure Settings where
  schema : Schema
  /-- The greatest number of queries that may be one inside the other. -/
  maxDepth : Nat
  /-- Whether each value is followed by a remark on what it is. -/
  annotate : Bool
  deriving Repr, Inhabited

namespace Settings

/-- The settings for a schema where nothing else is said. -/
def ofSchema (schema : Schema) : Settings := ⟨schema, 64, false⟩

/-- The value with a remark on the query it is of. -/
def remark (s : Settings) (e : Query.Expr) (c : Computed) : Computed :=
  if s.annotate then { c with steps := c.steps ++ [.note (c.name.text ++ " = " ++ e.render)] } else c

/-- What happens once the value of a query is compiled; it may fail. -/
abbrev Observer := Query.Expr → Computed → Naming Unit

section

variable (s : Settings) (observe : Observer)

mutual

/-- The value of a query in a scope, `depth` levels inside others. Options are retained where the value
may be absent without the steps returning. -/
def compileWith (scope : Scope) (depth : Nat) (retain : Bool) (e : Query.Expr) : Naming Computed := do
  if s.maxDepth ≤ depth then throw (.unsupported (.nesting s.maxDepth))
  let c ← match e with
    | .field name => scope.field s.schema retain name
    | .sub l r => do
      let left ← compileWith scope (depth + 1) retain l
      apply (fun b => compileWith [b] (depth + 1) retain r) left
    | .pipe l r => do
      let left ← (← compileWith scope (depth + 1) retain l).unwrap
      apply (fun b => compileWith [b] (depth + 1) retain r) left
    | .compare op l r => do
      let left ← compileWith scope (depth + 1) false l
      comparison op left (← compileWith scope (depth + 1) false r)
    | .and l r => do
      let left ← condition "&&" (← compileWith scope (depth + 1) false l)
      connective true left (← condition "&&" (← compileWith scope (depth + 1) false r))
    | .or l r => do
      let left ← condition "||" (← compileWith scope (depth + 1) false l)
      connective false left (← condition "||" (← compileWith scope (depth + 1) false r))
    | .not e => do negation (← compileWith scope (depth + 1) false e)
    | .literal l => literal l
    | .list es => do listOf (← compileAllWith scope (depth + 1) retain es)
    | .call name args =>
      match Builtin.ofName? name with
      | none => throw (.unsupported (.function name))
      | some f =>
        if args.length ≠ f.arity then throw (.invalid (.arity name f.arity args.length))
        else do f.call s.schema name (← compileAllWith scope (depth + 1) false args)
    | .project l r => do
      let left ← compileWith scope (depth + 1) false l
      projection (if r.isCurrent then none else some fun b => compileWith [b] (depth + 1) true r) left
    | .filter l r c => do
      let left ← compileWith scope (depth + 1) false l
      filtered c (fun b => compileWith [b] (depth + 1) false c)
        (if r.isCurrent then none else some fun b => compileWith [b] (depth + 1) true r) left
    | .projectValues l r => do
      let left ← compileWith scope (depth + 1) false l
      valueProjection s.schema
        (if r.isCurrent then none else some fun b => compileWith [b] (depth + 1) true r) left
    | .flatten e => do flattened (← compileWith scope (depth + 1) false e)
    | .current => scope.current retain
    | .index _ _ => throw (.unsupported .index)
    | .slice _ _ _ _ => throw (.unsupported .slice)
    | .hash _ => throw (.unsupported .hash)
    | .reference _ => throw (.unsupported .reference)
  observe e c
  return s.remark e c

/-- The values of queries in order. -/
def compileAllWith (scope : Scope) (depth : Nat) (retain : Bool) (es : List Query.Expr) :
    Naming (List Computed) :=
  match es with
  | [] => return []
  | e :: es => do
    let c ← compileWith scope depth retain e
    return c :: (← compileAllWith scope depth retain es)

end

end

/-- The value of a query in a scope, where nothing happens with the values of others inside it. -/
def compile (s : Settings) : Scope → Nat → Bool → Query.Expr → Naming Computed :=
  s.compileWith fun _ _ => return

/-- The value of a query in a scope, observed on the way. -/
def runWith (s : Settings) (observe : Observer) (scope : Scope) (e : Query.Expr) :
    Except Failure Computed :=
  match (s.compileWith observe scope 0 false e).run ⟨0⟩ with
  | (.ok c, _) => .ok c
  | (.error cause, _) => .error ⟨cause, some e.render⟩

/-- The value of a query in a scope. -/
def run (s : Settings) : Scope → Query.Expr → Except Failure Computed := s.runWith fun _ _ => return

end Settings

end Signpost.Traversal
