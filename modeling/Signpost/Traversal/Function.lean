import Signpost.Code.Item
import Signpost.Traversal.Compile

/-!
# Functions that evaluate a query

A function that takes the values that a query is evaluated on and returns an option of the query's
value.
-/

namespace Signpost.Traversal

open Code (Token Ident Path parens)

/-- A value that a query is evaluated on: under a name, or with its members in scope. -/
structure Root where
  name : Option String
  shape : ShapeId
  deriving DecidableEq, Repr, Inhabited

/-- A function. -/
structure Function where
  name : Ident
  query : Query.Expr
  params : List Binding
  returns : Ty
  steps : List Step
  result : Tail
  deriving Repr, Inhabited

/-- Whether a type can be written down: all names in it are identifiers. -/
def Ty.isNameable (t : Ty) : Bool := (t.tokens [] none).isSome

/-- The type, if it can be written down. -/
def nameable (t : Ty) : Except Cause Ty :=
  if t.isNameable then .ok t else .error (.unnameable t.describe)

/-- The parameter for a root after others. -/
def parameter (schema : Schema) (earlier : Scope) (root : Root) : Except Cause Binding := do
  let ident ← match root.name with
    | none =>
      if earlier.current?.isSome then throw (.invalid .secondGlobal)
      else pure ⟨"root", false⟩
    | some name =>
      match Ident.ofName? name with
      | some i => pure i
      | none => throw (.unnameable name)
  let b ← Binding.ofShape schema root.name ident root.shape
  let _ ← nameable b.ty
  return b

/-- The parameters for roots after others. -/
def parametersFrom (schema : Schema) (earlier : Scope) : List Root → Except Cause Scope
  | [] => .ok earlier
  | r :: rs => do
    let b ← parameter schema earlier r
    parametersFrom schema (earlier ++ [b]) rs

/-- The function of this name that evaluates a query on the roots. -/
def Settings.function (s : Settings) (name : String) (e : Query.Expr) (roots : List Root) :
    Except Failure Function := do
  let bare {α : Type} (x : Except Cause α) : Except Failure α := x.mapError (⟨·, none⟩)
  let ident ← bare <| match Ident.named? name with
    | some i => .ok i
    | none => .error (.invalid (.functionName name))
  let params ← bare (parametersFrom s.schema [] roots)
  let c ← s.run params e
  let returns ← bare (nameable (if c.ty.isOption then c.ty else .option c.ty))
  return ⟨ident, e, params, returns, c.steps, c.asOption⟩

namespace Function

/-- The lifetime of what the function borrows. -/
private def lifetime : String := "'a"

/-- The tokens of a type that can be written down. -/
private def typeTokens (model : Path) (t : Ty) : List Token :=
  (t.tokens model.tokens (some lifetime)).getD []

/-- The function as code, given the path to the data model. -/
def code (model : Path) (f : Function) : Code.Function where
  header := Code.doc (" Evaluates `" ++ f.query.render ++ "`.") ++ Code.code "pub fn"
  name := f.name
  signature :=
    let params := f.params.map fun b => Code.ident b.ident :: .leaf ":" :: typeTokens model b.ty
    .leaf "<" :: .leaf lifetime :: .leaf ">" :: parens (Code.commas params) :: .leaf "->" ::
      typeTokens model f.returns
  body := Step.tokensOf f.steps ++ f.result.tokens

end Function

end Signpost.Traversal
