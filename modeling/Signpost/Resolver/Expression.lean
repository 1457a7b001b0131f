import Signpost.Resolver.Attribute

/-!
# Compiling expressions

`compile` turns an expression of a rule into a value, and `document` a property into a document. Some
functions are built in (`Intrinsic`); all others are looked up in the registry.
-/

namespace Signpost.Resolver

open Rules (Expr Part Template Call)

/-- A function that is built in. -/
inductive Intrinsic where
  | isSet
  | not
  | booleanEquals
  | stringEquals
  | getAttr
  | coalesce
  deriving DecidableEq, Repr

namespace Intrinsic

/-- The built-in function of a name. -/
def ofName? : String → Option Intrinsic
  | "isSet" => some isSet
  | "not" => some not
  | "booleanEquals" => some booleanEquals
  | "stringEquals" => some stringEquals
  | "getAttr" => some getAttr
  | "coalesce" => some coalesce
  | _ => none

/-- The number of arguments that a built-in function takes. -/
def arity : Intrinsic → Nat
  | isSet | not => 1
  | booleanEquals | stringEquals | getAttr | coalesce => 2

end Intrinsic

/-- Whether two values of a type are equal. -/
def equality (call : Call) (want : Ty) (a b : Compiled) : Compiling Compiled := do
  a.expect (.firstArgument call) want
  b.expect (.secondArgument call) want
  return .plain (.equal a.value b.value) .bool

/-- The first of two values that is set. The result may be absent only if both may be; both are
computed. -/
def alternatives (call : Call) (a b : Compiled) : Compiling Compiled :=
  let ty := a.ty.unwrapOption
  if ty ≠ b.ty.unwrapOption then fail (.mismatch (.alternatives call a.ty b.ty))
  else if ty.isRecord then fail (.unsupported (.alternativesOf ty))
  else
    match a.ty.isOption, b.ty.isOption with
    | true, true => return .plain (.or a.value b.value) a.ty
    | true, false =>
      if b.isOwned then return ⟨.ownedOr a.value b.value, .string, true⟩
      else return .plain (.unwrapOr a.value b.value) b.ty
    | false, _ => return ⟨.first a.value b.value, a.ty, a.isOwned⟩

/-- A built-in function of computed arguments; reading attributes is not among them. -/
def Intrinsic.apply (f : Intrinsic) (call : Call) (args : List Compiled) : Compiling Compiled :=
  match f, args with
  | .isSet, [a] =>
    let a := a.view
    if a.ty.isOption then return .plain (.isSome a.value) .bool
    else fail (.mismatch (.alwaysSet call))
  | .not, [a] => do
    let a := a.view
    a.expect (.onlyArgument call) .bool
    return .plain (.not a.value) .bool
  | .booleanEquals, [a, b] => equality call .bool a.view b.view
  | .stringEquals, [a, b] => equality call .string a.view b.view
  | .coalesce, [a, b] => alternatives call a b
  | f, args => fail (.badArgument (.arity call.name f.arity args.length))

/-- A call of a function of the registry. -/
def Function.apply (f : Function) (args : List Value) : Compiled :=
  ⟨.call f args, f.returns, f.returnsOwned && f.returns = .string⟩

/-- The local that a name refers to. -/
def reference (scope : Scope) (name : String) : Compiling Compiled :=
  match scope.get? name with
  | some b => return .plain (.local b.ident) b.ty
  | none => fail (.unknownReference name)

/-- Text of a layout, in which braces are doubled. -/
def layoutText (s : String) : String :=
  String.ofList (s.toList.flatMap fun c =>
    if c = '{' then ['{', '{'] else if c = '}' then ['}', '}'] else [c])

/-- A place of a layout. -/
def layoutHole : String := "\x7b\x7d"

/-- A value that can be put into a string. -/
def displayed (e : Expr) (c : Compiled) : Compiling Value :=
  if c.ty.isOption then fail (.mismatch (.notSet (.value e)))
  else if !c.ty.isDisplayable then fail (.mismatch (.interpolation e c.ty))
  else return c.view.value

mutual

/-- The value of an expression as it comes about: calls may give a string of its own. -/
def compile (scope : Scope) : Expr → Compiling Compiled
  | .bool b => return .plain (.bool b) .bool
  | .int n => return .plain (.int n) .int
  | .array _ => fail (.unsupported .arrayLiteral)
  | .record _ => fail (.unsupported .recordLiteral)
  | .ref name => reference scope name
  | .string t =>
    match Template.plainText? t with
    | some s => return .plain (.string s) .string
    | none => do
      let (layout, args) ← compileParts scope t
      return ⟨.format layout args, .string, true⟩
  | .call name args =>
    match Intrinsic.ofName? name with
    | some .getAttr =>
      match args with
      | [target, .string path] =>
        match Template.plainText? path with
        | none => fail (.badArgument (.computedPath ⟨name, args⟩))
        | some path => do getAttr ⟨name, args⟩ path.toList (← compile scope target).view
      | _ => fail (.badArgument (.noPath ⟨name, args⟩))
    | some f => do f.apply ⟨name, args⟩ (← compileAll scope args)
    | none => do
      let f ← function name
      if f.parameters.length ≠ args.length then
        fail (.badArgument (.arity name f.parameters.length args.length))
      else return f.apply (← compileArguments scope ⟨name, args⟩ 1 f.parameters args)

/-- The values of expressions in order. -/
def compileAll (scope : Scope) : List Expr → Compiling (List Compiled)
  | [] => return []
  | e :: es => do
    let c ← compile scope e
    return c :: (← compileAll scope es)

/-- The arguments of a call from number `n` on, which have to be of these types. -/
def compileArguments (scope : Scope) (call : Call) (n : Nat) (wants : List Ty) :
    List Expr → Compiling (List Value)
  | [] => return []
  | e :: es =>
    match wants with
    | [] => return []
    | want :: wants => do
      let c := (← compile scope e).view
      c.expect (.argument n call) want
      return c.value :: (← compileArguments scope call (n + 1) wants es)

/-- The layout of the parts of a template, and the values for its places. -/
def compileParts (scope : Scope) : List Part → Compiling (String × List Value)
  | [] => return ("", [])
  | .text s :: ps => do
    let (layout, args) ← compileParts scope ps
    return (layoutText s ++ layout, args)
  | .hole e :: ps => do
    let v ← displayed e (← compile scope e)
    let (layout, args) ← compileParts scope ps
    return (layoutHole ++ layout, v :: args)

end

/-- Whether an expression is a constant or a template. -/
def isLiteral : Expr → Bool
  | .ref _ | .call _ _ => false
  | _ => true

/-- The value of an expression that leaves the resolver. -/
def compileOwned (scope : Scope) (e : Expr) : Compiling Compiled := do
  let c ← compile scope e
  return if isLiteral e then c else c.own

/-- The value of an expression that leaves the resolver and has to be a string. -/
def compileString (scope : Scope) (place : Place) (e : Expr) : Compiling Value := do
  let c ← compileOwned scope e
  c.expect place .string
  return c.value

/-- A computed value as a document. -/
def Compiled.toDocument (e : Expr) (c : Compiled) : Compiling Document :=
  match c.ty with
  | .string | .bool => return .value c.value
  | .int => return .number c.value
  | .stringArray => return .strings c.value
  | .record name _ => fail (.unsupported (.recordProperty name))
  | .option _ => fail (.mismatch (.notSet (.value e)))

mutual

/-- A property of an endpoint. -/
def document (scope : Scope) : Expr → Compiling Document
  | .int n => return .int n
  | .array items => return .array (← documents scope items)
  | .record fields => return .record (← documentFields scope fields)
  | e => do (← compileOwned scope e).toDocument e

/-- Documents in order. -/
def documents (scope : Scope) : List Expr → Compiling (List Document)
  | [] => return []
  | e :: es => do
    let d ← document scope e
    return d :: (← documents scope es)

/-- The fields of a record in order. -/
def documentFields (scope : Scope) : List (String × Expr) → Compiling (List (String × Document))
  | [] => return []
  | (name, e) :: fs => do
    let d ← document scope e
    return (name, d) :: (← documentFields scope fs)

end

end Signpost.Resolver
