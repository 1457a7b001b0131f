import Signpost.Endpoint.Basic
import Signpost.Resolver.Datum
import Signpost.Resolver.Parameters

/-!
# Running resolvers

What emitted code does when it runs: the value that a computation gives on locals, the endpoint that is
built, and which statement returns. Statements are run for any way in which their values come about
(`Meaning`); `standardMeaning` is how they do with the standard functions.
-/

namespace Signpost.Resolver

open Code (Ident)
open Rules (Parameter ParameterValue)

/-- The locals in scope with what they hold, the innermost first. -/
abbrev Locals := List (Ident × Datum)

/-- How a value comes about from locals. -/
abbrev Meaning := Locals → Value → Running Datum

/-! ### Values -/

/-- A layout with texts in its places. -/
def fill : List Char → List String → Option (List Char)
  | [], [] => some []
  | [], _ :: _ => none
  | '{' :: '{' :: cs, ss => (fill cs ss).map ('{' :: ·)
  | '}' :: '}' :: cs, ss => (fill cs ss).map ('}' :: ·)
  | '{' :: '}' :: cs, s :: ss => (fill cs ss).map (s.toList ++ ·)
  | c :: cs, ss => if c = '{' ∨ c = '}' then none else (fill cs ss).map (c :: ·)

mutual

/-- What a value is on locals, given what functions do. -/
def Value.run (call : String → List Datum → Running Datum) (locals : Locals) : Value → Running Datum
  | .local i => orStuck (locals.lookup i)
  | .string s => return .string s
  | .bool b => return .bool b
  | .int n => return .int n
  | .format layout args => do
    let texts ← orStuck ((← Value.runAll call locals args).mapM Datum.text?)
    return .string (String.ofList (← orStuck (fill layout.toList texts)))
  | .toOwned v | .asStr v => do
    match ← v.run call locals with
    | .string s => return .string s
    | _ => stuck
  | .isSome v => do
    match ← v.run call locals with
    | .absent => return .bool false
    | .present _ => return .bool true
    | _ => stuck
  | .not v => do
    match ← v.run call locals with
    | .bool b => return .bool !b
    | _ => stuck
  | .equal a b => do
    let x ← a.run call locals
    let y ← b.run call locals
    return .bool (← orStuck (x.equal? y))
  | .read v accessor => do orStuck ((← v.run call locals).read? accessor.name)
  | .item v i => do
    match ← v.run call locals with
    | .strings ss => return .ofOption (ss[i]?.map .string)
    | _ => stuck
  | .or a b => do
    let x ← a.run call locals
    let y ← b.run call locals
    match x with
    | .present _ => return x
    | .absent => return y
    | _ => stuck
  | .unwrapOr a b | .ownedOr a b => do
    let x ← a.run call locals
    let y ← b.run call locals
    match x with
    | .present d => return d
    | .absent => return y
    | _ => stuck
  | .first a b => do
    let x ← a.run call locals
    let _ ← b.run call locals
    return x
  | .call f args => do call f.id (← Value.runAll call locals args)

/-- What values are on locals, in order. -/
def Value.runAll (call : String → List Datum → Running Datum) (locals : Locals) :
    List Value → Running (List Datum)
  | [] => return []
  | v :: vs => do
    let d ← v.run call locals
    return d :: (← Value.runAll call locals vs)

end

/-- How values come about with the standard functions. -/
def standardMeaning (partitions : PartitionTable) : Meaning := Value.run (Library.run partitions)

/-! ### Endpoints -/

/-- A string or a truth value as a document. -/
def Datum.document? : Datum → Option Signpost.Document
  | .string s => some (.string s)
  | .bool b => some (.bool b)
  | .int n => some (.number n)
  | .strings ss => some (.array (ss.map .string))
  | _ => none

/-- What a string is. -/
def runString (meaning : Meaning) (locals : Locals) (v : Value) : Running String := do
  match ← meaning locals v with
  | .string s => return s
  | _ => stuck

mutual

/-- The document that is computed on locals. -/
def Document.run (meaning : Meaning) (locals : Locals) : Document → Running Signpost.Document
  | .int n => return .number n
  | .array items => return .array (← Document.runAll meaning locals items)
  | .record fields => return .object (Table.ofList (← Document.runFields meaning locals fields))
  | .value v | .number v | .strings v => do orStuck (← meaning locals v).document?

/-- Documents in order. -/
def Document.runAll (meaning : Meaning) (locals : Locals) :
    List Document → Running (List Signpost.Document)
  | [] => return []
  | d :: ds => do
    let d ← d.run meaning locals
    return d :: (← Document.runAll meaning locals ds)

/-- Fields in order. -/
def Document.runFields (meaning : Meaning) (locals : Locals) :
    List (String × Document) → Running (List (String × Signpost.Document))
  | [] => return []
  | (name, d) :: fs => do
    let d ← d.run meaning locals
    return (name, d) :: (← Document.runFields meaning locals fs)

end

/-- The endpoint that is built on locals: its URL, then its headers, then its properties. -/
def Endpoint.run (meaning : Meaning) (locals : Locals) (e : Endpoint) : Running Signpost.Endpoint := do
  let built := Signpost.Endpoint.empty.setUrl (← runString meaning locals e.url)
  let built ← e.headers.foldlM (fun built (name, v) =>
    return built.addHeader name (← runString meaning locals v)) built
  e.properties.foldlM (fun built (name, d) =>
    return built.setProperty name (← d.run meaning locals)) built

/-! ### Statements -/

/-- What rules decide. -/
inductive Verdict where
  | endpoint (e : Signpost.Endpoint)
  | error (message : String)
  /-- No rule matches. -/
  | noMatch
  deriving Repr, Inhabited

mutual

/-- What a statement returns, if it does. -/
def Statement.run (meaning : Meaning) (locals : Locals) : Statement → Running (Option Verdict)
  | .ifSome i v body => do
    match ← meaning locals v with
    | .present d => Statement.runAll meaning ((i, d) :: locals) body
    | .absent => return none
    | _ => stuck
  | .ifTrue v body => do
    match ← meaning locals v with
    | .bool true => Statement.runAll meaning locals body
    | .bool false => return none
    | _ => stuck
  | .ifBound i v body => do
    match ← meaning locals v with
    | .bool true => Statement.runAll meaning ((i, .bool true) :: locals) body
    | .bool false => return none
    | _ => stuck
  | .bind i v _ body => do
    Statement.runAll meaning ((i, ← meaning locals v) :: locals) body
  | .endpoint e => return some (.endpoint (← e.run meaning locals))
  | .error v => return some (.error (← runString meaning locals v))
  | .noMatch => return some .noMatch

/-- What the first statement that returns does return. -/
def Statement.runAll (meaning : Meaning) (locals : Locals) : List Statement → Running (Option Verdict)
  | [] => return none
  | s :: ss => do
    match ← s.run meaning locals with
    | some verdict => return some verdict
    | none => Statement.runAll meaning locals ss

end

/-! ### Parameters -/

/-- A required parameter that was not given, by the name of its field. -/
structure MissingParameter where
  field : String
  deriving DecidableEq, Repr

/-- The fault in words. -/
def MissingParameter.message (m : MissingParameter) : String :=
  "a required field was missing: `" ++ m.field ++ "`"

/-- The value that a parameter takes: the one given, or its default. -/
def parameterValue (p : Parameter) (given : Option ParameterValue) :
    Except MissingParameter (Option ParameterValue) :=
  let field := ((Ident.ofName? p.name).map (·.name)).getD p.fieldName
  match given.or p.default with
  | some v => .ok (some v)
  | none => if p.required then .error ⟨field⟩ else .ok none

/-- Parameters with the values that they take; of those missing the first one is reported. -/
def fillParameters (ps : List Parameter) (given : Table String ParameterValue) :
    Except MissingParameter (List (Parameter × Option ParameterValue)) :=
  ps.mapM fun p => return (p, ← parameterValue p (given.get? p.name))

/-- What a value of a parameter is to emitted code. -/
def Datum.ofValue : ParameterValue → Datum
  | .string s => .string s
  | .bool b => .bool b
  | .stringArray ss => .strings ss

/-- What the field of a parameter holds: an option if the parameter is not set in every case. -/
def Datum.ofParameter (p : Parameter) (v : Option ParameterValue) : Option Datum :=
  let d := v.map Datum.ofValue
  if p.isAlwaysSet then d else some (.ofOption d)

/-- The locals that read parameters. -/
def CompiledRules.start (c : CompiledRules) (args : List (Parameter × Option ParameterValue)) :
    Option Locals := do
  let held ← args.mapM fun (p, v) => return (← Ident.ofName? p.name, ← Datum.ofParameter p v)
  let locals ← c.locals.mapM fun l => (held.lookup l.ident).map (l.ident, ·)
  return locals.reverse

/-! ### Resolvers -/

/-- What resolving gives: an endpoint, or an error with the last report of a check that failed. -/
structure Resolved where
  verdict : Verdict
  source : Option String
  deriving Repr, Inhabited

/-- What compiled rules decide for values of parameters; nothing if they get stuck. -/
def CompiledRules.resolve (partitions : PartitionTable) (c : CompiledRules)
    (args : List (Parameter × Option ParameterValue)) : Option Resolved := do
  let locals ← c.start args
  let (verdict, diagnostics) ←
    (Statement.runAll (standardMeaning partitions) locals c.body).run .empty
  return ⟨← verdict, diagnostics.last⟩

end Signpost.Resolver
