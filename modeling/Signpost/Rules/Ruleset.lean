import Signpost.Rules.Expr
import Signpost.Table
import Signpost.Naming.Words

/-!
# Rulesets

A ruleset has parameters and rules. A rule has conditions, which may give their result a name, and an
outcome: an endpoint, an error, or more rules.
-/

namespace Signpost.Rules

/-- The types of parameters. -/
inductive ParameterType where
  | string
  | boolean
  | stringArray
  deriving DecidableEq, Repr, Inhabited

/-- The name of the type. -/
def ParameterType.name : ParameterType → String
  | string => "String"
  | boolean => "Boolean"
  | stringArray => "StringArray"

/-- A value for a parameter. -/
inductive ParameterValue where
  | string (s : String)
  | bool (b : Bool)
  | stringArray (items : List String)
  deriving DecidableEq, Repr, Inhabited

/-- The type of the value. -/
def ParameterValue.type : ParameterValue → ParameterType
  | string _ => .string
  | bool _ => .boolean
  | stringArray _ => .stringArray

/-- Since when and why a parameter should not be used. -/
structure Deprecation where
  message : Option String
  since : Option String
  deriving DecidableEq, Repr

/-- A parameter of a ruleset. -/
structure Parameter where
  name : String
  type : ParameterType
  required : Bool
  default : Option ParameterValue
  /-- The setting that supplies the parameter. -/
  builtIn : Option String
  documentation : Option String
  deprecated : Option Deprecation
  deriving DecidableEq, Repr

namespace Parameter

/-- Whether the parameter has a value in every case. -/
def isAlwaysSet (p : Parameter) : Bool := p.default.isSome || p.required

/-- The name of the field that holds the parameter. -/
def fieldName (p : Parameter) : String := Naming.snakeCase p.name

end Parameter

/-- A condition; its result may be given a name for the rest of the rule. -/
structure Condition where
  call : Call
  assign : Option String

/-- The text of a condition. -/
def Condition.render (c : Condition) : String :=
  match c.assign with
  | some name => name ++ " = " ++ c.call.render
  | none => c.call.render

/-- The endpoint that a rule leads to. -/
structure EndpointTemplate where
  url : Expr
  headers : Table String (List Expr)
  properties : Table String Expr

mutual

/-- A rule. -/
inductive Rule where
  | mk (documentation : Option String) (conditions : List Condition) (outcome : Outcome)

/-- What a rule leads to when its conditions hold. -/
inductive Outcome where
  | endpoint (e : EndpointTemplate)
  | error (message : Expr)
  | tree (rules : List Rule)

end

namespace Rule

def documentation : Rule → Option String
  | mk d _ _ => d

def conditions : Rule → List Condition
  | mk _ cs _ => cs

def outcome : Rule → Outcome
  | mk _ _ o => o

end Rule

/-- The name of the kind of outcome. -/
def Outcome.kind : Outcome → String
  | endpoint _ => "endpoint"
  | error _ => "error"
  | tree _ => "tree"

/-- A ruleset. -/
structure Ruleset where
  version : String
  parameters : List Parameter
  rules : List Rule

/-- The parameter of a name. -/
def Ruleset.parameter? (r : Ruleset) (name : String) : Option Parameter :=
  r.parameters.find? (·.name = name)

end Signpost.Rules
