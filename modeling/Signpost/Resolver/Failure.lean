import Signpost.Resolver.Ty
import Signpost.Rules.Ruleset

/-!
# Why rules cannot be compiled

The causes for which a ruleset has no resolver, or a test suite no tests. A failure carries the path of
the innermost rule that it lies in.
-/

namespace Signpost.Resolver

open Rules (Expr Call Condition ParameterType)

/-- A place that asks for a value of a certain type. -/
inductive Place where
  | url
  | message
  | header (name : String)
  | onlyArgument (call : Call)
  | firstArgument (call : Call)
  | secondArgument (call : Call)
  /-- An argument of a function of the registry, counted from 1. -/
  | argument (n : Nat) (call : Call)
  /-- A hole of a template, or a property. -/
  | value (e : Expr)

/-- The place in words. -/
def Place.render : Place → String
  | url => "the endpoint URL"
  | message => "the error message"
  | header name => "header `" ++ name ++ "`"
  | onlyArgument c => "the argument of `" ++ c.render ++ "`"
  | firstArgument c => "the first argument of `" ++ c.render ++ "`"
  | secondArgument c => "the second argument of `" ++ c.render ++ "`"
  | argument n c => "argument " ++ toString n ++ " of `" ++ c.render ++ "`"
  | value e => "`" ++ e.render ++ "`"

/-- A value of the wrong type. -/
inductive Mismatch where
  | notSet (place : Place)
  | wrongType (place : Place) (want found : Ty)
  /-- Asking whether a value is set that always is. -/
  | alwaysSet (call : Call)
  /-- Reading an attribute of a value that may not be set. -/
  | attributeOfOption (call : Call)
  | attributeOf (call : Call) (name : String) (found : Ty)
  | indexInto (call : Call) (found : Ty)
  | interpolation (e : Expr) (found : Ty)
  | condition (c : Condition) (found : Ty)
  /-- Alternatives of different types. -/
  | alternatives (call : Call) (first second : Ty)
  /-- A test that sets a parameter to a value of another type. -/
  | testParameter (test : Nat) (parameter : String) (want found : ParameterType)

/-- The name of a test. -/
def testName (n : Nat) : String := "test_" ++ toString n

/-- The mismatch in words. -/
def Mismatch.message : Mismatch → String
  | notSet p => p.render ++ " may not be set; check it with `isSet` first"
  | wrongType p want found => p.render ++ " must be a " ++ want.render ++ ", found a " ++ found.render
  | alwaysSet c => "`" ++ c.render ++ "` checks a value that is always set"
  | attributeOfOption c => "`" ++ c.render ++ "` reads a value that may not be set"
  | attributeOf c a t => "`" ++ c.render ++ "` reads attribute `" ++ a ++ "` of a " ++ t.render
  | indexInto c t => "`" ++ c.render ++ "` indexes into a " ++ t.render
  | interpolation e t => "can't interpolate `" ++ e.render ++ "`, a " ++ t.render ++ ", into a string"
  | condition c t =>
    "condition `" ++ c.render ++ "` is a " ++ t.render ++ ", not a boolean or optional value"
  | alternatives c a b =>
    "the arguments of `" ++ c.render ++ "` must have the same type, found a " ++ a.render ++
      " and a " ++ b.render
  | testParameter n p want found =>
    "test " ++ testName n ++ " sets `" ++ p ++ "`, a " ++ want.name ++ ", to a " ++ found.name

/-- An argument that makes no sense. -/
inductive BadArgument where
  | arity (function : String) (want found : Nat)
  /-- The path of an attribute that is put together from values. -/
  | computedPath (call : Call)
  | noPath (call : Call)
  | malformedPath (call : Call)
  | noAttribute (record name : String)
  | unknownParameter (test : Nat) (parameter : String)

/-- The reason in words. -/
def BadArgument.message : BadArgument → String
  | arity f n k => "`" ++ f ++ "` takes " ++ toString n ++ " argument(s), found " ++ toString k
  | computedPath c => "the path of `" ++ c.render ++ "` must not interpolate values"
  | noPath c => "`getAttr` takes a value and a string path, found `" ++ c.render ++ "`"
  | malformedPath c => "invalid attribute path in `" ++ c.render ++ "`"
  | noAttribute r a => "a " ++ r ++ " has no attribute `" ++ a ++ "`"
  | unknownParameter n p => "test " ++ testName n ++ " sets unknown parameter `" ++ p ++ "`"

/-- What is not supported. -/
inductive Unsupported where
  | nesting (limit : Nat)
  | arrayLiteral
  | recordLiteral
  | pathPastIndex
  /-- A property that is a record of this name. -/
  | recordProperty (name : String)
  | alternativesOf (ty : Ty)
  deriving DecidableEq, Repr

/-- What is not supported, in the plural. -/
def Unsupported.subject : Unsupported → String
  | nesting n => "Rule trees nested deeper than " ++ toString n ++ " levels"
  | arrayLiteral => "Array literals outside endpoint properties"
  | recordLiteral => "Record literals outside endpoint properties"
  | pathPastIndex => "Attribute paths continuing past an index"
  | recordProperty name => "Endpoint properties holding a " ++ name
  | alternativesOf t => "`coalesce` arguments of type " ++ t.render

/-- Why a ruleset cannot be compiled. -/
inductive Cause where
  | unknownFunction (name : String)
  | unknownReference (name : String)
  | mismatch (m : Mismatch)
  | badArgument (b : BadArgument)
  | unsupported (u : Unsupported)
  | noRules
  /-- A name that no identifier can be made of. -/
  | unnameable (name : String)

namespace Cause

/-- Whether the cause lies with whoever asks for the resolver, and not with the rules. -/
def isDefect : Cause → Bool
  | noRules => true
  | _ => false

/-- The cause in one line. -/
def message : Cause → String
  | unknownFunction n => "unknown function `" ++ n ++ "`"
  | unknownReference n => "unknown reference `" ++ n ++ "`"
  | mismatch m => "type mismatch: " ++ m.message
  | badArgument b => "invalid argument: " ++ b.message
  | unsupported u => u.subject ++ " are not supported"
  | noRules => "the ruleset has no rules"
  | unnameable n => "`" ++ n ++ "` names no identifier"

end Cause

/-- Where a rule is: the place among the rules of the ruleset, then among the rules of each tree. -/
abbrev RulePath := List Nat

/-- The path of a rule as text. -/
def RulePath.render (p : RulePath) : String :=
  ".".intercalate (p.map fun i => "rules[" ++ toString i ++ "]")

/-- A cause and the innermost rule that it lies in. -/
structure Failure where
  cause : Cause
  rule : Option RulePath

/-- The failure with a rule that it lies in, unless an inner one is known. -/
def Failure.inRule (path : RulePath) (f : Failure) : Failure :=
  { f with rule := f.rule.or (some path) }

/-- The failure in words. -/
def Failure.render (f : Failure) : String :=
  f.cause.message ++ (f.rule.map fun p => "\nRule: " ++ p.render).getD ""

end Signpost.Resolver
