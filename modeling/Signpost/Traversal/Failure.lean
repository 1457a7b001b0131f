import Signpost.Traversal.ValueShape
import Signpost.Traversal.Ty
import Signpost.Query.Printer

/-!
# Why a query cannot be compiled

The causes for which a query has no traversal. A query may use what traversals do not support, or make
no sense of the schema; the remaining causes lie with whoever asks for the traversal.
-/

namespace Signpost.Traversal

/-- What traversals do not support. -/
inductive Unsupported where
  /-- Queries nested deeper than the limit. -/
  | nesting (limit : Nat)
  | index
  | slice
  | hash
  | reference
  | function (name : String)
  /-- Shapes of this kind. -/
  | shape (kind : String)
  /-- A comparison of the order of such values. -/
  | ordering (values : String)
  /-- A comparison of values of these kinds. -/
  | comparison (left right : String)
  /-- An operand of the operator that is no boolean. -/
  | operand (operator : String)
  /-- A literal of this description. -/
  | literal (description : String)
  | emptyList
  | mixedList
  /-- The values of a structure. -/
  | structureValues
  deriving DecidableEq, Repr

/-- What is not supported, in the plural. -/
def Unsupported.subject : Unsupported → String
  | nesting n => "Expressions nested deeper than " ++ toString n ++ " levels"
  | index => "Index expressions"
  | slice => "Slice expressions"
  | hash => "Multi-select hash expressions"
  | reference => "Expression type expressions"
  | function name => "The `" ++ name ++ "` function"
  | shape kind => "`" ++ kind ++ "` shapes"
  | ordering values => "Ordering comparisons of " ++ values
  | comparison l r => "Comparisons between " ++ l ++ " and " ++ r
  | operand op => "Non-boolean operands of `" ++ op ++ "`"
  | literal d => d ++ " literals"
  | emptyList => "Empty multi-select lists"
  | mixedList => "Multi-select lists with mixed types"
  | structureValues => "Object projections over structures"

/-- What makes no sense of the schema. -/
inductive Senseless where
  | unknownShape (id : ShapeId)
  | noMember (id : ShapeId) (member : String)
  /-- A field of a value that has no fields. -/
  | fieldOf (shape : ValueShape) (field : String)
  /-- A name that is in scope for something other than an object. -/
  | boundTo (shape : ValueShape) (name : String)
  | notInScope (name : String)
  /-- The current value where there is none. -/
  | noCurrent
  | projection (shape : ValueShape)
  | valuesOf (shape : ValueShape)
  | condition (shape : ValueShape) (condition : Query.Expr)
  | arity (function : String) (expected found : Nat)
  | lengthOf (shape : ValueShape)
  | keysOf (shape : ValueShape)
  /-- Searching for a value that is nowhere searched for. -/
  | searchFor (shape : ValueShape)
  /-- Searching a string for something other than a string. -/
  | searchTextFor (shape : ValueShape)
  | searchArrayFor (member shape : ValueShape)
  /-- Searching a value that cannot be searched. -/
  | searchIn (shape : ValueShape)
  /-- Iterating over a value of a type that is no list. -/
  | iteration (ty : Ty)
  | functionName (name : String)
  | secondGlobal
  deriving Repr

/-- The reason in words. -/
def Senseless.message : Senseless → String
  | unknownShape id => "unknown shape `" ++ id.text ++ "`"
  | noMember id m => "`" ++ id.text ++ "` has no member `" ++ m ++ "`"
  | fieldOf s f => "cannot access field `" ++ f ++ "` of a " ++ s.render
  | boundTo s n => "`" ++ n ++ "` is bound to a " ++ s.render ++ ", not an object"
  | notInScope n => "`" ++ n ++ "` is not in scope"
  | noCurrent => "`@` has no global binding"
  | projection s => "cannot project over a " ++ s.render
  | valuesOf s => "cannot project over the values of a " ++ s.render
  | condition s c => "filter condition `" ++ c.render ++ "` is a " ++ s.render ++ ", not a boolean"
  | arity f n k => "`" ++ f ++ "` takes " ++ toString n ++ " argument(s), found " ++ toString k
  | lengthOf s => "`length` takes an array or a string, found a " ++ s.render
  | keysOf s => "`keys` takes an object, found a " ++ s.render
  | searchFor s => "`contains` searches for a boolean, number or string, found a " ++ s.render
  | searchTextFor s => "`contains` on a string searches for a string, found a " ++ s.render
  | searchArrayFor m s =>
    "`contains` on an array of " ++ m.render ++ " can't search for a " ++ s.render
  | searchIn s => "`contains` takes an array or a string, found a " ++ s.render
  | iteration t => "`contains` can't iterate over `" ++ t.describe ++ "`"
  | functionName n => "`" ++ n ++ "` is not a function name"
  | secondGlobal => "more than one global root"

/-- What a value of the wrong type reaches only if its shape and its type disagree. -/
inductive Mismatch where
  | reference
  | option
  | value
  | number
  | object
  deriving DecidableEq, Repr

/-- The mismatch in words. -/
def Mismatch.message : Mismatch → String
  | reference => "converting a non-string reference to `&str`"
  | option => "converting a non-string option to `&str`"
  | value => "converting a non-string value to `&str`"
  | number => "converting a non-number to a number primitive"
  | object => "object shapes are structures or maps"

/-- Why a query cannot be compiled. -/
inductive Cause where
  | unsupported (what : Unsupported)
  | invalid (why : Senseless)
  /-- A name or the current value is asked for where nothing at all is in scope. -/
  | missingBinding (name : String)
  | mismatch (m : Mismatch)
  /-- A name that no identifier can be made of. -/
  | unnameable (name : String)
  /-- A list shape that contains itself. -/
  | endlessShape (id : ShapeId)
  deriving Repr

namespace Cause

/-- Whether the cause lies with whoever asks for the traversal, and not with the query. -/
def isDefect : Cause → Bool
  | missingBinding _ | mismatch _ => true
  | _ => false

/-- The cause in one line. -/
def message : Cause → String
  | unsupported u => u.subject ++ " are not supported"
  | invalid w => "invalid traversal: " ++ w.message
  | missingBinding n => "no bindings in scope for `" ++ n ++ "`"
  | mismatch m => "bug: " ++ m.message
  | unnameable n => "`" ++ n ++ "` names no identifier"
  | endlessShape id => "shape `" ++ id.text ++ "` contains itself"

end Cause

/-- A cause and the query, if a query was being compiled. -/
structure Failure where
  cause : Cause
  query : Option String
  deriving Repr

/-- The failure in words. -/
def Failure.render (f : Failure) : String :=
  f.cause.message ++ (f.query.map ("\nExpression: " ++ ·)).getD ""

end Signpost.Traversal
