import Signpost.Query.Literal

/-!
# Queries

JMESPath expressions as trees. Projections hold what they range over and what is applied to each
element; an expression that is applied to nothing further holds `current`.
-/

namespace Signpost.Query

/-- A comparison. -/
inductive Comparison where
  | equal
  | notEqual
  | less
  | lessOrEqual
  | greater
  | greaterOrEqual
  deriving DecidableEq, Repr

namespace Comparison

/-- The sign of the comparison. -/
def sign : Comparison → String
  | equal => "=="
  | notEqual => "!="
  | less => "<"
  | lessOrEqual => "<="
  | greater => ">"
  | greaterOrEqual => ">="

/-- Whether the comparison asks only for equality. -/
def isEquality : Comparison → Bool
  | equal | notEqual => true
  | _ => false

end Comparison

/-- A JMESPath expression. -/
inductive Expr where
  /-- A member by its name. -/
  | field (name : String)
  /-- The right side evaluated on the left. -/
  | sub (left right : Expr)
  | index (left : Expr) (n : Int)
  | slice (left : Expr) (start stop step : Option Int)
  /-- The right side for each element of the left. -/
  | project (left right : Expr)
  /-- The right side for each element of the left that meets the condition. -/
  | filter (left right condition : Expr)
  /-- The right side for each value of an object. -/
  | projectValues (left right : Expr)
  | flatten (inner : Expr)
  | list (items : List Expr)
  | hash (entries : List (String × Expr))
  | compare (op : Comparison) (left right : Expr)
  | and (left right : Expr)
  | or (left right : Expr)
  | not (inner : Expr)
  | pipe (left right : Expr)
  | call (name : String) (args : List Expr)
  | literal (value : Literal)
  /-- The value being evaluated on. -/
  | current
  /-- An expression that is not evaluated. -/
  | reference (inner : Expr)
  deriving Inhabited, Repr

namespace Expr

/-- Whether this is the current value. -/
def isCurrent : Expr → Bool
  | current => true
  | _ => false

/-- Whether this is the current value, perhaps flattened. -/
def isFlatCurrent : Expr → Bool
  | current => true
  | flatten current => true
  | _ => false

end Expr

end Signpost.Query
