import Signpost.Decimal.Order
import Signpost.Query.Basic

/-!
# Data that queries are evaluated on

The values of a data model while emitted code runs on them. References do not show: a value and a
reference to it are the same.
-/

namespace Signpost.Traversal

/-- A value. -/
inductive Datum where
  | bool (b : Bool)
  | int (n : Int)
  | float (x : Binary64)
  /-- Text, or the value of an enum by its name. -/
  | text (s : String)
  /-- The fields of a structure. -/
  | record (fields : List (String × Datum))
  | map (entries : List (String × Datum))
  | list (items : List Datum)
  /-- An option that holds nothing, or something. -/
  | absent
  | present (d : Datum)
  deriving Repr, Inhabited

namespace Datum

/-- An option. -/
def ofOption : Option Datum → Datum
  | none => absent
  | some d => present d

/-- The order of two values that can be compared. Truth values and texts are only ever asked whether they
are equal. -/
def order? : Datum → Datum → Option (Option Ordering)
  | bool a, bool b => some (compare a b)
  | int a, int b => some (compare a b)
  | float a, float b => some (a.order? b)
  | text a, text b => some (compare a b)
  | _, _ => none

/-- Whether an order is one that is asked for; what is undefined is only ever unequal. -/
def meets (op : Query.Comparison) : Option Ordering → Bool
  | none => match op with
    | .notEqual => true
    | _ => false
  | some o => match op with
    | .equal => o == .eq
    | .notEqual => o != .eq
    | .less => o == .lt
    | .lessOrEqual => o != .gt
    | .greater => o == .gt
    | .greaterOrEqual => o != .lt

/-- Whether two values compare as asked, if they can be compared. -/
def compare? (op : Query.Comparison) (a b : Datum) : Option Bool := (a.order? b).map (meets op)

end Datum

end Signpost.Traversal
