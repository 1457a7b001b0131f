import Signpost.Traversal.Computed

/-!
# Operators of queries

Comparisons, connectives, literals and lists of computed values. Operands are brought to one type
first (`alike`): texts to text, numbers to a common number type, the rest out of its references.
-/

namespace Signpost.Traversal

/-- The values in types in which they can be compared. -/
def alike (a b : Computed) : Naming (Computed × Computed) :=
  if a.shape.isTextual && b.shape.isTextual then do
    let a ← a.toText
    return (a, ← b.toText)
  else if a.shape.isNumber && b.shape.isNumber then do
    let target := Ty.commonNumber a.ty b.ty
    let a ← a.toNumber target
    return (a, ← b.toNumber target)
  else do
    let a ← a.dereference
    return (a, ← b.dereference)

/-- Why two values cannot be compared: only numbers have an order, and values of different categories
are not compared at all. -/
def incomparable? (op : Query.Comparison) (a b : ValueShape) : Option Unsupported :=
  if a.isTextual && b.isTextual then
    if op.isEquality then none else some (.ordering "strings")
  else if a.isNumber && b.isNumber then none
  else if a.isBool && b.isBool then
    if op.isEquality then none else some (.ordering "booleans")
  else some (.comparison a.kind b.kind)

/-- Whether two values compare as asked. -/
def comparison (op : Query.Comparison) (a b : Computed) : Naming Computed :=
  match incomparable? op a.shape b.shape with
  | some u => throw (.unsupported u)
  | none => do
    let (a, b) ← alike a b
    let name ← fresh "cmp"
    return ⟨name, .bool none, .bool, a.steps ++ b.steps ++ [.bind name (.compare op a.name b.name)]⟩

/-- An operand of the operator, which has to be a boolean. -/
def condition (operator : String) (c : Computed) : Naming Computed :=
  if c.shape.isBool then c.dereference else throw (.unsupported (.operand operator))

/-- The opposite of a boolean. -/
def negation (c : Computed) : Naming Computed := do
  let c ← condition "!" c
  return c.bind (← fresh "not") .bool (.not c.name)

/-- Both of two booleans, or one of them; the steps of the second run only if the first does not
decide. -/
def connective (isAnd : Bool) (a b : Computed) : Naming Computed := do
  let name ← fresh (if isAnd then "and" else "or")
  let op := if isAnd then Operation.both a.name b.steps (.plain b.name)
    else .either a.name b.steps (.plain b.name)
  return a.bind name .bool op

/-- The category, the type and the value of a literal; only scalars have them. -/
def constant? : Query.Literal → Except Unsupported (ValueShape × Ty × Constant)
  | .bool b => .ok (.bool none, .bool, .bool b)
  | .int n => .ok (.number none, .int 64, .int n)
  | .float (.finite negative x) => .ok (.number none, .float 64, .float negative x)
  | .float _ => .error (.literal "Non-finite number")
  | .string s => .ok (.string none, .strRef, .string s)
  | .null => .error (.literal "Null")
  | .array _ => .error (.literal "Array")
  | .object _ => .error (.literal "Object")

/-- A literal. -/
def literal (l : Query.Literal) : Naming Computed :=
  match constant? l with
  | .error u => throw (.unsupported u)
  | .ok (shape, ty, value) => do
    let name ← fresh "LIT"
    return ⟨name, shape, ty, [.const name ty value]⟩

/-- Values of one category in types in which they can be compared. -/
def allAlike (shape : ValueShape) (cs : List Computed) : Naming (List Computed) :=
  if shape.isTextual then cs.mapM (·.toText)
  else if shape.isNumber then
    cs.mapM (·.toNumber (cs.foldl (fun t c => Ty.commonNumber t c.ty) (.int 64)))
  else if shape.isBool then cs.mapM (·.dereference)
  else return cs

/-- Values of which all are options as soon as one is. -/
def allOptions (cs : List Computed) : Naming (List Computed) :=
  if cs.any (·.ty.isOption) then cs.mapM fun c => if c.ty.isOption then return c else c.lift
  else return cs

/-- Values as a list; they have to be of one category, and then of one type. -/
def listOf (items : List Computed) : Naming Computed :=
  match items with
  | [] => throw (.unsupported .emptyList)
  | first :: _ => do
    let shape := first.shape
    if !items.all (fun c => c.shape.isComparable shape || c.shape = shape) then
      throw (.unsupported .mixedList)
    let items ← allOptions (← allAlike shape items)
    let ty := (items.head?.map (·.ty)).getD first.ty
    if !items.all (·.ty = ty) then throw (.unsupported .mixedList)
    let name ← fresh "msl"
    return ⟨name, .arrayOf shape, .vec ty,
      items.flatMap (·.steps) ++ [.bind name (.list (items.map (·.name)))]⟩

end Signpost.Traversal
