import Signpost.Traversal.Operators

/-!
# Functions of queries

The functions that a query may call: `length`, `keys` and `contains`.
-/

namespace Signpost.Traversal

/-- A function. -/
inductive Builtin where
  | length
  | keys
  | contains
  deriving DecidableEq, Repr

namespace Builtin

/-- The function of a name. -/
def ofName? : String → Option Builtin
  | "length" => some length
  | "keys" => some keys
  | "contains" => some contains
  | _ => none

/-- The number of arguments that a function takes. -/
def arity : Builtin → Nat
  | length | keys => 1
  | contains => 2

end Builtin

/-- The number of characters of a string, or of elements of an array. -/
def lengthOf (c : Computed) : Naming Computed := do
  let op ← match c.shape with
    | .string _ => pure (Operation.charCount c.name)
    | .array _ _ => pure (Operation.length c.name)
    | shape => throw (.invalid (.lengthOf shape))
  return { c.bind (← fresh "len") (.int 64) op with shape := .number none }

/-- The names of the members of a structure, or the keys of a map. -/
def keysOf (schema : Schema) (c : Computed) : Naming Computed := do
  let op ← match c.shape.shapeId?.bind schema.get?, c.shape.isObject with
    | some (.record members), true => pure (Operation.names members.keys)
    | some (.map _), true => pure (Operation.keys c.name (← fresh "k"))
    | _, _ => throw (.invalid (.keysOf c.shape))
  return { c.bind (← fresh "keys") (.vec .strRef) op with shape := .arrayOf (.string none) }

/-- Whether a string has a part, or an array an element. What is searched for is computed once. -/
def containsIn (subject search : Computed) : Naming Computed := do
  if !(search.shape.isBool || search.shape.isNumber || search.shape.isTextual) then
    throw (.invalid (.searchFor search.shape))
  let name ← fresh "contains"
  match subject.shape with
  | .string _ =>
    if !search.shape.isTextual then throw (.invalid (.searchTextFor search.shape))
    let subject ← subject.toText
    let search ← search.toText
    return ⟨name, .bool none, .bool,
      subject.steps ++ search.steps ++ [.bind name (.containsText subject.name search.name)]⟩
  | .array _ member =>
    if !member.isComparable search.shape then
      throw (.invalid (.searchArrayFor member search.shape))
    let item ← match subject.ty.referent with
      | .vec t => pure t
      | t => throw (.invalid (.iteration t))
    let v ← fresh "v"
    let (element, search) ← alike ⟨v, member, .ref item, []⟩ search
    return ⟨name, .bool none, .bool,
      subject.steps ++ search.steps ++
        [.bind name (.any subject.name v element.steps (.equal element.name search.name))]⟩
  | shape => throw (.invalid (.searchIn shape))

/-- A call with computed arguments. -/
def Builtin.call (schema : Schema) (f : Builtin) (name : String) (args : List Computed) :
    Naming Computed :=
  match f, args with
  | length, [c] => lengthOf c
  | keys, [c] => keysOf schema c
  | contains, [subject, search] => containsIn subject search
  | f, args => throw (.invalid (.arity name f.arity args.length))

end Signpost.Traversal
