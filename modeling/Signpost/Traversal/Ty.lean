import Signpost.Code.Path

/-!
# Types of emitted values

The types that emitted code gives to the values of a data model, and what code may do with them:
copying, iterating, and writing the type down.
-/

namespace Signpost.Traversal

open Code (Token Ident Path)

/-- A type. -/
inductive Ty where
  | bool
  /-- A signed whole number of so many bits. -/
  | int (bits : Nat)
  | float (bits : Nat)
  | string
  /-- Borrowed text, which stands only behind a reference. -/
  | str
  /-- A type of the data model. -/
  | model (name : String)
  | vec (item : Ty)
  | map (key value : Ty)
  | option (inner : Ty)
  | ref (inner : Ty)
  deriving DecidableEq, Repr, Inhabited

namespace Ty

/-- A reference to text. -/
def strRef : Ty := ref str

/-- Whether a value may be used twice without being cloned. -/
def isCopy : Ty → Bool
  | bool | int _ | float _ | ref _ => true
  | option t => t.isCopy
  | _ => false

/-- Truth values and numbers. -/
def isScalar : Ty → Bool
  | bool | int _ | float _ => true
  | _ => false

def isNumeric : Ty → Bool
  | int _ | float _ => true
  | _ => false

def isOption : Ty → Bool
  | option _ => true
  | _ => false

/-- The type inside an option, or the type itself. -/
def unwrapOption : Ty → Ty
  | option t => t
  | t => t

/-- The type behind all references. -/
def referent : Ty → Ty
  | ref t => t.referent
  | t => t

/-- Whether this is a number, perhaps behind references. -/
def isNumber (t : Ty) : Bool := t.referent.isNumeric

/-- The type of the elements that iterating over a value gives; iterating through a reference gives
references. -/
def item? : Ty → Option Ty
  | vec t => some t
  | ref (vec t) => some (ref t)
  | ref (ref t) => (ref t).item?
  | _ => none

/-- The type to which two numbers are cast to be compared: whole only if both are. -/
def commonNumber (a b : Ty) : Ty :=
  match a.unwrapOption.referent, b.unwrapOption.referent with
  | int _, int _ => int 64
  | _, _ => float 64

/-! ### Writing types -/

/-- A type of the data model at the end of its path; nothing if its name is no identifier. -/
def modelTokens (model : List Token) (name : String) : Option (List Token) :=
  (Ident.plain? name).map fun i => model ++ [.leaf "::", Code.ident i]

/-- The tokens of a type, given those of the path to the data model. References carry the lifetime if
there is one. -/
def tokens (model : List Token) (lifetime : Option String) : Ty → Option (List Token)
  | bool => some (Code.code "bool")
  | int bits => some [.leaf ("i" ++ toString bits)]
  | float bits => some [.leaf ("f" ++ toString bits)]
  | string => some (Code.code ":: std :: string :: String")
  | str => some (Code.code "str")
  | .model name => modelTokens model name
  | vec t => do
    let t ← tokens model lifetime t
    return Code.code ":: std :: vec :: Vec <" ++ t ++ [.leaf ">"]
  | map k v => do
    let k ← tokens model lifetime k
    let v ← tokens model lifetime v
    return Code.code ":: std :: collections :: HashMap <" ++ k ++ .leaf "," :: (v ++ [.leaf ">"])
  | option t => do
    let t ← tokens model lifetime t
    return Code.code ":: std :: option :: Option <" ++ t ++ [.leaf ">"]
  | ref t => do
    let t ← tokens model lifetime t
    return .leaf "&" :: ((lifetime.map Token.leaf).toList ++ t)

/-- The type as a term, as messages show it. -/
def describe : Ty → String
  | bool => "Bool"
  | int bits => "Integer(" ++ toString bits ++ ")"
  | float bits => "Float(" ++ toString bits ++ ")"
  | string => "String"
  | str => "Str"
  | .model name => "Opaque(" ++ Unicode.quote name ++ ")"
  | vec t => "Vec(" ++ t.describe ++ ")"
  | map k v => "HashMap(" ++ k.describe ++ ", " ++ v.describe ++ ")"
  | option t => "Option(" ++ t.describe ++ ")"
  | ref t => "Reference(" ++ t.describe ++ ")"

end Ty

end Signpost.Traversal
