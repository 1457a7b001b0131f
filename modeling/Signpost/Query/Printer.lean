import Signpost.Query.Basic

/-!
# Writing queries

The text of a query. Each operator has a binding power (`Expr.power`); an operand that binds less than
its place asks for is put in parentheses (`Expr.operand`). What is applied to each element of a
projection follows it with a dot, unless it starts with a bracket of its own (`Expr.applied`).
-/

namespace Signpost.Query

/-- Whether a character may start a name that is written without quotes. -/
def isNameStart (c : Char) : Bool := c.isAlpha || c == '_'

/-- Whether a character may go on in a name that is written without quotes. -/
def isNamePart (c : Char) : Bool := c.isAlphanum || c == '_'

/-- Whether a name needs no quotes. -/
def isPlainName : List Char → Bool
  | [] => false
  | c :: cs => isNameStart c && cs.all isNamePart

/-- A name, in quotes where it needs them. -/
def writeName (name : String) : List Char :=
  if isPlainName name.toList then name.toList else Literal.quote name

/-- A whole number. -/
def writeInt (n : Int) : List Char := (toString n).toList

/-- Text between single quotes, in which only a single quote is escaped. -/
def writeRaw (s : String) : List Char :=
  '\'' :: (s.toList.flatMap (fun c => if c = '\'' then ['\\', '\''] else [c]) ++ ['\''])

/-- A literal: a string between single quotes, anything else as JSON between backticks. -/
def writeLiteral : Literal → List Char
  | .string s => writeRaw s
  | l => '\x60' :: (l.write ++ ['\x60'])

namespace Expr

/-- How strongly an expression holds together; what is never split by its surroundings has the
greatest power. -/
def power : Expr → Nat
  | pipe _ _ => 1
  | or _ _ => 2
  | and _ _ => 3
  | compare _ _ _ => 5
  | not _ => 45
  | project _ _ | filter _ _ _ | projectValues _ _ | flatten _ => 9
  | _ => 255

/-- In parentheses if the power is less than what the place asks for. -/
def parenthesize (least power : Nat) (text : List Char) : List Char :=
  if power < least then '(' :: (text ++ [')']) else text

/-- Whether an expression applied to each element is written without a dot. -/
def startsWithBracket : Expr → Bool
  | index l _ => l.isCurrent
  | slice l _ _ _ => l.isCurrent
  | project l _ => l.isFlatCurrent
  | filter l _ _ => l.isFlatCurrent
  | _ => false

/-- The numbers of a slice between its brackets. -/
def writeSlice (start stop step : Option Int) : List Char :=
  let number : Option Int → List Char := fun n => (n.map writeInt).getD []
  '[' :: (number start ++ ':' :: (number stop ++ (step.map fun n => ':' :: writeInt n).getD [] ++ [']']))

/-- An operand, given its text, in a place that asks for at least this power. -/
def operand (least : Nat) (e : Expr) (text : List Char) : List Char :=
  parenthesize least e.power text

/-- What stands before a bracket: nothing for the current value. -/
def prefixed (least : Nat) (e : Expr) (text : List Char) : List Char :=
  if e.isCurrent then [] else operand least e text

/-- What a projection ranges over, with its bracket. -/
def collection (e : Expr) (text : List Char) : List Char :=
  match e with
  | flatten _ => text
  | slice _ _ _ _ => text
  | e => prefixed 10 e text ++ ['[', '*', ']']

/-- The object whose values are projected, with its star. -/
def values (e : Expr) (text : List Char) : List Char :=
  if e.isCurrent then ['*'] else operand 10 e text ++ ['.', '*']

/-- What is applied to each element. -/
def applied (e : Expr) (text : List Char) : List Char :=
  if e.isCurrent then []
  else if e.startsWithBracket then text
  else '.' :: operand 10 e text

mutual

/-- The text of an expression. -/
def write : Expr → List Char
  | field name => writeName name
  | sub l r => operand 10 l (write l) ++ '.' :: operand 10 r (write r)
  | index l n => prefixed 10 l (write l) ++ '[' :: (writeInt n ++ [']'])
  | slice l a b c => prefixed 10 l (write l) ++ writeSlice a b c
  | project l r => collection l (write l) ++ applied r (write r)
  | filter l r c =>
    prefixed 10 l (write l) ++ '[' :: '?' :: (write c ++ ']' :: applied r (write r))
  | projectValues l r => values l (write l) ++ applied r (write r)
  | flatten e => prefixed 9 e (write e) ++ ['[', ']']
  | list es => '[' :: (writeList es ++ [']'])
  | hash es => '{' :: (writeEntries es ++ ['}'])
  | compare op l r => operand 6 l (write l) ++ ' ' :: (op.sign.toList ++ ' ' :: operand 6 r (write r))
  | and l r => operand 3 l (write l) ++ " && ".toList ++ operand 4 r (write r)
  | or l r => operand 2 l (write l) ++ " || ".toList ++ operand 3 r (write r)
  | not e => '!' :: operand 45 e (write e)
  | pipe l r => operand 1 l (write l) ++ " | ".toList ++ operand 2 r (write r)
  | call name args => name.toList ++ '(' :: (writeList args ++ [')'])
  | literal l => writeLiteral l
  | current => ['@']
  | reference e => '&' :: operand 10 e (write e)

def writeList : List Expr → List Char
  | [] => []
  | [e] => write e
  | e :: es => write e ++ ',' :: ' ' :: writeList es

def writeEntries : List (String × Expr) → List Char
  | [] => []
  | [(k, e)] => writeName k ++ ':' :: ' ' :: write e
  | (k, e) :: es => writeName k ++ ':' :: ' ' :: (write e ++ ',' :: ' ' :: writeEntries es)

end

/-- The text of an expression. -/
def render (e : Expr) : String := String.ofList e.write

end Expr

end Signpost.Query
