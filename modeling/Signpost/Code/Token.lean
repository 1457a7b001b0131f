import Signpost.Code.Ident
import Signpost.Decimal.Layout
import Signpost.Unicode.Escape

/-!
# Tokens of emitted code

Emitted Rust is a list of tokens: leaves with a text, and groups between brackets. `render` separates
tokens by one space; the brackets of a group stand close around it, but braces do not.
-/

namespace Signpost.Code

/-- The brackets around a group. -/
inductive Bracket where
  | paren
  | square
  | brace
  deriving DecidableEq, Repr

/-- A token: a leaf, or a group of tokens. -/
inductive Token where
  | leaf (text : String)
  | group (bracket : Bracket) (inner : List Token)
  deriving Inhabited, Repr

namespace Token

/-- The text between brackets. -/
def enclose (b : Bracket) (inner : String) : String :=
  match b with
  | .paren => "(" ++ inner ++ ")"
  | .square => "[" ++ inner ++ "]"
  | .brace => if inner.isEmpty then "\x7b \x7d" else "\x7b " ++ inner ++ " \x7d"

mutual

/-- The text of one token. -/
def text : Token → String
  | leaf s => s
  | group b ts => enclose b (" ".intercalate (texts ts))

def texts : List Token → List String
  | [] => []
  | t :: ts => text t :: texts ts

end

end Token

/-- The text of a list of tokens. -/
def render (ts : List Token) : String := " ".intercalate (Token.texts ts)

/-- The tokens of a text in which they are separated by single spaces, with no groups but empty
parentheses. -/
def code (s : String) : List Token :=
  ((s.toList.splitOn ' ').filter (!·.isEmpty)).map fun w =>
    if w = ['(', ')'] then .group .paren [] else .leaf (String.ofList w)

/-- The token of an identifier. -/
def ident (i : Ident) : Token := .leaf i.text

def parens (ts : List Token) : Token := .group .paren ts
def squares (ts : List Token) : Token := .group .square ts
def braces (ts : List Token) : Token := .group .brace ts

/-- Lists of tokens with commas between them. -/
def commas : List (List Token) → List Token
  | [] => []
  | [ts] => ts
  | ts :: rest => ts ++ .leaf "," :: commas rest

/-- Lists of tokens with a comma after each. -/
def trailing (items : List (List Token)) : List Token := items.flatMap (· ++ [.leaf ","])

/-! ### Literals -/

/-- The inside of a string literal. The null character has a short form that must not run into a
digit. -/
def escape : List Char → List Char
  | [] => []
  | '\x00' :: c :: cs =>
    if '0' ≤ c ∧ c ≤ '7' then '\\' :: 'x' :: '0' :: '0' :: escape (c :: cs)
    else Unicode.escape '\x00' ++ escape (c :: cs)
  | c :: cs => Unicode.escape c ++ escape cs

/-- A string literal. -/
def string (s : String) : Token := .leaf (String.ofList ('"' :: (escape s.toList ++ ['"'])))

/-- A whole number, of which a negative one takes two tokens; the suffix names its type. -/
def integer (n : Int) (suffix : String) : List Token :=
  let digits := Token.leaf (toString n.natAbs ++ suffix)
  if n < 0 then [.leaf "-", digits] else [digits]

/-- A number with a point, of which one with a minus sign takes two tokens. -/
def decimal (negative : Bool) (x : Magnitude) : List Token :=
  let digits := Token.leaf (Layout.expanded.write (.finite false x))
  if negative then [.leaf "-", digits] else [digits]

/-- A truth value. -/
def bool (b : Bool) : Token := .leaf (if b then "true" else "false")

/-- The attribute that carries a line of documentation. -/
def doc (line : String) : List Token := [.leaf "#", squares [.leaf "doc", .leaf "=", string line]]

/-- The lines of a text of which `line` has been read. -/
def linesFrom (line : List Char) : List Char → List String
  | [] => if line.isEmpty then [] else [String.ofList line]
  | '\r' :: '\n' :: cs => String.ofList line :: linesFrom [] cs
  | '\n' :: cs => String.ofList line :: linesFrom [] cs
  | c :: cs => linesFrom (line ++ [c]) cs

/-- The lines of a text; nothing stands for the end of the last line. -/
def lines (s : String) : List String := linesFrom [] s.toList

/-- The attribute that carries a line of documentation that is known in advance. -/
def comment (line : String) : List Token :=
  [.leaf "#", squares [.leaf "doc", .leaf "=", .leaf ("r\"" ++ line ++ "\"")]]

end Signpost.Code
