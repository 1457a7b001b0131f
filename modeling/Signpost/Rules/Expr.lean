/-!
# Rules expressions

What conditions, endpoints and messages of a ruleset are made of. A string is a template: a list of
parts that are plain text or an expression to be put in.
-/

namespace Signpost.Rules

mutual

/-- An expression of a ruleset. -/
inductive Expr where
  | string (template : List Part)
  | bool (b : Bool)
  | int (n : Int)
  | array (items : List Expr)
  | record (fields : List (String × Expr))
  /-- A parameter or the result of a condition, by its name. -/
  | ref (name : String)
  | call (name : String) (args : List Expr)

/-- A part of a template. -/
inductive Part where
  | text (s : String)
  | hole (e : Expr)

end

/-- A string with places to put values in. -/
abbrev Template := List Part

instance : Inhabited Expr := ⟨.bool false⟩

/-- The template of a plain text. -/
def Template.plain (s : String) : Template := if s.isEmpty then [] else [.text s]

/-- The text of a template without holes. -/
def Template.plainText? : Template → Option String
  | [] => some ""
  | .text s :: ps => (plainText? ps).map (s ++ ·)
  | .hole _ :: _ => none

/-- A call of a function. -/
structure Call where
  name : String
  args : List Expr

namespace Expr

/-- Lists of characters with a comma and a blank between them. -/
def commas : List (List Char) → List Char := [',', ' '].intercalate

/-- Text of a template, in which braces are doubled. -/
def writeText (s : String) : List Char :=
  s.toList.flatMap fun c => if c = '{' then ['{', '{'] else if c = '}' then ['}', '}'] else [c]

mutual

/-- The text of an expression. -/
def write : Expr → List Char
  | string t => '"' :: (writeTemplate t ++ ['"'])
  | bool b => (if b then "true" else "false").toList
  | int n => (toString n).toList
  | array es => '[' :: (commas (writeList es) ++ [']'])
  | record fs => '{' :: (commas (writeFields fs) ++ ['}'])
  | ref name => name.toList
  | call name args => name.toList ++ '(' :: (commas (writeList args) ++ [')'])

def writeList : List Expr → List (List Char)
  | [] => []
  | e :: es => write e :: writeList es

def writeFields : List (String × Expr) → List (List Char)
  | [] => []
  | (k, e) :: fs => (k.toList ++ ':' :: ' ' :: write e) :: writeFields fs

/-- The text of a template, which reads back as the template. -/
def writeTemplate : List Part → List Char
  | [] => []
  | .text s :: ps => writeText s ++ writeTemplate ps
  | .hole (.call name [.ref target, .string path]) :: ps =>
    (if name = "getAttr" then '{' :: (target.toList ++ '#' :: (writeTemplate path ++ ['}']))
     else '{' :: (write (.call name [.ref target, .string path]) ++ ['}'])) ++ writeTemplate ps
  | .hole e :: ps => '{' :: (write e ++ '}' :: writeTemplate ps)

end

/-- The text of an expression. -/
def render (e : Expr) : String := String.ofList e.write

end Expr

/-- The text of a template. -/
def Template.render (t : Template) : String := String.ofList (Expr.writeTemplate t)

/-- The call as an expression. -/
def Call.toExpr (c : Call) : Expr := .call c.name c.args

/-- The text of a call. -/
def Call.render (c : Call) : String := c.toExpr.render

end Signpost.Rules
