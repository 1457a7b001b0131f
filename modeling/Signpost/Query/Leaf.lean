import Signpost.Query.SyntaxError
import Signpost.Unicode.CharSet

/-!
# Leaves of a query

What the tokens with a text of their own stand for: numbers, names and literals.
-/

namespace Signpost.Query.Token

/-- The text between the first and the last character. -/
def inner (t : Token) : List Char := (t.lexeme.drop 1).dropLast

/-- The number that digits write when they follow those of `n`. -/
def natOf (n : Nat) (ds : List Char) : Nat := ds.foldl (fun n d => 10 * n + (d.toNat - '0'.toNat)) n

/-- The number of a number token, if it fits into 64 bits with a sign. -/
def number (t : Token) : Except SyntaxError Int :=
  let n : Int := match t.lexeme with
    | '-' :: ds => -natOf 0 ds
    | ds => natOf 0 ds
  if -0x8000000000000000 ≤ n ∧ n < 0x8000000000000000 then .ok n else .error (.numberTooLarge t)

/-- Drops the backslashes in front of a quote. -/
def unescape (quote : Char) : List Char → List Char
  | [] => []
  | [c] => [c]
  | c :: d :: cs =>
    if c = '\\' ∧ d = quote then quote :: unescape quote cs else c :: unescape quote (d :: cs)

/-- The text of a raw string. -/
def rawText (t : Token) : String := String.ofList (unescape '\'' t.inner)

/-- The string that a JSON text holds. -/
def jsonString (cs : List Char) : Except Json.Fault String :=
  match cs with
  | '"' :: cs =>
    let (s, rest) := Json.Quoted.scan cs
    match s.read with
    | .error f => .error f
    | .ok s => if (Json.Outline.skipBlanks rest).isEmpty then .ok s else .error .trailingText
  | _ => .error .noValue

/-- The name that a name in quotes stands for. -/
def quotedText (t : Token) : Except SyntaxError String :=
  match jsonString t.lexeme with
  | .ok s => .ok s
  | .error f => .error (.badName f t.offset)

/-- The text without blanks at its ends. -/
def trim (cs : List Char) : List Char :=
  let blank := Unicode.blank.contains
  ((cs.dropWhile blank).reverse.dropWhile blank).reverse

/-- The literal between backticks: a JSON value or else the inside of a JSON string. -/
def literal (rule : Json.RealRule) (t : Token) : Except SyntaxError Literal :=
  let body := trim (unescape '\x60' t.inner)
  match Json.Value.ofText rule body with
  | .ok v => .ok (.ofJson v)
  | .error _ =>
    match Json.Value.ofText rule ('"' :: (body ++ ['"'])) with
    | .ok v => .ok (.ofJson v)
    | .error f => .error (.badLiteral f t.offset)

end Signpost.Query.Token
