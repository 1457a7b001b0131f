import Signpost.Query.Printer
import Signpost.Diagnosis

/-!
# Query tokens

Cutting the text of a query into tokens. A token keeps its lexeme and the byte at which it starts;
blanks between tokens are dropped. `Token.scan` gives the tokens of a text, or the byte at which the
first thing starts that is no token.
-/

namespace Signpost.Query

/-- The kinds of tokens. -/
inductive Token.Kind where
  | json
  | raw
  | quotedName
  | name
  | number
  | flatten
  | filter
  | lbracket
  | rbracket
  | lbrace
  | rbrace
  | lparen
  | rparen
  | comma
  | colon
  | dot
  | star
  | current
  | and
  | reference
  | or
  | pipe
  | not
  | compare (op : Comparison)
  deriving DecidableEq, Repr

/-- A token: its kind, the text it stands for, and the byte at which it starts. -/
structure Token where
  kind : Token.Kind
  lexeme : List Char
  offset : Nat
  deriving DecidableEq, Repr

namespace Token

/-- Blanks, tabs and line ends. -/
def isBlank (c : Char) : Bool := c == ' ' || c == '\t' || c == '\n' || c == '\r'

/-- The text up to and with the closing quote; a backslash takes the next character with it. -/
def quotedBy (quote : Char) : List Char → Option (List Char)
  | [] => none
  | '\\' :: c :: cs => (quotedBy quote cs).map ('\\' :: c :: ·)
  | c :: cs => if c = quote then some [c] else (quotedBy quote cs).map (c :: ·)

/-- The text up to and with the closing backtick; a backslash takes a backtick with it. -/
def upToBacktick : List Char → Option (List Char)
  | [] => none
  | '\\' :: '\x60' :: cs => (upToBacktick cs).map ('\\' :: '\x60' :: ·)
  | c :: cs => if c = '\x60' then some [c] else (upToBacktick cs).map (c :: ·)

/-- The kind and the lexeme of the token at the front of a text. -/
def first? : List Char → Option (Kind × List Char)
  | '\x60' :: cs => (upToBacktick cs).map fun l => (.json, '\x60' :: l)
  | '\'' :: cs => (quotedBy '\'' cs).map fun l => (.raw, '\'' :: l)
  | '"' :: cs => (quotedBy '"' cs).map fun l => (.quotedName, '"' :: l)
  | '-' :: cs =>
    match cs.takeWhile Char.isDigit with
    | [] => none
    | ds => some (.number, '-' :: ds)
  | '[' :: ']' :: _ => some (.flatten, ['[', ']'])
  | '[' :: '?' :: _ => some (.filter, ['[', '?'])
  | '[' :: _ => some (.lbracket, ['['])
  | ']' :: _ => some (.rbracket, [']'])
  | '{' :: _ => some (.lbrace, ['{'])
  | '}' :: _ => some (.rbrace, ['}'])
  | '(' :: _ => some (.lparen, ['('])
  | ')' :: _ => some (.rparen, [')'])
  | ',' :: _ => some (.comma, [','])
  | ':' :: _ => some (.colon, [':'])
  | '.' :: _ => some (.dot, ['.'])
  | '*' :: _ => some (.star, ['*'])
  | '@' :: _ => some (.current, ['@'])
  | '&' :: '&' :: _ => some (.and, ['&', '&'])
  | '&' :: _ => some (.reference, ['&'])
  | '|' :: '|' :: _ => some (.or, ['|', '|'])
  | '|' :: _ => some (.pipe, ['|'])
  | '!' :: '=' :: _ => some (.compare .notEqual, ['!', '='])
  | '!' :: _ => some (.not, ['!'])
  | '=' :: '=' :: _ => some (.compare .equal, ['=', '='])
  | '<' :: '=' :: _ => some (.compare .lessOrEqual, ['<', '='])
  | '<' :: _ => some (.compare .less, ['<'])
  | '>' :: '=' :: _ => some (.compare .greaterOrEqual, ['>', '='])
  | '>' :: _ => some (.compare .greater, ['>'])
  | c :: cs =>
    if isNameStart c then some (.name, c :: cs.takeWhile isNamePart)
    else if c.isDigit then some (.number, c :: cs.takeWhile Char.isDigit)
    else none
  | [] => none

/-- A token has at least one character. -/
theorem length_first?_pos {cs : List Char} {k : Kind} {l : List Char} (h : first? cs = some (k, l)) :
    0 < l.length := by
  unfold first? at h
  split at h <;> grind [Option.map_eq_some_iff]

/-- The tokens of a text that starts at a byte. -/
def scanFrom (offset : Nat) (cs : List Char) : Except Nat (List Token) :=
  match cs with
  | [] => .ok []
  | c :: rest =>
    if isBlank c then scanFrom (offset + 1) rest
    else
      match h : first? (c :: rest) with
      | none => .error offset
      | some (kind, lexeme) =>
        have := length_first?_pos h
        match scanFrom (offset + byteLength lexeme) ((c :: rest).drop lexeme.length) with
        | .error e => .error e
        | .ok ts => .ok (⟨kind, lexeme, offset⟩ :: ts)
  termination_by cs.length
  decreasing_by all_goals simp <;> omega

/-- The tokens of a text; if there is something else in it, the byte at which that starts. -/
def scan (text : List Char) : Except Nat (List Token) := scanFrom 0 text

/-- The text of the token. -/
def text (t : Token) : String := String.ofList t.lexeme

end Token

end Signpost.Query
