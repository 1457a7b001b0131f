import Signpost.Rules.Expr
import Signpost.Diagnosis

/-!
# Reading templates

A template is cut into characters and holes (`Template.scan`), and neighbouring characters are joined
into text (`Template.join`). A brace that is meant as text is written twice; a hole holds the name of a
value, or such a name, `#` and the path of an attribute.
-/

namespace Signpost.Rules.Template

/-- Why a text is not a template; the byte is that of the brace. -/
inductive Error where
  | unclosed (offset : Nat)
  | unmatched (offset : Nat)
  | badHole (inner : String) (offset : Nat)
  deriving DecidableEq, Repr

/-- The mistake in a text as it is reported. -/
def Error.diagnosis (input : String) : Error → Diagnosis
  | unclosed offset =>
    ⟨.invalidTemplate, "unclosed `\x7b` in `" ++ input ++ "`", some offset⟩
  | unmatched offset =>
    ⟨.invalidTemplate, "unmatched `\x7d` in `" ++ input ++ "`", some offset⟩
  | badHole inner offset =>
    ⟨.invalidTemplate, "invalid placeholder `\x7b" ++ inner ++ "\x7d` in `" ++ input ++ "`", some offset⟩

/-- A character of text or a hole. -/
inductive Item where
  | char (c : Char)
  | hole (e : Expr)

/-- Whether the characters are those of a name. -/
def isName : List Char → Bool
  | [] => false
  | c :: cs => (c.isAlpha || c == '_') && cs.all fun c => c.isAlphanum || c == '_'

/-- What a hole holds: a name, or a name and a path. -/
def holeOf? (inner : List Char) : Option Expr :=
  let name := inner.takeWhile (· ≠ '#')
  if isName name then
    match inner.dropWhile (· ≠ '#') with
    | [] => some (.ref (String.ofList name))
    | [_] => none
    | _ :: path =>
      some (.call "getAttr" [.ref (String.ofList name), .string (plain (String.ofList path))])
  else none

/-- The characters and holes of a text that starts at a byte. -/
def scan (offset : Nat) (cs : List Char) : Except Error (List Item) :=
  match cs with
  | [] => .ok []
  | '{' :: '{' :: rest => (scan (offset + 2) rest).map (.char '{' :: ·)
  | '}' :: '}' :: rest => (scan (offset + 2) rest).map (.char '}' :: ·)
  | '}' :: _ => .error (.unmatched offset)
  | '{' :: rest =>
    have _hlen : (rest.dropWhile (· ≠ '}')).length ≤ rest.length :=
      (List.dropWhile_suffix _).length_le
    match _h : rest.dropWhile (· ≠ '}') with
    | [] => .error (.unclosed offset)
    | _ :: after =>
      let inner := rest.takeWhile (· ≠ '}')
      match holeOf? inner with
      | none => .error (.badHole (String.ofList inner) offset)
      | some e => (scan (offset + 2 + byteLength inner) after).map (.hole e :: ·)
  | c :: rest => (scan (offset + c.utf8Size) rest).map (.char c :: ·)
  termination_by cs.length
  decreasing_by
    · simp only [List.length_cons]; omega
    · simp only [List.length_cons]; omega
    · rw [_h] at _hlen; simp at _hlen ⊢; omega
    · simp

/-- Joins neighbouring characters. -/
def join : List Item → Template
  | [] => []
  | .hole e :: is => .hole e :: join is
  | .char c :: is =>
    match join is with
    | .text s :: ps => .text (String.ofList (c :: s.toList)) :: ps
    | ps => .text (String.ofList [c]) :: ps

/-- Reads a template. -/
def ofText (text : String) : Except Error Template := (scan 0 text.toList).map join

end Signpost.Rules.Template
