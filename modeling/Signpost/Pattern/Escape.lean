import Signpost.Hexadecimal
import Signpost.Pattern.Basic

/-!
# Escapes in patterns

What a backslash and the characters after it stand for: a character, a class, or a place in the text.
-/

namespace Signpost.Pattern

/-- Why a text is not a pattern. -/
inductive Fault where
  | unclosedGroup
  | unopenedGroup
  | lookAround
  | nothingToRepeat
  | count
  | countOrder
  | unclosedClass
  | rangeOrder
  | rangeEnd
  | classItem
  | escape
  | backreference
  | codePoint
  | property
  | boundaryName
  | groupName
  | repeatedName
  | flag
  /-- A class that could match a part of a character. -/
  | partialCharacter
  deriving DecidableEq, Repr

/-- How a part of a pattern is read. -/
structure Flags where
  /-- Case does not count. -/
  anyCase : Bool
  /-- Lines have starts and ends. -/
  lines : Bool
  /-- A point matches the end of a line too. -/
  dotAll : Bool
  /-- Carriage returns end lines. -/
  returns : Bool
  /-- Blanks and remarks do not count. -/
  loose : Bool
  /-- Classes reach beyond ASCII. -/
  wide : Bool
  deriving DecidableEq, Repr

/-- How a pattern is read where it does not say otherwise. -/
def Flags.standard : Flags := ⟨false, false, false, false, false, true⟩

/-- Passes over blanks and remarks. -/
def skipLoose (inRemark : Bool) : List Char → List Char
  | [] => []
  | c :: cs =>
    if inRemark then skipLoose (c != '\n') cs
    else if Unicode.blank.contains c then skipLoose false cs
    else if c = '#' then skipLoose true cs
    else c :: cs

/-- What comes next, past what does not count. -/
def Flags.skip (f : Flags) (cs : List Char) : List Char := if f.loose then skipLoose false cs else cs

/-- What a character or an escape stands for. -/
inductive Primitive where
  | char (c : Char)
  | cls (s : CharClass)
  | assertion (a : Assertion)
  deriving DecidableEq, Repr

/-- The characters with a meaning of their own. -/
def isSpecial (c : Char) : Bool := "\\.+*?()|[]\x7b\x7d^$#&-~".toList.contains c

/-- Whether a character stands for itself after a backslash. -/
def isEscapable (c : Char) : Bool :=
  isSpecial c || (c.toNat < 0x80 && !c.isAlphanum && c != '<' && c != '>')

/-- The class of word characters. -/
def Flags.word (f : Flags) : CharClass := if f.wide then .named .word else .ascii .word

/-- A class with a letter of its own; a capital stands for all other characters. -/
def Flags.letterClass (f : Flags) (c : Char) : Except Fault Primitive :=
  let kind : NamedClass := match c.toLower with
    | 'd' => .digit
    | 's' => .blank
    | _ => .word
  let cls : CharClass := if f.wide then .named kind else .ascii kind
  if !c.isUpper then .ok (.cls cls)
  else if f.wide then .ok (.cls (.not cls))
  else .error .partialCharacter

/-- The number that hexadecimal digits write, as a character. -/
def codePoint (f : Flags) (isByte : Bool) (digits : List Char) : Except Fault Primitive :=
  match digits.mapM Hexadecimal.value? with
  | none | some [] => .error .codePoint
  | some ds =>
    let n := ds.foldl (fun n d => min (16 * n + d) 0x110000) 0
    if isByte && !f.wide && 0x80 ≤ n then .error .partialCharacter
    else if h : n.isValidChar then .ok (.char (Char.ofNatAux n h))
    else .error .codePoint

/-- Takes so many characters, each but the first past what does not count. -/
def takeDigits (f : Flags) : Nat → List Char → Option (List Char × List Char)
  | 0, cs => some ([], cs)
  | n + 1, cs =>
    match cs with
    | [] => none
    | c :: cs => (takeDigits f n (f.skip cs)).map fun (ds, rest) => (c :: ds, rest)

/-- A character by its code point, after the letter that announces it. -/
def readCodePoint (f : Flags) (letter : Char) (cs : List Char) :
    Except Fault (Primitive × List Char) :=
  match f.skip cs with
  | '{' :: cs =>
    match cs.dropWhile (· ≠ '}') with
    | [] => .error .escape
    | _ :: rest => do
      let inner := cs.takeWhile (· ≠ '}')
      let inner := if f.loose then inner.filter (!Unicode.blank.contains ·) else inner
      let p ← codePoint f false inner
      return (p, f.skip rest)
  | cs =>
    let count := if letter = 'x' then 2 else if letter = 'u' then 4 else 8
    match takeDigits f count cs with
    | none => .error .escape
    | some (ds, rest) => do
      let p ← codePoint f (letter == 'x') ds
      return (p, f.skip rest)

/-- The boundary that a name in braces asks for. -/
def namedBoundary? (w : CharClass) : String → Option Assertion
  | "start" => some (.wordStart w)
  | "end" => some (.wordEnd w)
  | "start-half" => some (.noWordBefore w)
  | "end-half" => some (.noWordAfter w)
  | _ => none

/-- A boundary of words, which may be followed by a name in braces; braces around anything else are not
part of it. -/
def readBoundary (f : Flags) (cs : List Char) : Except Fault (Primitive × List Char) :=
  let isNameChar (c : Char) : Bool := c.isAlpha || c == '-'
  match cs with
  | '{' :: inner =>
    let inner := f.skip inner
    if !inner.head?.all isNameChar then .ok (.assertion (.boundary f.word), cs)
    else
      let name := inner.takeWhile (· ≠ '}')
      let name := if f.loose then name.filter (!Unicode.blank.contains ·) else name
      match namedBoundary? f.word (String.ofList name), inner.dropWhile (· ≠ '}') with
      | some a, _ :: rest => .ok (.assertion a, rest)
      | _, _ => .error .boundaryName
  | cs => .ok (.assertion (.boundary f.word), cs)

/-- A control character with a letter of its own. -/
def control? : Char → Option Char
  | 'a' => some '\x07'
  | 'f' => some '\x0c'
  | 't' => some '\t'
  | 'n' => some '\n'
  | 'r' => some '\r'
  | 'v' => some '\x0b'
  | _ => none

/-- What follows a backslash. -/
def readEscape (f : Flags) : List Char → Except Fault (Primitive × List Char)
  | [] => .error .escape
  | c :: cs =>
    if c.isDigit then .error .backreference
    else if "xuU".toList.contains c then readCodePoint f c cs
    else if "pP".toList.contains c then .error .property
    else if "dswDSW".toList.contains c then (f.letterClass c).map (·, cs)
    else if isEscapable c then .ok (.char c, cs)
    else
      match control? c, c with
      | some d, _ => .ok (.char d, cs)
      | none, 'A' => .ok (.assertion .textStart, cs)
      | none, 'z' => .ok (.assertion .textEnd, cs)
      | none, 'b' => readBoundary f cs
      | none, 'B' => .ok (.assertion (.noBoundary f.word), cs)
      | none, '<' => .ok (.assertion (.wordStart f.word), cs)
      | none, '>' => .ok (.assertion (.wordEnd f.word), cs)
      | none, _ => .error .escape

end Signpost.Pattern
