import Signpost.Unicode.CharSet
import Signpost.Unicode.CaseMap
import Signpost.Unicode.Pattern

/-!
# Patterns

Patterns describe texts: characters of certain classes, places in a text, and sequences, choices and
repetitions of these. Only whether a text matches is asked, so groups and the order of choices leave no
trace.
-/

namespace Signpost

/-- The classes of characters that have a name. -/
inductive NamedClass where
  | digit
  | blank
  | word
  deriving DecidableEq, Repr

namespace NamedClass

/-- Whether a character of ASCII belongs to the class. -/
def containsAscii (k : NamedClass) (c : Char) : Bool :=
  match k with
  | digit => c.isDigit
  | blank => c == ' ' || ('\t' ≤ c && c ≤ '\r')
  | word => c.isAlphanum || c == '_'

/-- Whether a character belongs to the class. -/
def contains (k : NamedClass) (c : Char) : Bool :=
  match k with
  | digit => Unicode.decimalDigit.contains c
  | blank => Unicode.blank.contains c
  | word => Unicode.wordCharacter.contains c

end NamedClass

/-- A set of characters. -/
inductive CharClass where
  | none
  | range (first last : Char)
  | named (k : NamedClass)
  /-- The characters of ASCII of a class. -/
  | ascii (k : NamedClass)
  /-- The characters that have a form in the class when case does not count. -/
  | anyCase (s : CharClass)
  | union (s t : CharClass)
  | inter (s t : CharClass)
  | not (s : CharClass)
  deriving DecidableEq, Repr

namespace CharClass

/-- The class of one character. -/
def single (c : Char) : CharClass := range c c

/-- The class of all characters. -/
def all : CharClass := not none

/-- The characters of one class that are not in another. -/
def diff (s t : CharClass) : CharClass := inter s (not t)

/-- The characters that are in one of two classes but not in both. -/
def symmDiff (s t : CharClass) : CharClass := union (diff s t) (diff t s)

/-- A character as one when the other case has one character too. -/
private def caseOr (f : Char → List Char) (c : Char) : Char :=
  match f c with
  | [d] => d
  | _ => c

/-- The form of a character that all of its forms in other cases share. -/
def caseKey (c : Char) : Char :=
  if c = 'ı' ∨ c = 'İ' then c else caseOr Unicode.toLower (caseOr Unicode.toUpper c)

/-- The characters that are forms of another, but neither its lowercase nor its uppercase. -/
def thirdForms : List Char := [
  0xB5, 0x17F, 0x1C5, 0x1C8, 0x1CB, 0x1F2, 0x345, 0x3C2, 0x3D0, 0x3D1, 0x3D5, 0x3D6, 0x3F0, 0x3F1,
  0x3F4, 0x3F5, 0x1C80, 0x1C81, 0x1C82, 0x1C83, 0x1C84, 0x1C85, 0x1C86, 0x1C87, 0x1C88, 0x1E9B,
  0x1E9E, 0x1F88, 0x1F89, 0x1F8A, 0x1F8B, 0x1F8C, 0x1F8D, 0x1F8E, 0x1F8F, 0x1F98, 0x1F99, 0x1F9A,
  0x1F9B, 0x1F9C, 0x1F9D, 0x1F9E, 0x1F9F, 0x1FA8, 0x1FA9, 0x1FAA, 0x1FAB, 0x1FAC, 0x1FAD, 0x1FAE,
  0x1FAF, 0x1FBC, 0x1FBE, 0x1FCC, 0x1FFC, 0x2126, 0x212A, 0x212B].map Char.ofNat

/-- The forms of a character in other cases. -/
def caseForms (c : Char) : List Char :=
  let key := caseKey c
  if key = 'ı' ∨ key = 'İ' then [c]
  else c :: key :: caseOr Unicode.toUpper key :: thirdForms.filter (caseKey · = key)

/-- Whether a character belongs to the class. -/
def contains : CharClass → Char → Bool
  | none, _ => false
  | range a b, c => a ≤ c && c ≤ b
  | named k, c => k.contains c
  | ascii k, c => k.containsAscii c
  | anyCase s, c => (caseForms c).any s.contains
  | union s t, c => s.contains c || t.contains c
  | inter s t, c => s.contains c && t.contains c
  | not s, c => !s.contains c

/-- Whether a class holds nothing beyond ASCII, as far as its parts show. -/
def isAscii : CharClass → Bool
  | none | ascii _ => true
  | range _ b => b.toNat < 0x80
  | named _ | anyCase _ | not _ => false
  | union s t => s.isAscii && t.isAscii
  | inter s t => s.isAscii || t.isAscii

end CharClass

/-- A place in a text: the character before it and the characters after it. -/
structure Place where
  before : Option Char
  after : List Char
  deriving DecidableEq, Repr

/-- What a pattern may ask of a place. -/
inductive Assertion where
  | textStart
  | textEnd
  /-- A line starts; carriage returns end lines too if asked for. -/
  | lineStart (returns : Bool)
  | lineEnd (returns : Bool)
  /-- A word is on one side, as told by a class of word characters. -/
  | boundary (word : CharClass)
  | noBoundary (word : CharClass)
  | wordStart (word : CharClass)
  | wordEnd (word : CharClass)
  /-- No word comes before. -/
  | noWordBefore (word : CharClass)
  | noWordAfter (word : CharClass)
  deriving DecidableEq, Repr

/-- Whether a place is what is asked for. -/
def Assertion.holds (a : Assertion) (p : Place) : Bool :=
  let next := p.after.head?
  let wordBefore (w : CharClass) := p.before.any w.contains
  let wordAfter (w : CharClass) := next.any w.contains
  match a with
  | textStart => p.before.isNone
  | textEnd => p.after.isEmpty
  | lineStart false => p.before.isNone || p.before == some '\n'
  | lineStart true =>
    p.before.isNone || p.before == some '\n' || (p.before == some '\r' && next != some '\n')
  | lineEnd false => next.isNone || next == some '\n'
  | lineEnd true =>
    next.isNone || next == some '\r' || (next == some '\n' && p.before != some '\r')
  | boundary w => wordBefore w != wordAfter w
  | noBoundary w => wordBefore w == wordAfter w
  | wordStart w => !wordBefore w && wordAfter w
  | wordEnd w => wordBefore w && !wordAfter w
  | noWordBefore w => !wordBefore w
  | noWordAfter w => !wordAfter w

/-- A pattern. -/
inductive Pattern where
  | empty
  | one (s : CharClass)
  | assert (a : Assertion)
  | seq (p q : Pattern)
  | alt (p q : Pattern)
  /-- At least `least` times, and at most `most` times if that is given. -/
  | times (p : Pattern) (least : Nat) (most : Option Nat)
  deriving DecidableEq, Repr

end Signpost
