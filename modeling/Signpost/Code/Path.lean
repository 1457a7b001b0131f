import Signpost.Code.Token
import Signpost.Unicode.CharSet

/-!
# Paths and names given as text

A path to a module or a function, and the name of a function, as their text gives them. Blanks and
comments may stand between the words. A word that the language reserves is no name unless it is raw;
a path may also go through `self`, `Self`, `super`, `crate` and `try`.
-/

namespace Signpost.Code

/-- A path of identifiers; a global one starts with `::`. -/
structure Path where
  isGlobal : Bool
  segments : List Ident
  deriving DecidableEq, Repr, Inhabited

namespace Path

/-- The path of plain identifiers with these names. -/
def ofNames (isGlobal : Bool) (names : List String) : Path := ⟨isGlobal, names.map (⟨·, false⟩)⟩

/-- Identifiers with `::` between them. -/
def segmentTokens : List Ident → List Token
  | [] => []
  | [i] => [ident i]
  | i :: is => ident i :: .leaf "::" :: segmentTokens is

/-- The tokens of a path. -/
def tokens (p : Path) : List Token :=
  (if p.isGlobal then [.leaf "::"] else []) ++ segmentTokens p.segments

end Path

/-- The words of the language that name nothing unless they are raw; some keywords are words only in
certain places. -/
def isReserved (i : Ident) : Bool :=
  !i.isRaw && (i.name == "_" || (isKeyword i.name && !(["gen", "union"].contains i.name)))

/-! ### Words of a text -/

/-- What a comment is in the middle of. -/
private inductive Comment where
  | none
  | line
  /-- Comments between `/*` and `*/` may hold others. -/
  | block (depth : Nat)

/-- The text without comments, each of which becomes a blank; nothing if one is not closed. Comments
that document something are not taken out. -/
private def stripFrom : Comment → List Char → Option (List Char)
  | .none, '/' :: '/' :: '/' :: '/' :: cs => stripFrom .line cs
  | .none, '/' :: '/' :: '/' :: _ => none
  | .none, '/' :: '/' :: '!' :: _ => none
  | .none, '/' :: '/' :: cs => stripFrom .line cs
  | .none, '/' :: '*' :: '*' :: '/' :: cs => (stripFrom .none cs).map (' ' :: ·)
  | .none, '/' :: '*' :: '*' :: '*' :: cs => stripFrom (.block 0) ('*' :: '*' :: cs)
  | .none, '/' :: '*' :: '*' :: _ => none
  | .none, '/' :: '*' :: '!' :: _ => none
  | .none, '/' :: '*' :: cs => stripFrom (.block 0) cs
  | .none, c :: cs => (stripFrom .none cs).map (c :: ·)
  | .none, [] => some []
  | .line, '\n' :: cs => (stripFrom .none cs).map ('\n' :: ·)
  | .line, _ :: cs => stripFrom .line cs
  | .line, [] => some []
  | .block n, '/' :: '*' :: cs => stripFrom (.block (n + 1)) cs
  | .block 0, '*' :: '/' :: cs => (stripFrom .none cs).map (' ' :: ·)
  | .block (n + 1), '*' :: '/' :: cs => stripFrom (.block n) cs
  | .block n, _ :: cs => stripFrom (.block n) cs
  | .block _, [] => none
termination_by _ cs => cs.length

/-- Whether a character separates words of code. -/
private def isGap (c : Char) : Bool :=
  Unicode.blank.contains c || c == '\u200e' || c == '\u200f'

/-- Cuts a text into words, where `::` is a word of its own. -/
private def splitWords (word : List Char) : List Char → List (List Char)
  | [] => [word]
  | ':' :: ':' :: cs => word :: [':', ':'] :: splitWords [] cs
  | c :: cs => if isGap c then word :: splitWords [] cs else splitWords (word ++ [c]) cs

/-- The words of a text, without the mark that a text may start with. -/
private def wordsOf (text : String) : Option (List String) :=
  let cs := match text.toList with
    | '\ufeff' :: cs => cs
    | cs => cs
  (stripFrom .none cs).map fun cs =>
    ((splitWords [] cs).filter (!·.isEmpty)).map String.ofList

/-- A text that is one name. -/
def Ident.named? (text : String) : Option Ident :=
  match wordsOf text with
  | some [w] => (Ident.ofText? w).filter (!isReserved ·)
  | _ => none

namespace Path

/-- One part of a path. -/
private def segment? (word : String) : Option Ident :=
  (Ident.ofText? word).filter fun i =>
    !isReserved i || ["self", "Self", "super", "crate", "try"].contains i.name

/-- Parts with `::` between them. -/
private def segments? : List String → Option (List Ident)
  | [w] => (segment? w).map ([·])
  | w :: sep :: rest =>
    if sep = "::" then
      match segment? w, segments? rest with
      | some i, some is => some (i :: is)
      | _, _ => none
    else none
  | [] => none

/-- The path that a text spells. -/
def ofText? (text : String) : Option Path :=
  match wordsOf text with
  | some ("::" :: rest) => (segments? rest).map (⟨true, ·⟩)
  | some words => (segments? words).map (⟨false, ·⟩)
  | none => none

end Path

end Signpost.Code
