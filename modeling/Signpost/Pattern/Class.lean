import Signpost.Pattern.Escape

/-!
# Classes in brackets

Reading a class of characters: items and ranges side by side, classes inside classes, and operations
between them, which are applied from left to right. `ClassLevel` is what has been read of one pair of
brackets. Reading ends as each step leaves less of the text.
-/

namespace Signpost.Pattern

/-- An operation on classes. -/
inductive ClassOp where
  | inter
  | diff
  | symmDiff
  deriving DecidableEq, Repr

/-- The result of the operation. -/
def ClassOp.apply : ClassOp → CharClass → CharClass → CharClass
  | inter, s, t => .inter s t
  | diff, s, t => .diff s t
  | symmDiff, s, t => .symmDiff s t

/-- What has been read inside a pair of brackets. -/
structure ClassLevel where
  isNegated : Bool
  /-- What stands before the last operation, and the operation. -/
  left : Option (CharClass × ClassOp)
  items : CharClass
  deriving Repr

namespace ClassLevel

/-- One more item. -/
def add (l : ClassLevel) (s : CharClass) : ClassLevel := { l with items := .union l.items s }

/-- What has been read, without a negation. -/
def sofar (l : ClassLevel) : CharClass :=
  match l.left with
  | none => l.items
  | some (s, op) => op.apply s l.items

/-- An operation on what has been read and what follows. -/
def operate (l : ClassLevel) (op : ClassOp) : ClassLevel :=
  { l with left := some (l.sofar, op), items := .none }

/-- The class. -/
def close (l : ClassLevel) : CharClass := if l.isNegated then .not l.sofar else l.sofar

end ClassLevel

/-- A range with both cases if case does not count. -/
def Flags.range (f : Flags) (a b : Char) : CharClass :=
  let s := CharClass.range a b
  if !f.anyCase then s
  else if f.wide then .anyCase s
  else .union s (.inter (.anyCase s) (.range '\x00' '\x7f'))

/-- A class of ASCII by its name. -/
def asciiClass? (f : Flags) (name : String) : Option CharClass :=
  let ranges (rs : List (Char × Char)) : CharClass :=
    rs.foldl (fun s (a, b) => .union s (f.range a b)) .none
  match name with
  | "alnum" => some (ranges [('0', '9'), ('A', 'Z'), ('a', 'z')])
  | "alpha" => some (ranges [('A', 'Z'), ('a', 'z')])
  | "ascii" => some (ranges [('\x00', '\x7f')])
  | "blank" => some (ranges [('\t', '\t'), (' ', ' ')])
  | "cntrl" => some (ranges [('\x00', '\x1f'), ('\x7f', '\x7f')])
  | "digit" => some (ranges [('0', '9')])
  | "graph" => some (ranges [('!', '~')])
  | "lower" => some (ranges [('a', 'z')])
  | "print" => some (ranges [(' ', '~')])
  | "punct" => some (ranges [('!', '/'), (':', '@'), ('[', '\x60'), ('\x7b', '~')])
  | "space" => some (ranges [('\t', '\r'), (' ', ' ')])
  | "upper" => some (ranges [('A', 'Z')])
  | "word" => some (ranges [('0', '9'), ('A', 'Z'), ('_', '_'), ('a', 'z')])
  | "xdigit" => some (ranges [('0', '9'), ('A', 'F'), ('a', 'f')])
  | _ => none

/-- A class of ASCII between `[:` and `:]`. -/
def readAsciiClass? (f : Flags) (cs : List Char) : Option (CharClass × List Char) :=
  match cs with
  | '[' :: ':' :: cs =>
    let (isNegated, cs) := match cs with
      | '^' :: cs => (true, cs)
      | cs => (false, cs)
    match cs.dropWhile (· ≠ ':') with
    | ':' :: ']' :: rest =>
      (asciiClass? f (String.ofList (cs.takeWhile (· ≠ ':')))).map fun s =>
        (if isNegated then .not s else s, rest)
    | _ => none
  | _ => none

/-- Hyphens at the start of a class stand for themselves. -/
def leadingHyphens (f : Flags) (l : ClassLevel) : List Char → ClassLevel × List Char
  | [] => (l, [])
  | c :: cs =>
    if c = '-' then leadingHyphens f (l.add (f.range '-' '-')) cs
    else if f.loose && Unicode.blank.contains c then leadingHyphens f l cs
    else (l, c :: cs)

/-- The start of a class, after its bracket. A closing bracket that comes first stands for itself. -/
def openClass (f : Flags) (cs : List Char) : Except Fault (ClassLevel × List Char) :=
  let (isNegated, cs) := match f.skip cs with
    | '^' :: cs => (true, f.skip cs)
    | cs => (false, cs)
  let start : ClassLevel := ⟨isNegated, none, .none⟩
  let (l, rest) := leadingHyphens f start cs
  match rest with
  | [] => .error .unclosedClass
  | ']' :: rest =>
    if cs.head? = some '-' then .ok (l, ']' :: rest)
    else if (f.skip rest).isEmpty then .error .unclosedClass
    else .ok (l.add (f.range ']' ']'), f.skip rest)
  | rest => .ok (l, rest)

/-- An item of a class. -/
def readItem (f : Flags) : List Char → Except Fault (Primitive × List Char)
  | [] => .error .unclosedClass
  | '\\' :: cs => readEscape f cs
  | c :: cs => .ok (.char c, cs)

/-- An item or a range. -/
def readRange (f : Flags) (cs : List Char) : Except Fault (CharClass × List Char) := do
  let (first, cs) ← readItem f cs
  let cs := f.skip cs
  let alone : Except Fault (CharClass × List Char) := match first with
    | .char c => .ok (f.range c c, cs)
    | .cls s => .ok (s, cs)
    | .assertion _ => .error .classItem
  match cs with
  | [] => .error .unclosedClass
  | '-' :: after =>
    let after := f.skip after
    if after.head? = some ']' || after.head? = some '-' then alone
    else do
      let (last, cs) ← readItem f after
      match first, last with
      | .char a, .char b => if a ≤ b then .ok (f.range a b, cs) else .error .rangeOrder
      | _, _ => .error .rangeEnd
  | _ => alone

/-- A class that is being read: its levels, the innermost first, and what is left of the text. -/
structure ClassReader where
  inner : ClassLevel
  outer : List ClassLevel
  rest : List Char

/-- One step: more of the class, or the class and what follows it. -/
def ClassReader.step (f : Flags) (r : ClassReader) :
    Except Fault (ClassReader ⊕ (CharClass × List Char)) :=
  let go (l : ClassLevel) (rest : List Char) : ClassReader ⊕ (CharClass × List Char) :=
    .inl { r with inner := l, rest }
  match f.skip r.rest with
  | [] => .error .unclosedClass
  | ']' :: cs =>
    match r.outer with
    | [] => .ok (.inr (r.inner.close, cs))
    | l :: ls => .ok (.inl ⟨l.add r.inner.close, ls, cs⟩)
  | '&' :: '&' :: cs => .ok (go (r.inner.operate .inter) cs)
  | '-' :: '-' :: cs => .ok (go (r.inner.operate .diff) cs)
  | '~' :: '~' :: cs => .ok (go (r.inner.operate .symmDiff) cs)
  | '[' :: cs =>
    match readAsciiClass? f ('[' :: cs) with
    | some (s, rest) => .ok (go (r.inner.add s) rest)
    | none => do
      let (l, rest) ← openClass f cs
      return .inl ⟨l, r.inner :: r.outer, rest⟩
  | cs => do
    let (s, rest) ← readRange f cs
    return go (r.inner.add s) rest

/-- The class and what follows it. -/
def ClassReader.run (f : Flags) (r : ClassReader) : Except Fault (CharClass × List Char) :=
  match r.step f with
  | .error e => .error e
  | .ok (.inr result) => .ok result
  | .ok (.inl next) => if next.rest.length < r.rest.length then next.run f else .error .unclosedClass
termination_by r.rest.length

/-- The class after a bracket, and what follows it. -/
def readClass (f : Flags) (cs : List Char) : Except Fault (CharClass × List Char) := do
  let (l, rest) ← openClass f cs
  let (s, rest) ← (ClassReader.mk l [] rest).run f
  if !f.wide && !s.isAscii then .error .partialCharacter else return (s, rest)

end Signpost.Pattern
