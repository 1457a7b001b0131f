import Signpost.Pattern.Class
import Signpost.Pattern.Matching
import Signpost.Unicode.Alphanumeric

/-!
# Reading patterns

Patterns are read from left to right: `Level` is what has been read of a group, and a step reads one
character, escape, class or operator. Reading ends as each step leaves less of the text.
-/

namespace Signpost.Pattern

/-- What has been read of a group. -/
structure Level where
  /-- The flags that hold again after the group. -/
  outerFlags : Flags
  /-- The choices before the last bar. -/
  choices : Option Pattern
  /-- What has been read since, the last first. -/
  items : List Pattern
  /-- Whether the last item may be repeated. -/
  canRepeat : Bool

namespace Level

/-- The start of a group. -/
def start (outerFlags : Flags) : Level := ⟨outerFlags, none, [], false⟩

/-- One more item. -/
def add (l : Level) (p : Pattern) : Level := { l with items := p :: l.items, canRepeat := true }

/-- The pattern of what has been read. -/
def close (l : Level) : Pattern :=
  let last := l.items.foldl (fun q p => seq p q) empty
  match l.choices with
  | none => last
  | some p => alt p last

/-- The start of another choice. -/
def bar (l : Level) : Level := ⟨l.outerFlags, some l.close, [], false⟩

/-- Repeats the last item. -/
def repeatLast (l : Level) (least : Nat) (most : Option Nat) : Except Fault Level :=
  match l.items with
  | p :: ps => if l.canRepeat then .ok ({ l with items := ps }.add (times p least most))
    else .error .nothingToRepeat
  | [] => .error .nothingToRepeat

end Level

/-- A pattern that is being read. -/
structure Reader where
  flags : Flags
  inner : Level
  outer : List Level
  names : List (List Char)
  rest : List Char

/-! ### Counts -/

/-- A number that fits into 32 bits; blanks around it do not count. -/
def readCount (f : Flags) (cs : List Char) : Except Fault (Nat × List Char) :=
  let isBlank (c : Char) : Bool := Unicode.blank.contains c
  let isPart (c : Char) : Bool := c.isDigit || (f.loose && isBlank c)
  let cs := cs.dropWhile isBlank
  let digits := (cs.takeWhile isPart).filter Char.isDigit
  let n := digits.foldl (fun n d => 10 * n + (d.toNat - '0'.toNat)) 0
  if digits.isEmpty || 0x100000000 ≤ n then .error .count
  else .ok (n, (cs.dropWhile isPart).dropWhile isBlank)

/-- How often to repeat, after an opening brace. -/
def readTimes (f : Flags) (cs : List Char) : Except Fault ((Nat × Option Nat) × List Char) := do
  let (least, cs) ← readCount f (f.skip cs)
  match cs with
  | '}' :: cs => return ((least, some least), cs)
  | ',' :: cs =>
    match f.skip cs with
    | '}' :: cs => return ((least, none), cs)
    | cs =>
      let (most, cs) ← readCount f cs
      match cs with
      | '}' :: cs => if most < least then throw .countOrder else return ((least, some most), cs)
      | _ => throw .count
  | _ => throw .count

/-! ### Groups -/

/-- The flags with one of them switched. -/
def Flags.switch? (f : Flags) (value : Bool) : Char → Option Flags
  | 'i' => some { f with anyCase := value }
  | 'm' => some { f with lines := value }
  | 's' => some { f with dotAll := value }
  | 'R' => some { f with returns := value }
  | 'x' => some { f with loose := value }
  | 'u' => some { f with wide := value }
  | 'U' => some f
  | _ => none

/-- The letters of flags, each of which may stand once. Those after a hyphen are switched off, and a
hyphen has to have a letter after it. -/
def switchAll (f : Flags) (value : Bool) (seen : List Char) : List Char → Except Fault Flags
  | [] => if seen.head? = some '-' then .error .flag else .ok f
  | c :: cs =>
    if seen.contains c then .error .flag
    else if c = '-' then switchAll f false (c :: seen) cs
    else
      match f.switch? value c with
      | some g => switchAll g value (c :: seen) cs
      | none => .error .flag

/-- Whether a character may be part of the name of a group. -/
def isNameChar (isFirst : Bool) (c : Char) : Bool :=
  c == '_' || (if isFirst then Unicode.alphanumeric.contains c && !c.isDigit
    else Unicode.alphanumeric.contains c || c == '.' || c == '[' || c == ']')

/-- The name of a group, after its opening bracket, and what follows it. -/
def readName (cs : List Char) : Except Fault (List Char × List Char) :=
  let name := cs.takeWhile (· ≠ '>')
  match name, cs.dropWhile (· ≠ '>') with
  | c :: name, _ :: rest =>
    if isNameChar true c && name.all (isNameChar false) then .ok (c :: name, rest)
    else .error .groupName
  | _, _ => .error .groupName

/-- The start of a named group. -/
def Reader.openNamed (r : Reader) (cs : List Char) : Except Fault Reader := do
  let (name, rest) ← readName cs
  if r.names.contains name then throw .repeatedName
  return ⟨r.flags, .start r.flags, r.inner :: r.outer, name :: r.names, rest⟩

/-- The start of a group with flags, or flags for the rest of the group that is being read. -/
def Reader.openFlags (r : Reader) (cs : List Char) : Except Fault Reader := do
  let isEnd (c : Char) : Bool := c == ':' || c == ')'
  let letters := cs.takeWhile (!isEnd ·)
  let flags ← switchAll r.flags true [] letters
  match cs.dropWhile (!isEnd ·) with
  | ':' :: rest => return { r with flags, inner := .start r.flags, outer := r.inner :: r.outer, rest }
  | ')' :: rest =>
    if letters.isEmpty then throw .nothingToRepeat
    return { r with flags, inner := { r.inner with canRepeat := false }, rest }
  | _ => throw .unclosedGroup

/-- The start of a group, after its parenthesis. -/
def Reader.openGroup (r : Reader) (cs : List Char) : Except Fault Reader :=
  match r.flags.skip cs with
  | '?' :: '=' :: _ | '?' :: '!' :: _ | '?' :: '<' :: '=' :: _ | '?' :: '<' :: '!' :: _ =>
    .error .lookAround
  | '?' :: 'P' :: '<' :: cs | '?' :: '<' :: cs => r.openNamed cs
  | '?' :: cs => r.openFlags cs
  | cs => .ok { r with inner := .start r.flags, outer := r.inner :: r.outer, rest := cs }

/-- The end of a group, after its parenthesis. -/
def Reader.closeGroup (r : Reader) (cs : List Char) : Except Fault Reader :=
  match r.outer with
  | [] => .error .unopenedGroup
  | l :: ls =>
    .ok { r with flags := r.inner.outerFlags, inner := l.add r.inner.close, outer := ls, rest := cs }

/-! ### Steps -/

/-- What a point stands for. -/
def Flags.dot (f : Flags) : Except Fault Pattern :=
  if !f.wide then .error .partialCharacter
  else if f.dotAll then .ok (one .all)
  else if f.returns then .ok (one (.not (.union (.single '\n') (.single '\r'))))
  else .ok (one (.not (.single '\n')))

/-- The pattern of a character or an escape. -/
def Primitive.pattern (f : Flags) : Primitive → Pattern
  | .char c => one (f.range c c)
  | .cls s => one s
  | .assertion a => assert a

/-- The reader with one more item. -/
def Reader.add (r : Reader) (p : Pattern) (rest : List Char) : Reader :=
  { r with inner := r.inner.add p, rest }

/-- The reader with its last item repeated; a question mark after that asks for few rounds, which makes
no difference. -/
def Reader.repeatLast (r : Reader) (least : Nat) (most : Option Nat) (rest : List Char) :
    Except Fault Reader := do
  let inner ← r.inner.repeatLast least most
  return { r with inner, rest := if rest.head? = some '?' then rest.drop 1 else rest }

/-- One step: more of the pattern, or the whole of it. -/
def Reader.step (r : Reader) : Except Fault (Reader ⊕ Pattern) :=
  match r.flags.skip r.rest with
  | [] => if r.outer.isEmpty then .ok (.inr r.inner.close) else .error .unclosedGroup
  | '(' :: cs => (r.openGroup cs).map .inl
  | ')' :: cs => (r.closeGroup cs).map .inl
  | '|' :: cs => .ok (.inl { r with inner := r.inner.bar, rest := cs })
  | '[' :: cs => do
    let (s, rest) ← readClass r.flags cs
    return .inl (r.add (one s) rest)
  | '?' :: cs => (r.repeatLast 0 (some 1) cs).map .inl
  | '*' :: cs => (r.repeatLast 0 none cs).map .inl
  | '+' :: cs => (r.repeatLast 1 none cs).map .inl
  | '{' :: cs => do
    let ((least, most), rest) ← readTimes r.flags cs
    return .inl (← r.repeatLast least most (r.flags.skip rest))
  | '\\' :: cs => do
    let (p, rest) ← readEscape r.flags cs
    return .inl (r.add (p.pattern r.flags) rest)
  | '.' :: cs => do return .inl (r.add (← r.flags.dot) cs)
  | '^' :: cs =>
    .ok (.inl (r.add (assert (if r.flags.lines then .lineStart r.flags.returns else .textStart)) cs))
  | '$' :: cs =>
    .ok (.inl (r.add (assert (if r.flags.lines then .lineEnd r.flags.returns else .textEnd)) cs))
  | c :: cs => .ok (.inl (r.add ((Primitive.char c).pattern r.flags) cs))

/-- The pattern that the rest of the text completes. -/
def Reader.run (r : Reader) : Except Fault Pattern :=
  match r.step with
  | .error e => .error e
  | .ok (.inr p) => .ok p
  | .ok (.inl next) => if next.rest.length < r.rest.length then next.run else .error .unclosedGroup
termination_by r.rest.length

/-- The pattern that a text writes. -/
def ofText (s : String) : Except Fault Pattern :=
  (Reader.mk .standard (.start .standard) [] [] s.toList).run

end Signpost.Pattern
