import Signpost.Unicode.Direction
import Signpost.Unicode.HostName
import Signpost.Unicode.Joining
import Signpost.Web.Punycode

/-!
# Names of hosts

A name is labels with points between them. `ofChars?` replaces characters by those that stand for them in
names and refuses what is no name. Only whether a name is refused and what it is in ASCII matters, so a
character that would be replaced by others outside ASCII stays as it is.
-/

namespace Signpost.Web.HostName

open Unicode

/-- What a character is replaced by. -/
def replace (c : Char) : List Char :=
  if c.toNat < 0x80 then [c.toLower]
  else if hostIgnored.contains c then []
  else
    match hostRuns.findSome? (·.partner? c.toNat), hostForms.find? (·.1 = c.toNat) with
    | some n, _ => [Char.ofNat n]
    | none, some (_, form) => form.toList
    | none, none => [c]

/-- The characters of ASCII that are never part of a name. -/
def isForbidden (c : Char) : Bool :=
  c.toNat ≤ 0x20 || c.toNat = 0x7F || "%#/:<>?@[\\]^|".toList.contains c

/-- Whether a character may be part of a name once replacements are made. -/
def isAdmitted (c : Char) : Bool :=
  if c.toNat < 0x80 then !isForbidden c else !hostRefused.contains c

/-- Whether a character stands for itself in names. -/
def isFixed (c : Char) : Bool :=
  isAdmitted c && !c.isUpper && !hostIgnored.contains c && !hostMapped.contains c

/-- A character outside ASCII. -/
def isWide (c : Char) : Bool := 0x80 ≤ c.toNat

/-- A mark, which belongs to the character before it. -/
def isMark (c : Char) : Bool := nonspacing.contains c || spacingMark.contains c

/-! ### Directions -/

/-- The direction in which a character is written. -/
inductive Direction where
  | left
  | right
  | arabicNumber
  | europeanNumber
  | nonspacing
  | neutral
  deriving DecidableEq, Repr

/-- The direction of a character. -/
def directionOf (c : Char) : Direction :=
  if Unicode.rightToLeft.contains c then .right
  else if Unicode.arabicNumber.contains c then .arabicNumber
  else if Unicode.europeanNumber.contains c then .europeanNumber
  else if Unicode.nonspacing.contains c then .nonspacing
  else if Unicode.neutral.contains c then .neutral
  else .left

/-- Whether a label can be read in one direction: it starts with a letter of its direction, ends in one
or in a number, and holds no letter of the other. -/
def isOneWay (ds : List Direction) : Bool :=
  let last := (ds.reverse.dropWhile (· = .nonspacing)).head?
  match ds.head? with
  | none => true
  | some .right =>
    !ds.contains .left && !(ds.contains .arabicNumber && ds.contains .europeanNumber) &&
      (last = some .right || last = some .arabicNumber || last = some .europeanNumber)
  | some .left =>
    !ds.contains .right && !ds.contains .arabicNumber &&
      (last = some .left || last = some .europeanNumber)
  | some _ => false

/-! ### Joiners -/

/-- Whether letters join across a character. -/
def isTransparent (c : Char) : Bool := nonspacing.contains c || joinsThroughFormat.contains c

/-- The first character that letters do not join across. -/
def firstJoining (cs : List Char) : Option Char := cs.find? (!isTransparent ·)

/-- Whether a joiner or a separator of letters may stand between these; what is before comes in reverse. -/
def joins (isSeparator : Bool) (before after : List Char) : Bool :=
  (before.head?.any virama.contains) ||
    isSeparator &&
      (firstJoining before).any (fun c => joinsBoth.contains c || joinsAfter.contains c) &&
      (firstJoining after).any (fun c => joinsBoth.contains c || joinsBefore.contains c)

/-- Whether every joiner of a label stands where one may. -/
def joinersFit (before : List Char) : List Char → Bool
  | [] => true
  | c :: cs =>
    (if c = '\u200c' then joins true before cs else if c = '\u200d' then joins false before cs else true) &&
      joinersFit (c :: before) cs

/-! ### Labels -/

/-- What labels that hold an encoded text start with. -/
def encodedMark : List Char := ['x', 'n', '-', '-']

/-- The label with encoded text decoded. -/
def decode? (label : List Char) : Option (List Char) :=
  if encodedMark.isPrefixOf label then
    if label.any isWide then none
    else (Punycode.decode? (label.drop encodedMark.length)).filter fun cs =>
      cs.any isWide && cs.all isFixed
  else some label

/-- Whether a decoded label is one that names may have. -/
def isLabel (label : List Char) : Bool :=
  !(label.head?.any isMark) && joinersFit [] label

/-- The name that characters write, if they do. -/
def ofChars? (cs : List Char) : Option (List Char) := do
  let cs := cs.flatMap replace
  if !cs.all isAdmitted then none
  let labels ← (cs.splitOn '.').mapM decode?
  if !labels.all isLabel then none
  let directions := labels.map (·.map directionOf)
  if directions.any (fun ds => ds.contains .right || ds.contains .arabicNumber) &&
      !directions.all isOneWay then
    none
  return cs

end Signpost.Web.HostName
