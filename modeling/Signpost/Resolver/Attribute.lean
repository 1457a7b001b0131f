import Signpost.Resolver.Compiled

/-!
# Attribute paths

The paths by which rules read attributes of a value: names with points between them, of which the last
may be followed by the number of an element in brackets. `getAttr` reads a path from a value.
-/

namespace Signpost.Resolver

open Rules (Call)

/-- The parts of a path between points. -/
def segments : List Char → List (List Char)
  | [] => [[]]
  | c :: cs =>
    match segments cs with
    | s :: ss => if c = '.' then [] :: s :: ss else (c :: s) :: ss
    | [] => [[c]]

/-- A part of a path: the name of an attribute, the number of an element, or both. -/
structure Segment where
  name : List Char
  index : Option Nat
  deriving DecidableEq, Repr

namespace Segment

/-- A number that fits into 64 bits; a plus sign may stand in front. -/
def index? (cs : List Char) : Option Nat :=
  let digits := match cs with
    | '+' :: ds => ds
    | ds => ds
  let n := digits.foldl (fun n d => 10 * n + (d.toNat - '0'.toNat)) 0
  if digits.isEmpty || !digits.all Char.isDigit || 0x10000000000000000 ≤ n then none else some n

/-- The number between a bracket that was read and the one that ends the part. -/
def bracketed? (cs : List Char) : Option Nat :=
  match cs.reverse with
  | ']' :: ds => index? ds.reverse
  | _ => none

/-- A part of a path; it may not be empty. -/
def ofChars? (cs : List Char) : Option Segment :=
  let name := cs.takeWhile (· != '[')
  match cs.dropWhile (· != '[') with
  | [] => if name.isEmpty then none else some ⟨name, none⟩
  | _ :: rest => (bracketed? rest).map fun i => ⟨name, some i⟩

end Segment

/-- The attribute of a name of a value. -/
def readName (call : Call) (name : List Char) (c : Compiled) : Compiling Compiled :=
  let name := String.ofList name
  match c.ty with
  | .record record attributes =>
    match attributes.get? name with
    | none => fail (.badArgument (.noAttribute record name))
    | some (accessor, ty) =>
      match Code.Ident.ofText? accessor with
      | none => fail (.unnameable accessor)
      | some i => return .plain (.read c.value i) ty
  | .option _ => fail (.mismatch (.attributeOfOption call))
  | ty => fail (.mismatch (.attributeOf call name ty))

/-- The element of an array with a number, if there is one. -/
def readIndex (call : Call) (index : Nat) (c : Compiled) : Compiling Compiled :=
  if c.ty = .stringArray then return .plain (.item c.value index) (.option .string)
  else fail (.mismatch (.indexInto call c.ty))

/-- What the parts of a path lead to from a value. An element is always the end of a path. -/
def readPath (call : Call) : List (List Char) → Compiled → Compiling Compiled
  | [], c => return c
  | s :: ss, c =>
    match Segment.ofChars? s with
    | none => fail (.badArgument (.malformedPath call))
    | some ⟨name, index⟩ => do
      let c ← if name.isEmpty then pure c else readName call name c
      match index with
      | none => readPath call ss c
      | some i => if ss.isEmpty then readIndex call i c else fail (.unsupported .pathPastIndex)

/-- What a path leads to from a value. -/
def getAttr (call : Call) (path : List Char) (c : Compiled) : Compiling Compiled :=
  readPath call (segments path) c

end Signpost.Resolver
