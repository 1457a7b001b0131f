import Signpost.Web.Ipv4

/-!
# IPv6 addresses

Eight pieces of sixteen bits in hexadecimal with colons between them. Once, a run of zeros may be left
out, which leaves two colons side by side, and the last two pieces may be written as four decimal bytes.
-/

namespace Signpost.Web.Ipv6

/-- A piece: one to four hexadecimal digits. -/
def piece? (cs : List Char) : Option Nat :=
  if cs.isEmpty || 4 < cs.length then none else Ipv4.digits? 16 cs 0

/-- A byte in decimal, without zeros in front. -/
def byte? : List Char → Option Nat
  | [] => none
  | ['0'] => some 0
  | '0' :: _ => none
  | cs => (Ipv4.digits? 10 cs 0).filter (· < 256)

/-- The two pieces that four bytes with points between them make. -/
def bytes? (cs : List Char) : Option (List Nat) :=
  match (cs.splitOn '.').map byte? with
  | [some a, some b, some c, some d] => some [256 * a + b, 256 * c + d]
  | _ => none

/-- What stands between colons: pieces, or nothing where zeros are left out. -/
inductive Field where
  | pieces (ps : List Nat)
  | gap
  deriving DecidableEq, Repr

/-- The fields in order; only the last one may be written as bytes. -/
def fields? : List (List Char) → Option (List Field)
  | [] => some []
  | [f] =>
    if f.isEmpty then some [.gap]
    else (((piece? f).map ([·])).or (bytes? f)).map ([.pieces ·])
  | f :: fs => do
    let field ← if f.isEmpty then some .gap else (piece? f).map (.pieces [·])
    return field :: (← fields? fs)

/-- The fields without an empty one at the start, which needs another one after it. -/
def dropOuter? : List (List Char) → Option (List (List Char))
  | [] :: [] :: fs => some ([] :: fs)
  | [] :: _ => none
  | fs => some fs

/-- What stands between the colons of an address. Where zeros are left out at an end, the two colons
there have nothing on their outer side. -/
def split? (cs : List Char) : Option (List (List Char)) :=
  match cs.splitOn ':' with
  | [] | [_] | [_, _] => none
  | [[], [], []] => some [[]]
  | fs => (dropOuter? fs).bind fun fs => (dropOuter? fs.reverse).map List.reverse

/-- The address of fields: a gap stands for one zero at least, and there is at most one. -/
def ofFields? (fs : List Field) : Option (List Nat) :=
  let pieces : List Field → List Nat := List.flatMap (fun
    | .pieces ps => ps
    | .gap => [])
  let before := pieces (fs.takeWhile (· ≠ .gap))
  match fs.dropWhile (· ≠ .gap) with
  | [] => if before.length = 8 then some before else none
  | _ :: rest =>
    let after := pieces rest
    if rest.contains .gap || 8 ≤ before.length + after.length then none
    else some (before ++ List.replicate (8 - (before.length + after.length)) 0 ++ after)

/-- The pieces of an address. -/
def ofText? (cs : List Char) : Option (List Nat) := ((split? cs).bind fields?).bind ofFields?

end Signpost.Web.Ipv6
