import Signpost.Hexadecimal

/-!
# IPv4 addresses in URLs

A host whose last part is a number is an address of four bytes or no host at all. Numbers may be
decimal, octal or hexadecimal, and the last one fills all bytes that are left.
-/

namespace Signpost.Web.Ipv4

/-- The parts of a host, without an empty one after a point at the end. -/
def hostParts (host : List Char) : List (List Char) :=
  let ps := host.splitOn '.'
  if ps.length > 1 ∧ ps.getLast? = some [] then ps.dropLast else ps

/-- The digits of a number, given how many there are. -/
def digits? (base : Nat) : List Char → Nat → Option Nat
  | [], n => some n
  | c :: cs, n =>
    match Hexadecimal.value? c with
    | some d => if d < base then digits? base cs (base * n + d) else none
    | none => none

/-- A number: hexadecimal after `0x`, octal after `0`, otherwise decimal. -/
def number? : List Char → Option Nat
  | [] => none
  | '0' :: 'x' :: ds | '0' :: 'X' :: ds => digits? 16 ds 0
  | ['0'] => some 0
  | '0' :: ds => digits? 8 ds 0
  | ds => digits? 10 ds 0

/-- Whether a host ends in a number. -/
def endsInNumber (host : List Char) : Bool :=
  match (hostParts host).getLast? with
  | none => false
  | some p => (!p.isEmpty && p.all Char.isDigit) || (number? p).isSome

/-- The address that numbers write: all but the last one are bytes. -/
def ofNumbers? : List Nat → Option Nat
  | [] => none
  | ns =>
    let last := ns.getLast?.getD 0
    let bytes := ns.dropLast
    if 4 < ns.length || bytes.any (255 < ·) || Nat.pow 256 (5 - ns.length) ≤ last then none
    else some (bytes.foldl (fun a b => 256 * a + b) 0 * Nat.pow 256 (5 - ns.length) + last)

/-- The address that a host writes. -/
def ofHost? (host : List Char) : Option Nat := ((hostParts host).mapM number?).bind ofNumbers?

end Signpost.Web.Ipv4
