/-!
# Parts of strings

Cutting a part out of a text of ASCII, by places counted from its start or from its end.
-/

namespace Signpost.Substring

/-- Why nothing can be cut out. -/
inductive Fault where
  | order
  | beyondAscii
  | length
  deriving DecidableEq, Repr

/-- The fault in words. -/
def Fault.message : Fault → String
  | order => "start must be less than stop"
  | beyondAscii => "input must be ASCII"
  | length => "stop is past the end of the input"

/-- The characters between two places. -/
def slice (start stop : Nat) (cs : List Char) : List Char := (cs.take stop).drop start

/-- The part of a text between two places, which are counted from the end if it is reversed. -/
def cut (s : String) (start stop : Nat) (reverse : Bool) : Except Fault String :=
  let cs := s.toList
  let length := cs.length
  if stop ≤ start then .error .order
  else if !cs.all (·.toNat < 0x80) then .error .beyondAscii
  else if length < stop then .error .length
  else if reverse then .ok (String.ofList (slice (length - stop) (length - start) cs))
  else .ok (String.ofList (slice start stop cs))

end Signpost.Substring
