import Signpost.Diagnosis
import Signpost.Hexadecimal
import Signpost.Json.Fault

/-!
# Quoted strings

Reading the inside of a quoted string. The text is first cut into pieces, plain characters and 16-bit
units written in hexadecimal, up to the closing quote or the first fault (`cut`); then units are joined
into characters (`join`). A unit of a surrogate pair that stands alone is a fault of joining only.
-/

namespace Signpost.Json.Quoted

/-- A character, or a unit of 16 bits written as `\u` and four hexadecimal digits. -/
inductive Piece where
  | char (c : Char)
  | unit (n : Nat)
  deriving DecidableEq, Repr

/-- Where the cutting ended. -/
inductive Stop where
  | closed
  | textEnds
  | control
  | badEscape
  | badUnit (fault : Fault)
  deriving DecidableEq, Repr

/-- The pieces, the end, and what follows the closing quote. -/
structure Cut where
  pieces : List Piece
  stop : Stop
  rest : List Char

/-- Puts a piece in front. -/
def Cut.push (p : Piece) (c : Cut) : Cut := { c with pieces := p :: c.pieces }

/-- The number that four hexadecimal digits write. -/
def unit? (a b c d : Char) : Option Nat :=
  match Hexadecimal.value? a, Hexadecimal.value? b, Hexadecimal.value? c, Hexadecimal.value? d with
  | some a, some b, some c, some d => some (((a * 16 + b) * 16 + c) * 16 + d)
  | _, _, _, _ => none

/-- What an escape of one letter stands for. -/
def escaped? : Char → Option Char
  | '"' => some '"'
  | '\\' => some '\\'
  | '/' => some '/'
  | 'b' => some '\x08'
  | 'f' => some '\x0c'
  | 'n' => some '\n'
  | 'r' => some '\r'
  | 't' => some '\t'
  | _ => none

/-- The fault when four digits are wanted and not found: the text ends within the next four bytes, or
one of them is no digit. -/
def unitFault (cs : List Char) : Fault :=
  if byteLength (cs.take 4) < 4 then .endInString else .badEscape

/-- Cuts the text after an opening quote. -/
def cut : List Char → Cut
  | [] => ⟨[], .textEnds, []⟩
  | '"' :: rest => ⟨[], .closed, rest⟩
  | '\\' :: 'u' :: a :: b :: c :: d :: rest =>
    match unit? a b c d with
    | some n => (cut rest).push (.unit n)
    | none => ⟨[], .badUnit (unitFault [a, b, c, d]), []⟩
  | '\\' :: 'u' :: rest => ⟨[], .badUnit (unitFault rest), []⟩
  | '\\' :: c :: rest =>
    match escaped? c with
    | some e => (cut rest).push (.char e)
    | none => ⟨[], .badEscape, []⟩
  | ['\\'] => ⟨[], .textEnds, []⟩
  | c :: rest => if c.toNat < 0x20 then ⟨[], .control, []⟩ else (cut rest).push (.char c)

/-- Cutting moves forward. -/
theorem length_rest_cut_le (cs : List Char) : (cut cs).rest.length ≤ cs.length := by
  fun_induction cut cs <;> simp_all [Cut.push] <;> omega

/-- The fault at the end of the pieces, if the string is not closed. -/
def Stop.fault? : Stop → Option Fault
  | closed => none
  | textEnds => some .endInString
  | control => some .controlCharacter
  | badEscape => some .badEscape
  | badUnit f => some f

/-- The fault when the first half of a surrogate pair is the last piece. -/
def Stop.afterHalf : Stop → Fault
  | textEnds => .endInString
  | badUnit f => f
  | _ => .unpairedSurrogate

/-- Joins pieces into characters. A unit from `0xD800` to `0xDBFF` is the first half of a pair and one
from `0xDC00` to `0xDFFF` the second. -/
def join (stop : Stop) : List Piece → Except Fault (List Char)
  | [] =>
    match stop.fault? with
    | none => .ok []
    | some f => .error f
  | .char c :: ps => (join stop ps).map (c :: ·)
  | .unit n :: ps =>
    if 0xDC00 ≤ n ∧ n ≤ 0xDFFF then .error .loneSurrogate
    else if 0xD800 ≤ n ∧ n ≤ 0xDBFF then
      match ps with
      | .unit n₂ :: ps =>
        if 0xDC00 ≤ n₂ ∧ n₂ ≤ 0xDFFF then
          (join stop ps).map (Char.ofNat ((n - 0xD800) * 0x400 + (n₂ - 0xDC00) + 0x10000) :: ·)
        else .error .loneSurrogate
      | .char _ :: _ => .error .unpairedSurrogate
      | [] => .error stop.afterHalf
    else (join stop ps).map (Char.ofNat n :: ·)

/-- The string after an opening quote, and what follows its closing quote. -/
def scan (cs : List Char) : Scanned String × List Char :=
  let c := cut cs
  (⟨(join c.stop c.pieces).map String.ofList, c.stop.fault?⟩, c.rest)

end Signpost.Json.Quoted
