import Signpost.Hexadecimal

/-!
# Percent-encoding

A byte written as a percent sign and two hexadecimal digits. `encode` writes every byte so that is not
an unreserved character, and `decode?` reads the bytes back.
-/

namespace Signpost.Web.Percent

/-- The characters that need no encoding anywhere in a URI. -/
def isUnreserved (c : Char) : Bool :=
  c.isAlphanum || c == '-' || c == '.' || c == '_' || c == '~'

/-- A byte in encoded form. -/
def encodeByte (b : UInt8) : List Char :=
  ['%', Hexadecimal.capital (b.toNat / 16), Hexadecimal.capital (b.toNat % 16)]

/-- A character, or its bytes in encoded form. -/
def encodeChar (c : Char) : List Char :=
  if isUnreserved c then [c] else (String.utf8EncodeChar c).flatMap encodeByte

/-- The text with everything encoded but unreserved characters. -/
def encode (s : String) : String := String.ofList (s.toList.flatMap encodeChar)

/-- The bytes of a text in which some may be encoded; a percent sign without two digits stands for
itself. -/
def bytes : List Char → List UInt8
  | [] => []
  | '%' :: a :: b :: cs =>
    match Hexadecimal.value? a, Hexadecimal.value? b with
    | some x, some y => UInt8.ofNat (16 * x + y) :: bytes cs
    | _, _ => String.utf8EncodeChar '%' ++ bytes (a :: b :: cs)
  | c :: cs => String.utf8EncodeChar c ++ bytes cs

/-- The text that the bytes are the UTF-8 form of. -/
def decode? (s : String) : Option String := String.fromUTF8? (bytes s.toList).toByteArray

end Signpost.Web.Percent
