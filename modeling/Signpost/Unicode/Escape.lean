import Signpost.Unicode.Printable

/-!
# Escaped characters

How a character is shown between double quotes: quotes, backslashes and line ends with a backslash, and
by its code point whatever attaches to the character before it or is not printable.
-/

namespace Signpost.Unicode

/-- A character as shown between double quotes. -/
def escape (c : Char) : List Char :=
  match c with
  | '\x00' => ['\\', '0']
  | '\t' => ['\\', 't']
  | '\r' => ['\\', 'r']
  | '\n' => ['\\', 'n']
  | '"' => ['\\', '"']
  | '\\' => ['\\', '\\']
  | c =>
    if graphemeExtend.contains c || unprintable.contains c then
      '\\' :: 'u' :: '{' :: (Nat.toDigits 16 c.toNat ++ ['}'])
    else [c]

/-- A text between double quotes. -/
def quote (s : String) : String := String.ofList ('"' :: (s.toList.flatMap escape ++ ['"']))

end Signpost.Unicode
