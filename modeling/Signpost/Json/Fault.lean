/-!
# Faults in JSON text

What can be wrong with a text that should be JSON, and the sentence that says so.
-/

namespace Signpost.Json

/-- A reason why a text is not JSON, or not JSON that can be held. -/
inductive Fault where
  | endInList
  | endInObject
  | endInString
  | endInValue
  | noColon
  | noListComma
  | noObjectComma
  | badWord
  | noValue
  | badEscape
  | badNumber
  | numberTooLarge
  | controlCharacter
  | keyNotString
  | loneSurrogate
  | unpairedSurrogate
  | danglingComma
  | trailingText
  | tooDeep
  deriving DecidableEq, Repr

/-- The fault in words. -/
def Fault.message : Fault → String
  | endInList => "EOF while parsing a list"
  | endInObject => "EOF while parsing an object"
  | endInString => "EOF while parsing a string"
  | endInValue => "EOF while parsing a value"
  | noColon => "expected `:`"
  | noListComma => "expected `,` or `]`"
  | noObjectComma => "expected `,` or `\x7d`"
  | badWord => "expected ident"
  | noValue => "expected value"
  | badEscape => "invalid escape"
  | badNumber => "invalid number"
  | numberTooLarge => "number out of range"
  | controlCharacter => "control character (\\u0000-\\u001F) found while parsing a string"
  | keyNotString => "key must be a string"
  | loneSurrogate => "lone leading surrogate in hex escape"
  | unpairedSurrogate => "unexpected end of hex escape"
  | danglingComma => "trailing comma"
  | trailingText => "trailing characters"
  | tooDeep => "recursion limit exceeded"

/-- A scalar as it stands in a text. Passing over it asks less of it than reading it: half of a
surrogate pair or a number too large is a fault only when read. -/
structure Scanned (α : Type) where
  read : Except Fault α
  skip : Option Fault
  deriving Repr

/-- Something that cannot be read and cannot be passed over, for the same reason. -/
def Scanned.broken {α : Type} (f : Fault) : Scanned α := ⟨.error f, some f⟩

end Signpost.Json
