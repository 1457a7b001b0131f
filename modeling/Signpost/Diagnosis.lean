/-!
# Diagnoses

What a reader of texts says about a text that it refuses: the kind of mistake, a sentence, and the byte
at which it lies, where that is known. Each reader has causes of its own and a function from them to
diagnoses.
-/

namespace Signpost

/-- The kinds of mistakes that readers report. -/
inductive Diagnosis.Kind where
  | syntaxError
  | unexpectedToken
  | unexpectedEnd
  | invalidNumber
  | invalidLiteral
  | invalidTemplate
  | invalidDocument
  deriving DecidableEq, Repr

/-- The kind in words. -/
def Diagnosis.Kind.title : Diagnosis.Kind → String
  | syntaxError => "Syntax error"
  | unexpectedToken => "Unexpected token"
  | unexpectedEnd => "Unexpected end of input"
  | invalidNumber => "Invalid number"
  | invalidLiteral => "Invalid literal"
  | invalidTemplate => "Invalid template"
  | invalidDocument => "Invalid document"

/-- A mistake in a text. -/
structure Diagnosis where
  kind : Diagnosis.Kind
  message : String
  offset : Option Nat
  deriving DecidableEq, Repr

/-- The diagnosis in one line. -/
def Diagnosis.render (d : Diagnosis) : String :=
  match d.offset with
  | some n => d.kind.title ++ ": offset " ++ toString n ++ ": " ++ d.message
  | none => d.kind.title ++ ": " ++ d.message

/-- The number of bytes that characters take in UTF-8. -/
def byteLength (cs : List Char) : Nat := cs.foldl (fun n c => n + c.utf8Size) 0

end Signpost
