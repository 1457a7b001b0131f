import Signpost.Diagnosis

/-!
# Labels of hosts

A label is a letter or a digit, followed by letters, digits and hyphens, at most 63 in all. Several labels
may stand with points between them where that is allowed.
-/

namespace Signpost.HostLabel

/-- Why a text is not a label. -/
inductive Fault where
  | length (label : List Char)
  | leadingHyphen (label : List Char)
  | character (label : List Char) (c : Char)
  deriving DecidableEq, Repr

/-- The fault in words. -/
def Fault.message : Fault → String
  | length label => "`" ++ String.ofList label ++ "` must be between 1 and 63 characters"
  | leadingHyphen label => "`" ++ String.ofList label ++ "` cannot start with `-`"
  | character label c =>
    "`" ++ String.ofList label ++ "` contains invalid character `" ++ c.toString ++ "`"

/-- A character of a label. -/
def isLabelChar (c : Char) : Bool := c.isAlphanum || c == '-'

/-- Checks a label; its length is counted in bytes. -/
def checkLabel (label : List Char) : Except Fault Unit :=
  if label.isEmpty || 63 < byteLength label then .error (.length label)
  else if label.head? = some '-' then .error (.leadingHyphen label)
  else
    match label.find? (!isLabelChar ·) with
    | some c => .error (.character label c)
    | none => .ok ()

/-- Checks a label, or labels with points between them; the first one that is wrong counts. -/
def check (s : String) (allowsSubdomains : Bool) : Except Fault Unit :=
  if allowsSubdomains then (s.toList.splitOn '.').forM checkLabel else checkLabel s.toList

end Signpost.HostLabel
