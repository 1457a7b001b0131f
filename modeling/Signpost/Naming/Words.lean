import Signpost.Unicode.Alphanumeric
import Signpost.Unicode.Cased
import Signpost.Unicode.CaseMap

/-!
# Words of a name

Cutting a name into words and joining them in another style. Whatever is neither letter nor number
separates words; so does a change from lowercase to uppercase, and of several capitals before a
lowercase letter the last one starts a word.
-/

namespace Signpost.Naming

/-- The runs of letters and numbers of a text; two separators in a row have an empty run between
them. -/
def runs : List Char → List (List Char)
  | [] => [[]]
  | c :: cs =>
    match Unicode.alphanumeric.contains c, runs cs with
    | true, r :: rs => (c :: r) :: rs
    | true, [] => [[c]]
    | false, rs => [] :: rs

/-- The case of the last letter of a word that has one. -/
inductive LastCase where
  | none
  | lower
  | upper
  deriving DecidableEq, Repr

/-- The case after one more character. -/
def LastCase.after (last : LastCase) (c : Char) : LastCase :=
  if Unicode.lowercase.contains c then .lower
  else if Unicode.uppercase.contains c then .upper
  else last

/-- The words of a run, of which `word` has been read. -/
def wordsFrom (last : LastCase) (word : List Char) : List Char → List (List Char)
  | [] => []
  | [c] => [word ++ [c]]
  | c :: next :: rest =>
    if last.after c = .lower ∧ Unicode.uppercase.contains next then
      (word ++ [c]) :: wordsFrom .none [] (next :: rest)
    else if last = .upper ∧ Unicode.uppercase.contains c ∧ Unicode.lowercase.contains next then
      word :: wordsFrom .none [c] (next :: rest)
    else wordsFrom (last.after c) (word ++ [c]) (next :: rest)

/-- The words of a name. -/
def words (name : List Char) : List (List Char) := (runs name).flatMap (wordsFrom .none [])

/-- A word in lowercase; a capital sigma at its end becomes a final sigma. -/
def lower : List Char → List Char
  | [] => []
  | ['Σ'] => ['ς']
  | c :: cs => Unicode.toLower c ++ lower cs

/-- A word with a capital first letter. -/
def capitalize : List Char → List Char
  | [] => []
  | c :: cs => Unicode.toUpper c ++ lower cs

/-- The name in lowercase words joined by underscores. -/
def snakeCase (name : String) : String :=
  String.ofList (['_'].intercalate ((words name.toList).map lower))

/-- The name in capitalized words. -/
def camelCase (name : String) : String := String.ofList ((words name.toList).flatMap capitalize)

end Signpost.Naming
