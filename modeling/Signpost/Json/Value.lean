import Signpost.Json.Outline

/-!
# JSON values

Values with the keys of every object in order and without repetition: of entries with one key the last
counts. `Outline.read` gives the value of a text that is read in full, `Value.write` the shortest text
of a value.
-/

namespace Signpost.Json

/-- A JSON value; the keys of an object are in ascending order. -/
inductive Value where
  | null
  | bool (b : Bool)
  | number (n : Number)
  | string (s : String)
  | array (items : List Value)
  | object (entries : List (String × Value))

/-- Puts an entry in its place among entries sorted by key, in place of one with the same key. -/
def insertSorted {α : Type} (key : String) (value : α) : List (String × α) → List (String × α)
  | [] => [(key, value)]
  | (k, v) :: es =>
    if key = k then (key, value) :: es
    else if key < k then (key, value) :: (k, v) :: es
    else (k, v) :: insertSorted key value es

/-- The entries sorted by key, of those with one key the last. -/
def sortEntries {α : Type} (entries : List (String × α)) : List (String × α) :=
  entries.foldl (fun sorted e => insertSorted e.1 e.2 sorted) []

namespace Outline

mutual

/-- Reads all of a value; the first fault in the order of the text is the error. -/
def read : Outline → Except Fault Value
  | broken f | brokenWord f => .error f
  | null => .ok .null
  | bool b => .ok (.bool b)
  | number n => n.read.map .number
  | string s => s.read.map .string
  | list level items ending =>
    if maxLevel ≤ level then .error .tooDeep
    else do
      let vs ← readItems items
      match ending.list? with
      | some f => .error f
      | none => .ok (.array vs)
  | object level entries ending =>
    if maxLevel ≤ level then .error .tooDeep
    else do
      let es ← readEntries entries
      match ending.object? with
      | some f => .error f
      | none => .ok (.object (sortEntries es))

def readItems : List Outline → Except Fault (List Value)
  | [] => .ok []
  | o :: os => do
    let v ← read o
    let vs ← readItems os
    .ok (v :: vs)

def readEntries : List (Scanned String × Outline) → Except Fault (List (String × Value))
  | [] => .ok []
  | (k, o) :: es => do
    let key ← k.read
    let v ← read o
    let vs ← readEntries es
    .ok ((key, v) :: vs)

end

end Outline

namespace Value

/-- The value of a text that holds nothing else. -/
def ofText (rule : RealRule) (cs : List Char) : Except Fault Value :=
  let (o, trailing) := Outline.ofText rule cs
  match o.read, trailing with
  | .ok _, some f => .error f
  | r, _ => r

/-- A character inside quotes: quotes, backslashes and control characters are escaped. -/
def writeChar (c : Char) : List Char :=
  match c with
  | '"' => ['\\', '"']
  | '\\' => ['\\', '\\']
  | '\x08' => ['\\', 'b']
  | '\x0c' => ['\\', 'f']
  | '\n' => ['\\', 'n']
  | '\r' => ['\\', 'r']
  | '\t' => ['\\', 't']
  | c =>
    if c.toNat < 0x20 then ['\\', 'u', '0', '0', Hexadecimal.small (c.toNat / 16), Hexadecimal.small (c.toNat % 16)]
    else [c]

/-- A string in quotes. -/
def quote (s : String) : String :=
  String.ofList ('"' :: (s.toList.flatMap writeChar ++ ['"']))

mutual

/-- The value without blanks. -/
def write : Value → String
  | null => "null"
  | bool b => if b then "true" else "false"
  | number n => n.write
  | string s => quote s
  | array items => "[" ++ ",".intercalate (writeItems items) ++ "]"
  | object entries => "\x7b" ++ ",".intercalate (writeEntries entries) ++ "\x7d"

def writeItems : List Value → List String
  | [] => []
  | v :: vs => write v :: writeItems vs

def writeEntries : List (String × Value) → List String
  | [] => []
  | (k, v) :: es => (quote k ++ ":" ++ write v) :: writeEntries es

end

end Value

end Signpost.Json
