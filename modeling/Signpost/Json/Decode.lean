import Signpost.Json.Value
import Signpost.Table
import Signpost.Unicode.Escape

/-!
# Documents in JSON

Reading a document of a known form from an outline. A `Decoder` walks the outline in the order of the
text, so of two mistakes the first one is reported, whether it is a fault of the text or a value that
the form does not allow. Records are read entry by entry into a draft (`record`); a record may also be
given as a list of its fields.
-/

namespace Signpost.Json

/-- What kind of value stands where another was wanted. -/
inductive Found where
  | null
  | bool (b : Bool)
  | number (n : Number)
  | string (s : String)
  | list
  | object
  /-- The name of a variant without the content it should have. -/
  | bareVariant

/-- The value in words. -/
def Found.describe : Found → String
  | null => "null"
  | bool b => "boolean `" ++ (if b then "true" else "false") ++ "`"
  | number (.int n) => "integer `" ++ toString n ++ "`"
  | number (.real x) => "floating point `" ++ Layout.signed.write x ++ "`"
  | string s => "string " ++ Unicode.quote s
  | list => "sequence"
  | object => "map"
  | bareVariant => "unit variant"

/-- Why a text is not a document of the wanted form. -/
inductive Mismatch where
  | fault (f : Fault)
  | wrongType (found : Found) (expected : String)
  | missing (field : String)
  | repeated (field : String)
  | unknownVariant (name : String) (expected : List String)
  /-- A variant given by its number, and how many there are. -/
  | noVariant (n : Int) (count : Nat)
  | wrongLength (length : Nat) (expected : String)
  /-- A value that is none of the alternatives of a type. -/
  | noAlternative (type : String)

/-- A list of names, of which one is expected. -/
def oneOf : List String → String
  | [] => "there are no variants"
  | [a] => "expected `" ++ a ++ "`"
  | [a, b] => "expected `" ++ a ++ "` or `" ++ b ++ "`"
  | names => "expected one of " ++ ", ".intercalate (names.map fun n => "`" ++ n ++ "`")

/-- The mismatch in words. -/
def Mismatch.message : Mismatch → String
  | fault f => f.message
  | wrongType found expected => "invalid type: " ++ found.describe ++ ", expected " ++ expected
  | missing field => "missing field `" ++ field ++ "`"
  | repeated field => "duplicate field `" ++ field ++ "`"
  | unknownVariant name expected => "unknown variant `" ++ name ++ "`, " ++ oneOf expected
  | noVariant n count =>
    "invalid value: integer `" ++ toString n ++ "`, expected variant index 0 <= i < " ++ toString count
  | wrongLength n expected => "invalid length " ++ toString n ++ ", expected " ++ expected
  | noAlternative type => "data did not match any variant of untagged enum " ++ type

/-- Whether an outline is read from the text, or once more after all of it has been read. Faults of
the text are found the first time. -/
inductive Source where
  | text
  | held
  deriving DecidableEq

/-- Reads something from an outline. -/
abbrev Decoder (α : Type) := Source → Outline → Except Mismatch α

/-- The mismatch with what is expected. -/
def Outline.mismatch (expected : String) (o : Outline) : Mismatch :=
  let wrong (found : Found) : Mismatch := .wrongType found expected
  match o with
  | .broken f | .brokenWord f => .fault f
  | .null => wrong .null
  | .bool b => wrong (.bool b)
  | .number n => match n.read with
    | .ok n => wrong (.number n)
    | .error f => .fault f
  | .string s => match s.read with
    | .ok s => wrong (.string s)
    | .error f => .fault f
  | .list _ _ _ => wrong .list
  | .object _ _ _ => wrong .object

/-- The result, unless there is a fault. -/
def orFault {α : Type} (f : Option Fault) (result : Except Mismatch α) : Except Mismatch α :=
  match f with
  | some f => .error (.fault f)
  | none => result

/-- Reads a scalar. -/
def orMismatch {α : Type} : Except Fault α → Except Mismatch α
  | .ok a => .ok a
  | .error f => .error (.fault f)

namespace Decoder

/-- A string; `expected` is what it stands for. -/
def stringAs (expected : String) : Decoder String := fun _ o =>
  match o with
  | .string s => orMismatch s.read
  | o => .error (o.mismatch expected)

def string : Decoder String := stringAs "a string"

def bool : Decoder Bool := fun _ o =>
  match o with
  | .bool b => .ok b
  | o => .error (o.mismatch "a boolean")

/-- Nothing for `null`. -/
def optional {α : Type} (d : Decoder α) : Decoder (Option α) := fun src o =>
  match o with
  | .null => .ok none
  | o => (d src o).map some

/-- Any value at all. -/
def value : Decoder Value := fun _ o => orMismatch o.read

/-- A list of which each item is read. -/
def list {α : Type} (d : Decoder α) : Decoder (List α) := fun src o =>
  match o with
  | .list level items ending =>
    if Outline.maxLevel ≤ level then .error (.fault .tooDeep)
    else do
      let as ← items.mapM (d src)
      orFault ending.list? (.ok as)
  | o => .error (o.mismatch "a sequence")

/-- The entries of an object in the order of the text; a repeated key replaces the earlier value. -/
def entries {α : Type} (d : Decoder α) : Decoder (Table String α) := fun src o =>
  match o with
  | .object level es ending =>
    if Outline.maxLevel ≤ level then .error (.fault .tooDeep)
    else do
      let table ← es.foldlM (fun (table : Table String α) (k, o) => do
        let key ← orMismatch k.read
        let a ← d src o
        return table.put key a) []
      orFault ending.object? (.ok table)
  | o => .error (o.mismatch "a map")

/-- One of the named variants, of which each stands for a value. A value that is held may also be the
number of a variant. -/
def variant {α : Type} (variants : List (String × α)) : Decoder α := fun src o =>
  match o with
  | .string s => do
    let name ← orMismatch s.read
    match variants.find? (·.1 = name) with
    | some v => return v.2
    | none => .error (.unknownVariant name (variants.map (·.1)))
  | .number ⟨.ok (.int n), _⟩ =>
    if src = .held ∧ 0 ≤ n then
      match variants[n.toNat]? with
      | some v => .ok v.2
      | none => .error (.noVariant n variants.length)
    else .error (o.mismatch "variant identifier")
  | o => .error (o.mismatch "variant identifier")

/-- The entries of an object without the one under `tag`, which is read at once, and that one. The other
values are read to be held. -/
def splitTag {α : Type} (tag : String) (kind : Decoder α) (src : Source) :
    Option α → List (Scanned String × Outline) →
      Except Mismatch (Option α × List (Scanned String × Outline))
  | found, [] => .ok (found, [])
  | found, (k, o) :: es => do
    let key ← orMismatch k.read
    if key = tag then
      if found.isSome then .error (.repeated tag)
      else splitTag tag kind src (some (← kind src o)) es
    else
      let _ ← orMismatch o.read
      let (found, rest) ← splitTag tag kind src found es
      return (found, (k, o) :: rest)

/-- A value of one of several kinds, given by the name of the kind under `tag` and the content of that
kind beside it. A list has the kind as its first item and the content in the others. -/
def tagged {α : Type} (tag expected : String) (kinds : List (String × Decoder α)) : Decoder α :=
  fun src o =>
    match o with
    | .object level es ending =>
      if Outline.maxLevel ≤ level then .error (.fault .tooDeep)
      else do
        let (found, rest) ← splitTag tag (variant kinds) src none es
        match ending.object?, found with
        | some f, _ => .error (.fault f)
        | none, none => .error (.missing tag)
        | none, some content => content .held (.object level rest .closed)
    | .list level items ending =>
      if Outline.maxLevel ≤ level then .error (.fault .tooDeep)
      else
        match items with
        | [] => orFault ending.list? (.error (.missing tag))
        | i :: is => do
          let content ← variant kinds src i
          let _ ← is.mapM fun o => orMismatch o.read
          orFault ending.list? (content .held (.list level is .closed))
    | o => .error (o.mismatch expected)

/-- An alternative that is given by its name alone or by an object with its name and its content. -/
structure Alternative (α : Type) where
  name : String
  /-- What the name alone stands for, if it may stand alone. -/
  bare : Option α
  content : Decoder α

/-- One of the alternatives, read from a text. -/
def alternative {α : Type} (alternatives : List (Alternative α)) : Decoder α := fun src o =>
  let named (name : String) : Except Mismatch (Alternative α) :=
    match alternatives.find? (·.name = name) with
    | some a => .ok a
    | none => .error (.unknownVariant name (alternatives.map (·.name)))
  match o with
  | .string s => do
    let a ← named (← orMismatch s.read)
    match a.bare with
    | some result => return result
    | none => .error (.wrongType .bareVariant "newtype variant")
  | .object level es ending =>
    if Outline.maxLevel ≤ level then .error (.fault .tooDeep)
    else
      match es with
      | [] =>
        match ending with
        | .cut _ => .error (.fault .endInValue)
        | .noKey rest => .error ((Outline.ofText .scaled rest).1.mismatch "variant identifier")
        | .badKey k => do
          let name ← orMismatch k.read
          let _ ← named name
          .error (.fault .endInObject)
        | _ => .error (.fault .noValue)
      | (k, v) :: rest => do
        let a ← named (← orMismatch k.read)
        let result ← a.content src v
        match rest, ending with
        | [], .closed => return result
        | [], .cut false => .error (.fault .endInObject)
        | _, _ => .error (.fault .noValue)
  | .broken f => .error (.fault f)
  | _ => .error (.fault .noValue)

end Decoder

/-- A field of a record that is read into a draft of type `σ`. -/
structure Field (σ : Type) where
  name : String
  required : Bool
  /-- Whether a record given as a list needs the field. -/
  requiredInList : Bool
  isSet : σ → Bool
  read : Source → Outline → σ → Except Mismatch σ

/-- A field with a getter and a setter of the draft. -/
def Field.of {σ α : Type} (name : String) (required : Bool) (get : σ → Option α)
    (set : α → σ → σ) (d : Decoder α) : Field σ :=
  ⟨name, required, required, fun s => (get s).isSome, fun src o s => (d src o).map (set · s)⟩

/-- A field that may be `null`, and may be left out of an object but not of a list. -/
def Field.nullable {σ α : Type} (name : String) (get : σ → Option (Option α))
    (set : Option α → σ → σ) (d : Decoder α) : Field σ :=
  { Field.of name false get set (Decoder.optional d) with requiredInList := true }

namespace Record

variable {σ : Type} (fields : List (Field σ))

/-- One entry of an object: a field, which must not be repeated, or something to pass over. -/
def entry (src : Source) (draft : σ) (e : Scanned String × Outline) : Except Mismatch σ := do
  let key ← orMismatch e.1.read
  match fields.find? (·.name = key) with
  | some f => if f.isSet draft then .error (.repeated key) else f.read src e.2 draft
  | none => if src = .held then .ok draft else orFault e.2.skip? (.ok draft)

/-- The draft, if every required field is set. -/
def complete (draft : σ) : Except Mismatch σ :=
  match fields.find? (fun f => f.required && !f.isSet draft) with
  | some f => .error (.missing f.name)
  | none => .ok draft

/-- Elements in words. -/
def elements (n : Nat) : String := toString n ++ (if n = 1 then " element" else " elements")

/-- The end of a record given as a list, of which `count` items have been read. -/
def finishList (src : Source) (draft : σ) (count : Nat) (items : List Outline) (ending : Ending) :
    Except Mismatch σ :=
  match src, items with
  | .held, [] => .ok draft
  | .held, items => .error (.wrongLength (count + items.length) (elements count ++ " in sequence"))
  | .text, _ :: _ => .error (.fault .trailingText)
  | .text, [] =>
    match ending with
    | .closed | .unknown => .ok draft
    | .danglingComma => .error (.fault .danglingComma)
    | .cut false => .error (.fault .endInList)
    | _ => .error (.fault .trailingText)

/-- Reads the items of a list into the fields in order. Fields that a list does not need may be left out
at the end. -/
def fromList (src : Source) (expected : String) (ending : Ending) :
    Nat → List (Field σ) → List Outline → σ → Except Mismatch σ
  | count, [], items, draft => finishList src draft count items ending
  | count, f :: fs, o :: items, draft => do
    let draft ← f.read src o draft
    fromList src expected ending (count + 1) fs items draft
  | count, f :: fs, [], draft =>
    match ending.list? with
    | some fault => .error (.fault fault)
    | none =>
      if f.requiredInList then .error (.wrongLength count expected)
      else fromList src expected ending count fs [] draft

/-- A record by its name, given as an object or as a list. -/
def decoder (name : String) (empty : σ) : Decoder σ := fun src o =>
  match o with
  | .object level es ending =>
    if Outline.maxLevel ≤ level then .error (.fault .tooDeep)
    else do
      let draft ← es.foldlM (entry fields src) empty
      orFault ending.object? (complete fields draft)
  | .list level items ending =>
    if Outline.maxLevel ≤ level then .error (.fault .tooDeep)
    else
      let expected := name ++ " with " ++ elements fields.length
      fromList src expected ending 0 fields items empty
  | o => .error (o.mismatch name)

/-- A record with a single field; nothing if the field is left out. -/
def single {α : Type} (name field : String) (required : Bool) (d : Decoder α) : Decoder (Option α) :=
  decoder [Field.of field required (fun s : Option α => s) (fun a _ => some a) d] name none

end Record

/-- A document: a text that holds one value of the wanted form and nothing else. -/
def decode {α : Type} (d : Decoder α) (text : String) : Except Mismatch α := do
  let (o, trailing) := Outline.ofText .scaled text.toList
  let a ← d .text o
  orFault trailing (.ok a)

end Signpost.Json
