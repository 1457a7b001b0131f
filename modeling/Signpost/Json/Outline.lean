import Signpost.Json.Quoted
import Signpost.Json.Number

/-!
# JSON text as far as it can be read

An `Outline` is what a text says up to its first fault: lists and objects remember how they end, and a
value that cannot be read is there as its fault. Whoever walks an outline in order meets the faults in
the order of the text, among faults of its own such as a value of the wrong kind. `Outline.ofText` never
fails; `skip?` gives the fault met when the value is passed over.
-/

namespace Signpost.Json

/-- What follows the last item of a list or the last entry of an object. -/
inductive Ending where
  /-- The closing bracket. -/
  | closed
  /-- The end of the text, after a comma or without one. -/
  | cut (afterComma : Bool)
  /-- A comma and the closing bracket. -/
  | danglingComma
  /-- Something that is neither a comma nor the closing bracket. -/
  | noComma
  /-- Something that is not a key, where a key should stand. -/
  | noKey (rest : List Char)
  /-- A key with a fault. -/
  | badKey (key : Scanned String)
  /-- The last item has a fault, so that nothing is known of what follows. -/
  | unknown

/-- The fault at the end of a list that is passed over. -/
def Ending.skipList? : Ending → Option Fault
  | .closed | .unknown => none
  | .cut false => some .endInList
  | .cut true => some .endInValue
  | .danglingComma => some .noValue
  | _ => some .noListComma

/-- The fault at the end of an object that is passed over. -/
def Ending.skipObject? : Ending → Option Fault
  | .closed | .unknown => none
  | .cut _ => some .endInObject
  | .noComma => some .noObjectComma
  | .badKey k => k.skip
  | _ => some .keyNotString

/-- The fault at the end of a list that is read. -/
def Ending.list? : Ending → Option Fault
  | .closed | .unknown => none
  | .cut false => some .endInList
  | .cut true => some .endInValue
  | .danglingComma => some .danglingComma
  | _ => some .noListComma

/-- The fault at the end of an object that is read. -/
def Ending.object? : Ending → Option Fault
  | .closed | .unknown => none
  | .cut false => some .endInObject
  | .cut true => some .endInValue
  | .danglingComma => some .danglingComma
  | .noComma => some .noObjectComma
  | .noKey _ => some .keyNotString
  | .badKey k => match k.read with
    | .error f => some f
    | .ok _ => k.skip

/-- A JSON text up to its first fault. The level of a list or object counts the lists and objects
around it and itself. -/
inductive Outline where
  | broken (fault : Fault)
  /-- The beginning of one of the words, but not all of it. -/
  | brokenWord (fault : Fault)
  | null
  | bool (b : Bool)
  | number (n : Scanned Number)
  | string (s : Scanned String)
  | list (level : Nat) (items : List Outline) (ending : Ending)
  | object (level : Nat) (entries : List (Scanned String × Outline)) (ending : Ending)

namespace Outline

/-- Blanks, tabs and line ends. -/
def isBlank (c : Char) : Bool := c == ' ' || c == '\n' || c == '\t' || c == '\r'

/-- The text without the blanks in front. -/
def skipBlanks (cs : List Char) : List Char := cs.dropWhile isBlank

theorem length_skipBlanks_le (cs : List Char) : (skipBlanks cs).length ≤ cs.length :=
  (List.dropWhile_suffix _).length_le

/-- Something read from a text of fewer than `bound` characters, and what is left of the text if it can
be read on. -/
structure Step (α : Type) (bound : Nat) where
  value : α
  rest : Option { cs : List Char // cs.length < bound }

/-- A step that ends the reading. -/
def Step.stop {α : Type} {bound : Nat} (value : α) : Step α bound := ⟨value, none⟩

/-- The same step, seen from a longer text. -/
def Step.weaken {α : Type} {m n : Nat} (h : m ≤ n) (s : Step α m) : Step α n :=
  ⟨s.value, s.rest.map fun r => ⟨r.1, Nat.lt_of_lt_of_le r.2 h⟩⟩

/-- The rest of one of the words `null`, `true` and `false`. -/
def word (value : Outline) (cs : List Char) : (expected : List Char) → Step Outline (cs.length + 1)
  | [] => ⟨value, some ⟨cs, Nat.lt_succ_self _⟩⟩
  | e :: es =>
    match cs with
    | [] => .stop (.brokenWord .endInValue)
    | c :: cs =>
      if c = e then (word value cs es).weaken (by simp) else .stop (.brokenWord .badWord)

/-- A step over a scalar: reading goes on unless there is a fault in passing over it. -/
def scalar {α : Type} {bound : Nat} (make : Scanned α → Outline) (s : Scanned α × List Char)
    (h : s.2.length < bound) : Step Outline bound :=
  ⟨make s.1, if s.1.skip.isSome then none else some ⟨s.2, h⟩⟩

mutual

/-- The value at the front of a text. -/
def value (rule : RealRule) (level : Nat) (cs : List Char) : Step Outline cs.length :=
  match cs with
  | [] => .stop (.broken .endInValue)
  | c :: rest =>
    if isBlank c then (value rule level rest).weaken (by simp)
    else if c = 'n' then word .null rest ['u', 'l', 'l']
    else if c = 't' then word (.bool true) rest ['r', 'u', 'e']
    else if c = 'f' then word (.bool false) rest ['a', 'l', 's', 'e']
    else if c = '"' then
      scalar .string (Quoted.scan rest) (Nat.lt_succ_of_le (Quoted.length_rest_cut_le rest))
    else if h : c = '-' ∨ c.isDigit then
      scalar .number (Number.scan rule (c :: rest)) (NumberText.length_scan_lt c rest h)
    else if c = '[' then
      let s := items rule level true rest
      ⟨.list level s.value.1 s.value.2, s.rest.map fun r => ⟨r.1, by simpa using Nat.lt_succ_of_lt r.2⟩⟩
    else if c = '{' then
      let s := entries rule level true rest
      ⟨.object level s.value.1 s.value.2,
        s.rest.map fun r => ⟨r.1, by simpa using Nat.lt_succ_of_lt r.2⟩⟩
    else .stop (.broken .noValue)
  termination_by (cs.length, 0)
  decreasing_by all_goals simp_wf; try omega

/-- The items of a list, after its bracket or after an item. -/
def items (rule : RealRule) (level : Nat) (first : Bool) (cs : List Char) :
    Step (List Outline × Ending) cs.length :=
  match cs with
  | [] => .stop ([], .cut false)
  | c :: rest =>
    if isBlank c then (items rule level first rest).weaken (by simp)
    else if c = ']' then ⟨([], .closed), some ⟨rest, by simp⟩⟩
    else if first then (item rule level (c :: rest)).weaken (Nat.le_refl _)
    else if c = ',' then
      match h : skipBlanks rest with
      | [] => .stop ([], .cut true)
      | d :: rest' =>
        have hle := length_skipBlanks_le rest
        if d = ']' then .stop ([], .danglingComma)
        else (item rule level (d :: rest')).weaken (by rw [h] at hle; simp at hle ⊢; omega)
    else .stop ([], .noComma)
  termination_by (cs.length, 2)
  decreasing_by
    all_goals simp_wf
    all_goals try omega
    all_goals (rw [h] at hle; simp at hle; try omega)

/-- One item of a list and those after it. -/
def item (rule : RealRule) (level : Nat) (cs : List Char) : Step (List Outline × Ending) cs.length :=
  let v := value rule (level + 1) cs
  match v.rest with
  | none => .stop ([v.value], .unknown)
  | some ⟨rest, h⟩ =>
    let s := items rule level false rest
    ⟨(v.value :: s.value.1, s.value.2), s.rest.map fun r => ⟨r.1, Nat.lt_trans r.2 h⟩⟩
  termination_by (cs.length, 1)
  decreasing_by all_goals try omega

/-- The entries of an object, after its brace or after an entry. -/
def entries (rule : RealRule) (level : Nat) (first : Bool) (cs : List Char) :
    Step (List (Scanned String × Outline) × Ending) cs.length :=
  match cs with
  | [] => .stop ([], .cut false)
  | c :: rest =>
    if isBlank c then (entries rule level first rest).weaken (by simp)
    else if c = '}' then ⟨([], .closed), some ⟨rest, by simp⟩⟩
    else if first then
      if c = '"' then (entry rule level rest).weaken (by simp)
      else .stop ([], .noKey (c :: rest))
    else if c = ',' then
      match h : skipBlanks rest with
      | [] => .stop ([], .cut true)
      | d :: rest' =>
        have hle := length_skipBlanks_le rest
        if d = '"' then (entry rule level rest').weaken (by rw [h] at hle; simp at hle ⊢; omega)
        else if d = '}' then .stop ([], .danglingComma)
        else .stop ([], .noKey (d :: rest'))
    else .stop ([], .noComma)
  termination_by (cs.length, 2)
  decreasing_by
    all_goals simp_wf
    all_goals try omega
    all_goals (rw [h] at hle; simp at hle; try omega)

/-- One entry of an object, after the opening quote of its key, and those after it. -/
def entry (rule : RealRule) (level : Nat) (cs : List Char) :
    Step (List (Scanned String × Outline) × Ending) (cs.length + 1) :=
  let key := Quoted.scan cs
  if key.1.skip.isSome then .stop ([], .badKey key.1)
  else
    have hkey : key.2.length ≤ cs.length := Quoted.length_rest_cut_le cs
    match h : skipBlanks key.2 with
    | [] => .stop ([(key.1, .broken .endInObject)], .unknown)
    | c :: rest =>
      have hle := length_skipBlanks_le key.2
      if c = ':' then
        let v := value rule (level + 1) rest
        match v.rest with
        | none => .stop ([(key.1, v.value)], .unknown)
        | some ⟨rest', h'⟩ =>
          let s := entries rule level false rest'
          ⟨((key.1, v.value) :: s.value.1, s.value.2),
            s.rest.map fun r => ⟨r.1, by
              have := r.2; rw [h] at hle; simp at hle; omega⟩⟩
      else .stop ([(key.1, .broken .noColon)], .unknown)
  termination_by (cs.length, 1)
  decreasing_by
    all_goals (rw [h] at hle; simp at hle; omega)

end

/-- Reads a text: its outline, and the fault after the value if something but blanks follows. -/
def ofText (rule : RealRule) (cs : List Char) : Outline × Option Fault :=
  let v := value rule 1 cs
  match v.rest with
  | none => (v.value, none)
  | some ⟨rest, _⟩ => (v.value, if (skipBlanks rest).isEmpty then none else some .trailingText)

mutual

/-- The fault met in passing over a value. -/
def skip? : Outline → Option Fault
  | broken f | brokenWord f => some f
  | null | bool _ => none
  | number n => n.skip
  | string s => s.skip
  | list _ items ending => skipItems? items <|> ending.skipList?
  | object _ entries ending => skipEntries? entries <|> ending.skipObject?

def skipItems? : List Outline → Option Fault
  | [] => none
  | o :: os => skip? o <|> skipItems? os

def skipEntries? : List (Scanned String × Outline) → Option Fault
  | [] => none
  | (_, o) :: es => skip? o <|> skipEntries? es

end

/-- The level from which lists and objects are not read. -/
def maxLevel : Nat := 128

end Outline

end Signpost.Json
