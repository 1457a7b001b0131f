import Signpost.Table

/-!
# Reading command lines

Options and operands in the words of a command line. A long option is followed by its value, or by `=`
and its value; short ones may stand together behind one dash, and what follows one that takes a value is
its value. Behind `--` there are only operands. A value is taken over when the next word is looked at,
and it is then that a missing or repeated one is noticed.
-/

namespace Signpost.CommandLine

/-- What is wrong with a command line, or asked for instead of running a command. -/
inductive Refusal where
  | missingArgument
  | unknownArgument
  | invalidValue
  /-- An option that is given twice. -/
  | conflict
  /-- A value for an option that takes none. -/
  | tooManyValues
  | unknownCommand
  | missingCommand
  | help
  /-- The help that is shown where nothing at all is given. -/
  | helpForNothing
  | version
  deriving DecidableEq, Repr

/-- What an option or an operand takes. -/
inductive Kind where
  /-- Nothing: it is given or not. -/
  | flag
  | text
  /-- The name of a file, which is not empty. -/
  | file
  /-- Nothing; the option asks for help. -/
  | help
  /-- Nothing; the option asks for the version. -/
  | version
  deriving DecidableEq, Repr, Inhabited

/-- Whether a value is taken. -/
def Kind.takesValue : Kind → Bool
  | text | file => true
  | _ => false

/-- An option. -/
structure Switch where
  name : String
  short : Option Char
  kind : Kind
  deriving DecidableEq, Repr, Inhabited

/-- An option or an operand that awaits its value or has just been given it. -/
structure Pending where
  name : String
  kind : Kind
  value : Option String
  deriving DecidableEq, Repr, Inhabited

/-- What has been read. -/
structure Progress where
  given : Table String String
  pending : Option Pending
  /-- The operands that may follow. -/
  operands : List (String × Kind)
  deriving Repr, Inhabited

/-- What words may say: the options, and the names of commands, which end the reading. -/
structure Words where
  switches : List Switch
  commands : List String
  deriving Repr, Inhabited

/-- Takes over the value of an option or an operand. -/
def Progress.give (p : Progress) (name : String) (kind : Kind) (value : String) :
    Except Refusal Progress :=
  if (p.given.get? name).isSome then .error .conflict
  else if kind = .file && value.isEmpty then .error .invalidValue
  else .ok { p with given := p.given.put name value }

/-- Takes over the value that was read last, which must be there by now. -/
def Progress.settle (p : Progress) : Except Refusal Progress :=
  match p.pending with
  | none => .ok p
  | some ⟨_, _, none⟩ => .error .invalidValue
  | some ⟨name, kind, some v⟩ => { p with pending := none }.give name kind v

/-- Whether the next word is the value of an option. -/
def Progress.awaits (p : Progress) : Option Pending := p.pending.filter (·.value.isNone)

/-- An option that takes no value. -/
def Progress.mark (p : Progress) (s : Switch) : Except Refusal Progress := do
  let p ← p.settle
  match s.kind with
  | .help => throw .help
  | .version => throw .version
  | _ => p.give s.name s.kind "true"

/-- An option that takes a value, which may be attached to it. -/
def Progress.option (p : Progress) (s : Switch) (attached : Option String) : Except Refusal Progress := do
  let p ← p.settle
  match attached with
  | some v => p.give s.name s.kind v
  | none => return { p with pending := some ⟨s.name, s.kind, none⟩ }

/-- A long option, whose dashes have been read. -/
def Progress.long (w : Words) (p : Progress) (cs : List Char) : Except Refusal Progress :=
  let name := String.ofList (cs.takeWhile (· != '='))
  let value : Option String := match cs.dropWhile (· != '=') with
    | [] => none
    | _ :: v => some (String.ofList v)
  match w.switches.find? (·.name = name) with
  | none => .error .unknownArgument
  | some s =>
    if s.kind.takesValue then p.option s value
    else if value.isSome then .error .tooManyValues
    else p.mark s

/-- What follows a short option that takes a value. -/
def attachedValue : List Char → Option String
  | [] => none
  | '=' :: v => some (String.ofList v)
  | v => some (String.ofList v)

/-- Short options, whose dash has been read. -/
def Progress.short (w : Words) (p : Progress) : List Char → Except Refusal Progress
  | [] => .ok p
  | c :: cs =>
    match w.switches.find? (·.short = some c) with
    | none => .error .unknownArgument
    | some s =>
      if s.kind.takesValue then p.option s (attachedValue cs)
      else do Progress.short w (← p.mark s) cs

/-- An operand. Where commands may follow there are none. -/
def Progress.operand (w : Words) (p : Progress) (isTrailing : Bool) (v : String) :
    Except Refusal Progress :=
  match p.operands with
  | (name, kind) :: rest => do
    let p ← p.settle
    return { p with pending := some ⟨name, kind, some v⟩, operands := rest }
  | [] =>
    if w.commands.isEmpty || (isTrailing && w.commands.contains v) then .error .unknownArgument
    else .error .unknownCommand

/-- A word that is neither a command nor the end of the options. -/
def Progress.word (w : Words) (p : Progress) (v : String) : Except Refusal Progress :=
  match v.toList, p.awaits with
  | '-' :: '-' :: c :: cs, _ => p.long w (c :: cs)
  | ['-'], some o => .ok { p with pending := some { o with value := some v } }
  | ['-'], none => p.operand w false v
  | '-' :: cs, _ => p.short w cs
  | _, some o => .ok { p with pending := some { o with value := some v } }
  | _, none => p.operand w false v

/-- The words behind `--`. -/
def Progress.trailing (w : Words) (p : Progress) : List String → Except Refusal Progress
  | [] => p.settle
  | v :: vs => do Progress.trailing w (← p.operand w true v) vs

/-- Reads words up to a command, which is given back with the words behind it. -/
def Progress.read (w : Words) (p : Progress) :
    List String → Except Refusal (Progress × Option (String × List String))
  | [] => do return (← p.settle, none)
  | v :: vs =>
    if p.awaits.isNone && w.commands.contains v then .ok (p, some (v, vs))
    else if v = "--" then do return (← p.trailing w vs, none)
    else do Progress.read w (← p.word w v) vs

end Signpost.CommandLine
