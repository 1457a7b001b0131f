import Signpost.CommandLine.Reader

/-!
# Requests

What a command line asks for: a resolver for a ruleset, or a function for a query.
-/

namespace Signpost.CommandLine

/-- A resolver for a ruleset, perhaps with tests. -/
structure ResolverRequest where
  ruleset : String
  tests : Option String
  runtime : String
  output : Option String
  deriving DecidableEq, Repr, Inhabited

/-- A function for a query. -/
structure TraversalRequest where
  schema : String
  shape : String
  expr : String
  name : String
  model : String
  output : Option String
  deriving DecidableEq, Repr, Inhabited

/-- What to do. -/
inductive Task where
  | resolver (r : ResolverRequest)
  | traversal (t : TraversalRequest)
  deriving DecidableEq, Repr

/-- What to do, and whether to keep quiet about it. -/
structure Request where
  task : Task
  quiet : Bool
  deriving DecidableEq, Repr

/-- The option to keep quiet, which may stand before or behind the command. -/
def quietSwitch : Switch := ⟨"quiet", some 'q', .flag⟩

/-- The option to ask for help. -/
def helpSwitch : Switch := ⟨"help", some 'h', .help⟩

/-- The option to name the file to write to. -/
def outputSwitch : Switch := ⟨"output", some 'o', .file⟩

/-- The words before a command. -/
def topWords : Words :=
  ⟨[quietSwitch, helpSwitch, ⟨"version", some 'V', .version⟩], ["endpoint", "traversal", "help"]⟩

/-- The words of the command for resolvers. -/
def resolverWords : Words :=
  ⟨[⟨"tests", none, .file⟩, ⟨"runtime", none, .text⟩, outputSwitch, quietSwitch, helpSwitch], []⟩

/-- The words of the command for traversals. -/
def traversalWords : Words :=
  ⟨[⟨"shape", none, .text⟩, ⟨"expr", none, .text⟩, ⟨"name", none, .text⟩, ⟨"model", none, .text⟩,
    outputSwitch, quietSwitch, helpSwitch], []⟩

/-- What has been read before the first word. -/
def Progress.start (operands : List (String × Kind)) : Progress := ⟨[], none, operands⟩

/-- A value that has to be given. -/
def Progress.required (p : Progress) (name : String) : Except Refusal String :=
  match p.given.get? name with
  | some v => .ok v
  | none => .error .missingArgument

/-- Whether a flag is given. -/
def Progress.has (p : Progress) (name : String) : Bool := (p.given.get? name).isSome

/-- The task of the command for resolvers. -/
def ResolverRequest.of (p : Progress) : Except Refusal ResolverRequest := do
  return {
    ruleset := ← p.required "ruleset"
    tests := p.given.get? "tests"
    runtime := (p.given.get? "runtime").getD "::rulegen_runtime"
    output := p.given.get? "output" }

/-- The task of the command for traversals. -/
def TraversalRequest.of (p : Progress) : Except Refusal TraversalRequest := do
  return {
    schema := ← p.required "schema"
    shape := ← p.required "shape"
    expr := ← p.required "expr"
    name := ← p.required "name"
    model := (p.given.get? "model").getD "crate::model"
    output := p.given.get? "output" }

/-- What asking for help on words leads to: at most one command has help of its own. -/
def helpOn : List String → Refusal
  | [] => .help
  | [command] => if topWords.commands.contains command then .help else .unknownCommand
  | _ => .unknownCommand

/-- Reads the words of a command line behind the name of the program. -/
def Request.ofWords (args : List String) : Except Refusal Request := do
  let (top, command) ← (Progress.start []).read topWords args
  match command with
  | none => throw (if top.given.isEmpty then .helpForNothing else .missingCommand)
  | some ("endpoint", rest) =>
    let (p, _) ← (Progress.start [("ruleset", .file)]).read resolverWords rest
    return ⟨.resolver (← ResolverRequest.of p), top.has "quiet" || p.has "quiet"⟩
  | some ("traversal", rest) =>
    let (p, _) ← (Progress.start [("schema", .file)]).read traversalWords rest
    return ⟨.traversal (← TraversalRequest.of p), top.has "quiet" || p.has "quiet"⟩
  | some (_, rest) => throw (helpOn rest)

end Signpost.CommandLine
