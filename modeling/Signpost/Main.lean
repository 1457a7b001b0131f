import Signpost.CommandLine.Message

/-!
# The program

Reads the files that a command names, renders what it asks for, and writes the code to a file or to the
standard output.
-/

namespace Signpost.CommandLine

/-- The text of a file. -/
def readText (path : String) : ExceptT Complaint IO String := do
  match ← (IO.FS.readFile path).toBaseIO with
  | .ok text => return text
  | .error e => throw (.because ("unable to read file `" ++ path ++ "`") (toString e))

/-- The code that a task asks for. -/
def render (task : Task) : ExceptT Complaint IO (List Code.Item) := do
  match task with
  | .resolver r =>
    let ruleset ← readText r.ruleset
    let tests ← r.tests.mapM readText
    MonadExcept.ofExcept (renderResolver ruleset tests r.runtime)
  | .traversal t =>
    let schema ← readText t.schema
    MonadExcept.ofExcept (renderTraversal schema t.shape t.expr t.name t.model)

/-- The file that the code of a task is written to. -/
def Task.output : Task → Option String
  | .resolver r => r.output
  | .traversal t => t.output

/-- Writes code to a file or to the standard output. -/
def emit (output : Option String) (items : List Code.Item) : IO Unit := do
  let text := Code.render (Code.Item.tokensOf items) ++ "\n"
  match output with
  | some path => IO.FS.writeFile path text
  | none => IO.print text

/-- Runs a command line; the result is the exit code. -/
def run (words : List String) : IO UInt32 := do
  match Request.ofWords words with
  | .error r =>
    if r.isAnswer then
      IO.print r.message
      return 0
    else
      IO.eprint r.message
      return 2
  | .ok request =>
    match ← (render request.task).run with
    | .error c =>
      IO.eprint c.message
      return 1
    | .ok items =>
      emit request.task.output items
      return 0

end Signpost.CommandLine

def main (args : List String) : IO UInt32 := Signpost.CommandLine.run args
