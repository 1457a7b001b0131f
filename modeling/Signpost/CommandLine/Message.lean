import Signpost.CommandLine.Render
import Signpost.CommandLine.Request

/-!
# Messages of the command line

What is said about a command line that is refused, about help, and about a command that fails.
-/

namespace Signpost.CommandLine

/-- How the commands are called. -/
def usage : String := "\n".intercalate [
  "Usage: rulegen [--quiet] <COMMAND>",
  "",
  "Commands:",
  "  endpoint <RULESET> [--tests <TESTS>] [--runtime <RUNTIME>] [--output <OUTPUT>]",
  "      Compile a ruleset into an endpoint resolver",
  "  traversal <SCHEMA> --shape <SHAPE> --expr <EXPR> --name <NAME> [--model <MODEL>] [--output <OUTPUT>]",
  "      Compile a JMESPath expression into a traversal function",
  ""]

/-- The name and the version of the program. -/
def version : String := "rulegen 0.1.0\n"

/-- Whether a refusal only asks for a text. -/
def Refusal.isAnswer : Refusal → Bool
  | help | version => true
  | _ => false

/-- What is said instead of running a command. -/
def Refusal.message : Refusal → String
  | missingArgument => "error: a required argument is missing\n\n" ++ usage
  | unknownArgument => "error: unexpected argument\n\n" ++ usage
  | invalidValue => "error: a value is required but none was supplied\n\n" ++ usage
  | conflict => "error: an argument cannot be used multiple times\n\n" ++ usage
  | tooManyValues => "error: unexpected value for an argument\n\n" ++ usage
  | unknownCommand => "error: unrecognized subcommand\n\n" ++ usage
  | missingCommand => "error: a subcommand is required but one was not provided\n\n" ++ usage
  | help | helpForNothing => usage
  | version => CommandLine.version

/-- A complaint, each reason on a line of its own. -/
def Complaint.message : Complaint → String
  | .unnameable => "Error: a name cannot be used as an identifier\n"
  | .reasons first [] => "Error: " ++ first ++ "\n"
  | .reasons first others =>
    "Error: " ++ first ++ "\n\nCaused by:\n" ++ String.join (others.map fun r => "    " ++ r ++ "\n")

end Signpost.CommandLine
