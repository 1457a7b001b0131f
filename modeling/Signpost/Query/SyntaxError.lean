import Signpost.Query.Token

/-!
# Mistakes in queries

Why a text is not a query. Each cause keeps the byte at which it lies.
-/

namespace Signpost.Query

/-- A reason why a text is not a query. -/
inductive SyntaxError where
  /-- Something is no token. -/
  | noToken (offset : Nat)
  /-- A token stands where it must not. -/
  | unexpected (token : Token)
  /-- The text ends too early. -/
  | ended (offset : Nat)
  /-- A name in quotes is called. -/
  | quotedCall (offset : Nat)
  /-- Something else than a name is called. -/
  | notCallable (callee : Expr) (offset : Nat)
  /-- A number does not fit into 64 bits. -/
  | numberTooLarge (token : Token)
  /-- A name in quotes is no JSON string. -/
  | badName (fault : Json.Fault) (offset : Nat)
  /-- What stands between backticks is neither JSON nor the inside of a JSON string. -/
  | badLiteral (fault : Json.Fault) (offset : Nat)

namespace SyntaxError

/-- Every kind of token there is, in the order in which they are tried. -/
def tokenNames : String :=
  "EOI, json_literal, raw_string, quoted_identifier, unquoted_identifier, number, flatten, filter, " ++
  "lbracket, rbracket, lbrace, rbrace, lparen, rparen, comma, colon, dot, star, current, op_and, " ++
  "expref, op_or, pipe, op_ne, op_not, op_eq, op_lte, op_lt, op_gte, or op_gt"

/-- The mistake as it is reported. -/
def diagnosis : SyntaxError → Diagnosis
  | noToken offset =>
    ⟨.syntaxError, "expected " ++ (if offset = 0 then "tokens" else tokenNames), some offset⟩
  | unexpected t => ⟨.unexpectedToken, "unexpected token `" ++ t.text ++ "`", some t.offset⟩
  | ended offset => ⟨.unexpectedEnd, "unexpected end of expression", some offset⟩
  | quotedCall offset =>
    ⟨.unexpectedToken, "quoted identifiers cannot name functions", some offset⟩
  | notCallable e offset =>
    ⟨.unexpectedToken, "invalid function name `" ++ e.render ++ "`", some offset⟩
  | numberTooLarge t => ⟨.invalidNumber, "`" ++ t.text ++ "` is out of range", some t.offset⟩
  | badName f offset =>
    ⟨.invalidLiteral, "invalid quoted identifier: " ++ f.message, some offset⟩
  | badLiteral f offset => ⟨.invalidLiteral, "invalid JSON literal: " ++ f.message, some offset⟩

end SyntaxError

end Signpost.Query
