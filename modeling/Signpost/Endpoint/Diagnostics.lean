/-!
# Diagnostics

Why the last check that failed did so. Only the latest report is kept, as it usually explains why no rule
applied.
-/

namespace Signpost

/-- The report that is kept, if there is one. -/
structure Diagnostics where
  last : Option String
  deriving DecidableEq, Repr, Inhabited

namespace Diagnostics

/-- Nothing has been reported. -/
def empty : Diagnostics := ⟨none⟩

/-- One more report, in place of an earlier one. -/
def report (message : String) (_ : Diagnostics) : Diagnostics := ⟨some message⟩

/-- The result of a check; if the check failed, that is reported. -/
def capture {ε α : Type} (message : ε → String) (result : Except ε α) (d : Diagnostics) :
    Option α × Diagnostics :=
  match result with
  | .ok a => (some a, d)
  | .error e => (none, d.report (message e))

/-- The report, which is not kept any longer. -/
def take (d : Diagnostics) : Option String × Diagnostics := (d.last, empty)

end Diagnostics

end Signpost
