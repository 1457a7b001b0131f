import Signpost.Proofs.Traversal.Defects
import Signpost.Proofs.Traversal.Functions

/-!
# Options are never nested

The value of a query is there whenever the steps of the query come to their end: its type is no option.  No part of a
query has a type with an option directly inside an option, whether or not members may be absent where it stands
(`not_isOption_of_run`).  A function therefore wraps the value of its query exactly once.
-/

namespace Signpost.Traversal

open Query (Expr)

namespace Ty

/-- Whether there is an option directly inside an option anywhere in the type. -/
def nestsOptions : Ty → Bool
  | option t => t.isOption || t.nestsOptions
  | vec t | ref t => t.nestsOptions
  | map k v => k.nestsOptions || v.nestsOptions
  | bool | int _ | float _ | string | str | model _ => false

variable {t : Ty} {mayBeAbsent : Bool}

theorem nestsOptions_of_isData (h : t.isData = true) : t.nestsOptions = false := by
  induction t with
  | vec t ih => exact ih h
  | map k v ihk ihv =>
    rw [isData, Bool.and_eq_true] at h
    rw [nestsOptions, ihk h.1, ihv h.2]
    rfl
  | bool | int _ | float _ | string | model _ => rfl
  | str | option _ _ | ref _ _ => cases h

theorem Held.nestsOptions_eq_false (h : t.Held) : t.nestsOptions = false := by
  induction h with
  | data h => rw [nestsOptions, nestsOptions_of_isData h]
  | list _ ih => exact ih
  | options h ih => rw [nestsOptions, nestsOptions, h.isOption_eq_false, ih]; rfl
  | bool | int _ | float _ | text => rfl

theorem Kept.nestsOptions_eq_false (h : t.Kept mayBeAbsent) : t.nestsOptions = false := by
  cases h with
  | held h => exact h.nestsOptions_eq_false
  | option h => rw [nestsOptions, h.isOption_eq_false, h.nestsOptions_eq_false]; rfl

end Ty

namespace Settings

variable {s : Settings} {scope : Scope} {e : Expr}

/-- The marking of all values with a type that nests options. -/
def nestedOptions : Mark := fun _ _ t => t.nestsOptions

private theorem yields_watched (hscope : ∀ b ∈ scope, b.IsSound s.schema) :
    Yields (s.compileWith (stopAt nestedOptions (.mismatch .object)) scope 0 false e) ⟨0⟩
      (fun _ => IsPassed nestedOptions false e) (· ≠ .mismatch .object) := by
  refine yields_compileWith ?_ ?_ e ?_ ?_ hscope
  · rintro _ hc rfl
    cases hc
  · intro _ _ t ht hnests
    rw [nestedOptions, ht.nestsOptions_eq_false] at hnests
    cases hnests
  · intro _ _ _ _ _ _ _ _ _ h
    cases h
  · intro _ _ h
    cases h

/-- No part of a query has a type that nests options. -/
theorem isQuiet_nestedOptions (hscope : ∀ b ∈ scope, b.IsSound s.schema) : s.IsQuiet nestedOptions scope e := by
  refine (isQuiet_or s nestedOptions scope e).resolve_right fun halarm => ?_
  exact cause_of_runWith (yields_watched hscope) (halarm _) rfl

/-- The value of a query on values of the schema is no option, and there is no option directly inside an option in its
type nor in that of any part of the query; a function wraps the value once and returns an option of just its type. -/
theorem not_isOption_of_run (s : Settings) (e : Expr) :
    (∀ scope, (∀ b ∈ scope, ∃ name ident id, Binding.ofShape s.schema name ident id = .ok b) →
      s.IsQuiet nestedOptions scope e ∧
        ∀ c, s.run scope e = .ok c → c.ty.isOption = false ∧ c.ty.nestsOptions = false) ∧
      ∀ name roots f, s.function name e roots = .ok f → ∃ c, s.run f.params e = .ok c ∧
        f.result = .present c.name ∧ f.returns = .option c.ty ∧ f.returns.nestsOptions = false := by
  constructor
  · intro scope hscope
    have hsound := Binding.forall_isSound_of_ofShape hscope
    refine ⟨isQuiet_nestedOptions hsound, fun c hc => ?_⟩
    obtain ⟨hheld, -⟩ := held_of_run hsound hc
    exact ⟨hheld.isOption_eq_false, hheld.nestsOptions_eq_false⟩
  · intro name roots f hf
    obtain ⟨-, c, hc, -, hreturns, -, hresult⟩ := exists_run_of_function hf
    obtain ⟨hheld, -⟩ := held_of_run (Binding.forall_isSound_of_ofShape (exists_ofShape_of_function hf)) hc
    rw [hheld.isOption_eq_false] at hreturns
    rw [Computed.asOption, hheld.isOption_eq_false] at hresult
    refine ⟨c, hc, hresult, hreturns, ?_⟩
    rw [hreturns]
    exact (Ty.Kept.option hheld).nestsOptions_eq_false

end Settings

open Samples (inventory output)

/-- The names and states of all items, as lists; items may have no name. -/
def namesAndStates : Expr := .project (.flatten (.field "items")) (.list [.field "name", .field "state"])

theorem not_isOption_of_run_namesAndStates :
    (∀ b ∈ [output], ∃ name ident id, Binding.ofShape inventory name ident id = .ok b) ∧
    (Settings.ofSchema inventory).IsQuiet Settings.nestedOptions [output] namesAndStates ∧
    (∃ c, (Settings.ofSchema inventory).run [output] namesAndStates = .ok c ∧
      c.ty.isOption = false ∧ c.ty.nestsOptions = false) ∧
    ∃ f c, (Settings.ofSchema inventory).function "pairs" namesAndStates [⟨none, ⟨"Output"⟩⟩] = .ok f ∧
      (Settings.ofSchema inventory).run f.params namesAndStates = .ok c ∧
      f.result = .present c.name ∧ f.returns = .option c.ty ∧ f.returns.nestsOptions = false := by
  obtain ⟨hrun, hfunction⟩ := Settings.not_isOption_of_run (.ofSchema inventory) namesAndStates
  have hok : ((Settings.ofSchema inventory).run [output] namesAndStates).toOption.map
      (fun c => (if c.ty.isOption then c.ty else .option c.ty).isNameable) = some true := by decide +kernel
  obtain ⟨c, hc, hreturns⟩ := Option.map_eq_some_iff.1 hok
  have hc := eq_ok_of_toOption hc
  have hname : Code.Ident.named? "pairs" = some ⟨"pairs", false⟩ := by decide +kernel
  obtain ⟨f, hf⟩ := Settings.exists_function_of_run hname parametersFrom_output hc hreturns
  obtain ⟨hquiet, hvalue⟩ := hrun [output] forall_ofShape_output
  obtain ⟨d, hd, hresult⟩ := hfunction _ _ f hf
  exact ⟨forall_ofShape_output, hquiet, ⟨c, hc, hvalue c hc⟩, f, d, hf, hd, hresult⟩

end Signpost.Traversal
