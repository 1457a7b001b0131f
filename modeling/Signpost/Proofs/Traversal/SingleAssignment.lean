import Signpost.Proofs.Naming.SnakeCase
import Signpost.Proofs.Traversal.Assigning
import Signpost.Proofs.Traversal.Functions
import Signpost.Samples.Inventory

/-!
# Single assignment

The steps of a query bind no name twice, and use only names that are bound by then or that are not of the form of those
that steps bind; the local that they end up in is one of these, too (`nodup_bindersOf_run`).  For this the values in
scope must not have names of that form, which those of the parameters of a function never have
(`not_isLocal_of_mem_params`): a name in snake case starts with no underscore.
-/

namespace Signpost.Traversal

open Code (Ident)
open Query (Expr)

namespace Settings

variable {s : Settings}

/-- The observer of a plain run. -/
abbrev silent : Observer := fun _ _ => return

private theorem isMade_observed {known : Known} {lo n : Namer} {e : Expr} {m : Naming Computed}
    (hm : Gives m n fun n' => Computed.IsMade known lo n') :
    Gives (do let c ← m; silent e c; return s.remark e c) n fun n' => Computed.IsMade known lo n' := by
  refine hm.bind fun n' c hc => .pure_bind (.pure ?_)
  rw [remark]
  split
  · refine ⟨?_, Step.allScoped_append.2 ⟨hc.isScoped.1, trivial, trivial⟩, ?_⟩
    · simpa [Computed.binders, Step.bindersOf, Step.binders] using hc.fresh
    · simpa [Step.namesOf, Step.names] using hc.isScoped.2
  · exact hc

mutual

theorem isMade_compileWith : (e : Expr) → {depth : Nat} → {retain : Bool} → {scope : Scope} → {n : Namer} →
    Gives (s.compileWith silent scope depth retain e) n fun n' => Computed.IsMade scope.Supplies n n'
  | .field name, depth, retain, scope, n => by
    rw [compileWith]
    exact .unlessStopped trivial fun _ => isMade_observed (isMade_field name)
  | .sub l r, depth, retain, scope, n => by
    rw [compileWith]
    refine .unlessStopped trivial fun _ => (isMade_compileWith l).bind fun _ left hleft => ?_
    exact isMade_observed (isMade_apply (fun _ _ => isMade_compileWith r) hleft)
  | .pipe l r, depth, retain, scope, n => by
    rw [compileWith]
    refine .unlessStopped trivial fun _ => (isMade_compileWith l).bind fun _ left hleft => ?_
    refine (converts_unwrap left).bind fun _ left' hleft' => ?_
    exact isMade_observed (isMade_apply (fun _ _ => isMade_compileWith r) (hleft'.isMade hleft))
  | .compare op l r, depth, retain, scope, n => by
    rw [compileWith]
    refine .unlessStopped trivial fun _ => (isMade_compileWith l).bind fun _ left hleft => ?_
    refine (isMade_compileWith r).bind fun _ right hright => ?_
    exact isMade_observed (isMade_comparison op hleft.isScoped hright.isScoped (hleft.fresh.append hright.fresh))
  | .and l r, depth, retain, scope, n | .or l r, depth, retain, scope, n => by
    rw [compileWith]
    refine .unlessStopped trivial fun _ => (isMade_compileWith l).bind fun _ left hleft => ?_
    refine (converts_condition _ left).bind fun _ left' hleft' => ?_
    have hleft := hleft'.isMade hleft
    refine (isMade_compileWith r).bind fun _ right hright => ?_
    refine (converts_condition _ right).bind fun _ right' hright' => ?_
    have hright := hright'.isMade hright
    exact isMade_observed (isMade_connective _ hleft.isScoped hright.isScoped (hleft.fresh.append hright.fresh))
  | .not e, depth, retain, scope, n => by
    rw [compileWith]
    refine .unlessStopped trivial fun _ => (isMade_compileWith e).bind fun _ c hc => ?_
    exact isMade_observed (isMade_negation hc)
  | .literal l, depth, retain, scope, n => by
    rw [compileWith]
    exact .unlessStopped trivial fun _ => isMade_observed (isMade_literal l)
  | .list es, depth, retain, scope, n => by
    rw [compileWith]
    refine .unlessStopped trivial fun _ => (isMade_compileAllWith es).bind fun _ cs hcs => ?_
    exact isMade_observed (isMade_listOf hcs.2 hcs.1)
  | .call name args, depth, retain, scope, n => by
    rw [compileWith]
    refine .unlessStopped trivial fun _ => ?_
    dsimp only
    cases Builtin.ofName? name with
    | none => exact isMade_observed (.throw trivial)
    | some f =>
      refine .ite (fun _ => isMade_observed (.throw trivial)) fun _ => ?_
      refine (isMade_compileAllWith args).bind fun _ cs hcs => ?_
      exact isMade_observed (isMade_call f name hcs.2 hcs.1)
  | .project l r, depth, retain, scope, n => by
    rw [compileWith]
    refine .unlessStopped trivial fun _ => (isMade_compileWith l).bind fun _ left hleft => ?_
    exact isMade_observed (isMade_projection (forall_unless fun _ _ => isMade_compileWith r) hleft)
  | .filter l r c, depth, retain, scope, n => by
    rw [compileWith]
    refine .unlessStopped trivial fun _ => (isMade_compileWith l).bind fun _ left hleft => ?_
    refine isMade_observed (isMade_filtered c ?_ (forall_unless ?_) hleft)
    · exact fun _ _ => isMade_compileWith c
    · exact fun _ _ => isMade_compileWith r
  | .projectValues l r, depth, retain, scope, n => by
    rw [compileWith]
    refine .unlessStopped trivial fun _ => (isMade_compileWith l).bind fun _ left hleft => ?_
    exact isMade_observed (isMade_valueProjection (forall_unless fun _ _ => isMade_compileWith r) hleft)
  | .flatten e, depth, retain, scope, n => by
    rw [compileWith]
    refine .unlessStopped trivial fun _ => (isMade_compileWith e).bind fun _ left hleft => ?_
    exact isMade_observed (isMade_flattened hleft)
  | .current, depth, retain, scope, n => by
    rw [compileWith]
    exact .unlessStopped trivial fun _ => isMade_observed isMade_current
  | .index _ _, depth, retain, scope, n | .slice _ _ _ _, depth, retain, scope, n | .hash _, depth, retain, scope, n
  | .reference _, depth, retain, scope, n => by
    rw [compileWith]
    exact .unlessStopped trivial fun _ => isMade_observed (.throw trivial)

theorem isMade_compileAllWith : (es : List Expr) → {depth : Nat} → {retain : Bool} → {scope : Scope} → {n : Namer} →
    Gives (s.compileAllWith silent scope depth retain es) n fun n' cs =>
      Fresh n n' (cs.flatMap Computed.binders) ∧ ∀ c ∈ cs, c.IsScoped scope.Supplies
  | [], depth, retain, scope, n => by
    rw [compileAllWith]
    exact .pure ⟨.nil, fun c hc => absurd hc List.not_mem_nil⟩
  | e :: es, depth, retain, scope, n => by
    rw [compileAllWith]
    refine (isMade_compileWith e).bind fun _ c hc => (isMade_compileAllWith es).bind fun _ cs hcs => .pure ?_
    exact ⟨hc.fresh.append hcs.1, List.forall_mem_cons.2 ⟨hc.isScoped, hcs.2⟩⟩

end

end Settings

/-! ### Parameters -/

/-- No field or variable is named like a local. -/
theorem not_isLocal_of_ofName? {name : String} {i : Ident} (h : Ident.ofName? name = some i) : ¬ IsLocal i := by
  rintro ⟨stem, hs, n, rfl⟩
  -- a letter stands behind the underscore that the local starts with
  have hstems : ∀ stem ∈ stems, stem.toList.head?.map Char.isDigit = some false := by decide
  obtain ⟨c, hhead, hc⟩ := Option.map_eq_some_iff.1 (hstems stem hs)
  obtain ⟨cs, hstem⟩ := List.head?_eq_some_iff.1 hhead
  have hlocal := toList_localName stem n
  rw [hstem] at hlocal
  rw [Ident.ofName?] at h
  split at h
  · rename_i hspecial
    have hspecials : ∀ s ∈ ["self", "Self", "crate", "super"], (s ++ "_").toList.head? ≠ some '_' := by decide
    refine hspecials _ (List.contains_iff_mem.1 hspecial) ?_
    rw [Ident.name_of_plain? h, hlocal, List.head?_cons]
  split at h
  · rw [Ident.raw?] at h
    split at h
    · have hraw : true = false := congrArg Ident.isRaw (Option.some.inj h)
      cases hraw
    · cases h
  · rw [← Ident.name_of_plain? h] at hlocal
    rcases Ident.toList_fieldName name with ⟨hone, -⟩ | ⟨d, ds, hd, hdigit, -⟩ | ⟨d, ds, hd, hplain, -⟩
    · rw [hone] at hlocal
      cases hlocal
    · rw [hd] at hlocal
      obtain ⟨-, hlocal⟩ := List.cons.inj hlocal
      obtain ⟨rfl, -⟩ := List.cons.inj hlocal
      rw [hc] at hdigit
      cases hdigit
    · rw [hd] at hlocal
      exact hplain (List.cons.inj hlocal).1

private theorem not_isLocal_root : ¬ IsLocal ⟨"root", false⟩ := by
  rintro ⟨stem, hs, n, h⟩
  have hlocal := (congrArg (·.name.toList) h).trans (toList_localName stem n)
  cases hlocal

namespace Settings

theorem not_isLocal_of_mem_params {s : Settings} {name : String} {e : Expr} {roots : List Root} {f : Function}
    (h : s.function name e roots = .ok f) : ∀ b ∈ f.params, ¬ IsLocal b.ident :=
  forall_of_parametersFrom (fun _ _ _ hb => not_isLocal_of_ofName? (ofShape_of_parameter hb).1)
    (fun _ hb => absurd hb List.not_mem_nil) (exists_run_of_function h).1

/-- Where no value in scope is named like a local, the steps of a query bind different names, each name of the form of a
local that they use is bound by then, and the query is left in a local that they bind in their own block, or in a value
in scope.  The parameters of a function are never named like locals. -/
theorem nodup_bindersOf_run (s : Settings) (e : Expr) :
    (∀ scope c, (∀ b ∈ scope, ¬ IsLocal b.ident) → s.run scope e = .ok c →
      (Step.bindersOf c.steps).Nodup ∧ Step.AllScoped (fun i => ¬ IsLocal i) c.steps ∧
        (c.name ∈ Step.namesOf c.steps ∨ ∃ b ∈ scope, b.ident = c.name)) ∧
      ∀ name roots f, s.function name e roots = .ok f → ∀ b ∈ f.params, ¬ IsLocal b.ident := by
  refine ⟨fun scope c hscope hc => ?_, fun name roots f hf => not_isLocal_of_mem_params hf⟩
  obtain ⟨n, hmade⟩ : ∃ n, c.IsMade scope.Supplies ⟨0⟩ n := by
    have h : Gives (s.compileWith silent scope 0 false e) ⟨0⟩ fun n => Computed.IsMade scope.Supplies ⟨0⟩ n :=
      isMade_compileWith e
    obtain ⟨n, hrun⟩ := exists_of_runWith_ok hc
    rw [Gives, Yields, hrun] at h
    exact ⟨n, h⟩
  have hsupplied : ∀ i, scope.Supplies i → ¬ IsLocal i := by
    intro i hi
    obtain ⟨b, hb, rfl⟩ := List.mem_map.1 hi
    exact hscope b hb
  refine ⟨hmade.fresh.nodup, hmade.isScoped.1.weaken hsupplied, ?_⟩
  exact hmade.isScoped.2.imp_right List.mem_map.1

end Settings

open Samples (allMembers inventory output)

theorem nodup_bindersOf_run_allMembers :
    (∀ b ∈ [output], ¬ IsLocal b.ident) ∧
    (∃ c, (Settings.ofSchema inventory).run [output] allMembers = .ok c ∧ (Step.bindersOf c.steps).Nodup ∧
      Step.AllScoped (fun i => ¬ IsLocal i) c.steps ∧
      (c.name ∈ Step.namesOf c.steps ∨ ∃ b ∈ [output], b.ident = c.name)) ∧
    ∃ f, (Settings.ofSchema inventory).function "members" allMembers [⟨none, ⟨"Output"⟩⟩] = .ok f ∧
      ∀ b ∈ f.params, ¬ IsLocal b.ident := by
  obtain ⟨hrun, hfunction⟩ := Settings.nodup_bindersOf_run (.ofSchema inventory) allMembers
  have houtput : ∀ b ∈ [output], ¬ IsLocal b.ident := List.forall_mem_singleton.2 not_isLocal_root
  have hname : Ident.named? "members" = some ⟨"members", false⟩ := by decide +kernel
  obtain ⟨c, hc, -, hty⟩ := exists_run_allMembers
  obtain ⟨f, hf⟩ := Settings.exists_function_of_run hname parametersFrom_output hc (by rw [hty]; decide +kernel)
  exact ⟨houtput, ⟨c, hc, hrun [output] c houtput hc⟩, f, hf, hfunction _ _ f hf⟩

end Signpost.Traversal
