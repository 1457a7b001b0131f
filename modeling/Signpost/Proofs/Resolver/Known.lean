import Signpost.Proofs.Resolver.Sites

/-!
# Names that rules use

In a ruleset that is compiled, every reference is to a parameter or to the result of a condition before it, in the same
rule or in a tree around it, and every call is of a built-in function or of one that is registered, with the right number
of arguments (`compileRules_known`).  The scope of a condition ends with its rule, so that the results of conditions of
other rules are never among them.
-/

namespace Signpost.Resolver

open Rules (Expr Part Template Call Condition Ruleset Site)

/-- The built-in functions, each with the number of its arguments. -/
def builtIn : List (String × Nat) :=
  [("isSet", 1), ("not", 1), ("booleanEquals", 2), ("stringEquals", 2), ("getAttr", 2), ("coalesce", 2)]

/-- A function of this name takes so many arguments.  Built-in functions hide those that are registered. -/
def Takes (functions : Table String Function) (name : String) (n : Nat) : Prop :=
  (name, n) ∈ builtIn ∨
    (∀ x ∈ builtIn, x.1 ≠ name) ∧ ∃ f, functions.get? name = some f ∧ f.parameters.length = n

/-- What the expression itself refers to or calls is known, whatever is inside it. -/
def Known (functions : Table String Function) (isBound : String → Prop) : Expr → Prop
  | .ref name => isBound name
  | .call name args => Takes functions name args.length
  | .string _ | .bool _ | .int _ | .array _ | .record _ => True

/-! ### Built-in functions -/

private theorem mem_builtIn {name : String} {f : Intrinsic} (h : Intrinsic.ofName? name = some f) :
    (name, f.arity) ∈ builtIn := by
  unfold Intrinsic.ofName? at h
  split at h <;> cases h <;> decide

private theorem not_builtIn {name : String} (h : Intrinsic.ofName? name = none) : ∀ x ∈ builtIn, x.1 ≠ name := by
  rintro x hx rfl
  have hall : ∀ x ∈ builtIn, (Intrinsic.ofName? x.1).isSome = true := by decide
  have hsome := hall x hx
  rw [h] at hsome
  cases hsome

private theorem ensures_arity (f : Intrinsic) (call : Call) (args : List Compiled) :
    Ensures (f.apply call args) fun _ => args.length = f.arity := by
  by_cases hlen : args.length = f.arity
  · exact (keeps_apply f call args).mono fun _ _ => hlen
  · have hfail : f.apply call args = fail (.badArgument (.arity call.name f.arity args.length)) := by
      unfold Intrinsic.apply
      split
      all_goals first | rfl | exact absurd rfl hlen
    rw [hfail]
    exact .fail _

/-! ### Expressions -/

variable {functions : Table String Function} {scope : Scope}

/-- All that is inside an expression is known in the scope. -/
private abbrev KnownIn (functions : Table String Function) (scope : Scope) (es : List Expr) : Prop :=
  ∀ x ∈ es, Known functions (fun name => (scope.get? name).isSome = true) x

private theorem known_reference (name : String) :
    EnsuresFor functions (reference scope name) fun _ => (scope.get? name).isSome = true := by
  refine .of_ensures ((ensures_reference scope name).mono fun c hc => ?_)
  obtain ⟨i, -, -, hi, -⟩ := List.map_eq_cons_iff.1 hc
  obtain ⟨b, hb, -⟩ := Option.map_eq_some_iff.1 hi.symm
  rw [hb]
  rfl

mutual

private theorem known_compile (functions : Table String Function) (scope : Scope) : (e : Expr) →
    EnsuresFor functions (compile scope e) fun _ => KnownIn functions scope e.parts
  | .bool b => .pure (by simp [KnownIn, Expr.parts, Known])
  | .int n => .pure (by simp [KnownIn, Expr.parts, Known])
  | .array _ => .fail _
  | .record _ => .fail _
  | .ref name => (known_reference name).mono fun _ h => by simpa [KnownIn, Expr.parts, Known] using h
  | .string t => by
    rw [compile]
    cases h : Template.plainText? t with
    | some s => exact .pure (by simp [KnownIn, Expr.parts, Known, Template.partsOfTemplate_eq_nil h])
    | none =>
      refine (known_compileParts functions scope t).bind fun _ ht => .pure ?_
      simpa [KnownIn, Expr.parts, Known] using ht
  | .call name args => by
    rw [compile.eq_def]
    dsimp only
    split
    · rename_i hname
      have hbuiltIn := mem_builtIn hname
      split
      · rename_i target path
        split
        · exact .fail _
        · rename_i s hs
          refine (known_compile functions scope target).bind fun c hc => ?_
          refine .of_ensures ((keeps_getAttr _ _ _).mono fun _ _ => ?_)
          have htakes : Takes functions name 2 := .inl hbuiltIn
          rintro x hx
          simp only [Expr.parts, Expr.partsOf, Template.partsOfTemplate_eq_nil hs, List.append_nil, List.mem_cons,
            List.mem_append, List.not_mem_nil, or_false] at hx
          rcases hx with rfl | hx | rfl
          · exact htakes
          · exact hc x hx
          · trivial
      · exact .fail _
    · rename_i f hne hname
      refine (known_compileAll functions scope args).bind fun cs hcs => ?_
      refine .of_ensures ((ensures_arity _ _ _).mono fun _ hlen => ?_)
      have htakes : Takes functions name args.length := by
        rw [← hcs.1, hlen]
        exact .inl (mem_builtIn hname)
      simpa [KnownIn, Expr.parts, Known, htakes] using hcs.2
    · rename_i hname
      refine (ensures_function_registered name).bind fun f hf => .ite (fun _ => .fail _) fun hlen => ?_
      have hlen : f.parameters.length = args.length := by simpa using hlen
      refine (known_compileArguments functions scope _ 1 f.parameters args hlen).bind fun _ hargs => .pure ?_
      have htakes : Takes functions name args.length := .inr ⟨not_builtIn hname, f, hf, hlen⟩
      simpa [KnownIn, Expr.parts, Known, htakes] using hargs

private theorem known_compileAll (functions : Table String Function) (scope : Scope) : (es : List Expr) →
    EnsuresFor functions (compileAll scope es) fun cs =>
      cs.length = es.length ∧ KnownIn functions scope (Expr.partsOf es)
  | [] => .pure ⟨rfl, fun _ hx => absurd hx List.not_mem_nil⟩
  | e :: es => (known_compile functions scope e).bind fun _ he =>
    (known_compileAll functions scope es).bind fun _ hes =>
      .pure ⟨congrArg (· + 1) hes.1, List.forall_mem_append.2 ⟨he, hes.2⟩⟩

private theorem known_compileArguments (functions : Table String Function) (scope : Scope) (call : Call) (n : Nat)
    (wants : List Ty) : (es : List Expr) → wants.length = es.length →
    EnsuresFor functions (compileArguments scope call n wants es) fun _ =>
      KnownIn functions scope (Expr.partsOf es)
  | [], _ => .pure fun _ hx => absurd hx List.not_mem_nil
  | e :: es, hlen => by
    cases wants with
    | nil => cases hlen
    | cons want wants =>
      refine (known_compile functions scope e).bind fun c he => ?_
      refine (EnsuresFor.of_ensures (ensures_expect _ _ _)).bind fun _ _ => ?_
      refine (known_compileArguments functions scope call (n + 1) wants es (Nat.succ.inj hlen)).bind fun vs hes => ?_
      exact .pure (List.forall_mem_append.2 ⟨he, hes⟩)

private theorem known_compileParts (functions : Table String Function) (scope : Scope) : (ps : List Part) →
    EnsuresFor functions (compileParts scope ps) fun _ => KnownIn functions scope (Expr.partsOfTemplate ps)
  | [] => .pure fun _ hx => absurd hx List.not_mem_nil
  | .text s :: ps => (known_compileParts functions scope ps).bind fun _ hps => .pure hps
  | .hole e :: ps => (known_compile functions scope e).bind fun c he =>
    (EnsuresFor.of_ensures (ensures_displayed e c)).bind fun _ _ =>
      (known_compileParts functions scope ps).bind fun _ hps => .pure (List.forall_mem_append.2 ⟨he, hps⟩)

end

private theorem known_compileOwned (functions : Table String Function) (scope : Scope) (e : Expr) :
    EnsuresFor functions (compileOwned scope e) fun _ => KnownIn functions scope e.parts :=
  (known_compile functions scope e).bind fun _ he => .pure he

mutual

private theorem known_document (functions : Table String Function) (scope : Scope) : (e : Expr) →
    EnsuresFor functions (document scope e) fun _ => KnownIn functions scope e.parts
  | .int n => .pure (by simp [KnownIn, Expr.parts, Known])
  | .array items => (known_documents functions scope items).bind fun _ h =>
    .pure (by simpa [KnownIn, Expr.parts, Known] using h)
  | .record fields => (known_documentFields functions scope fields).bind fun _ h =>
    .pure (by simpa [KnownIn, Expr.parts, Known] using h)
  | .string t => known_computed functions scope (.string t)
  | .bool b => known_computed functions scope (.bool b)
  | .ref name => known_computed functions scope (.ref name)
  | .call name args => known_computed functions scope (.call name args)
where
  known_computed (functions : Table String Function) (scope : Scope) (e : Expr) :
      EnsuresFor functions (do (← compileOwned scope e).toDocument e) fun _ => KnownIn functions scope e.parts :=
    (known_compileOwned functions scope e).bind fun c he =>
      .of_ensures ((ensures_toDocument e c).mono fun _ _ => he)

private theorem known_documents (functions : Table String Function) (scope : Scope) : (es : List Expr) →
    EnsuresFor functions (documents scope es) fun _ => KnownIn functions scope (Expr.partsOf es)
  | [] => .pure fun _ hx => absurd hx List.not_mem_nil
  | e :: es => (known_document functions scope e).bind fun _ he =>
    (known_documents functions scope es).bind fun _ hes => .pure (List.forall_mem_append.2 ⟨he, hes⟩)

private theorem known_documentFields (functions : Table String Function) (scope : Scope) :
    (fs : List (String × Expr)) →
    EnsuresFor functions (documentFields scope fs) fun _ => KnownIn functions scope (Expr.partsOfFields fs)
  | [] => .pure fun _ hx => absurd hx List.not_mem_nil
  | (_, e) :: fs => (known_document functions scope e).bind fun _ he =>
    (known_documentFields functions scope fs).bind fun _ hfs => .pure (List.forall_mem_append.2 ⟨he, hfs⟩)

end

private theorem judges_known (functions : Table String Function) :
    Judges functions fun scope e => KnownIn functions scope e.parts := by
  refine ⟨fun scope c => ?_, fun scope place e => ?_, known_document functions⟩
  · cases hn : c.narrowed? with
    | none =>
      rw [Condition.expr, hn]
      exact known_compile functions scope c.call.toExpr
    | some name =>
      -- the condition is a call with the name as its only argument
      obtain ⟨hname, -, hargs⟩ := Condition.narrowed?_eq_some_iff.1 hn
      rw [Condition.expr, hn, Call.toExpr, hname, hargs]
      have htakes : Takes functions "isSet" 1 := .inl (by decide)
      refine (known_reference name).mono fun _ h => ?_
      simpa [KnownIn, Expr.parts, Expr.partsOf, Known, htakes] using h
  · exact (known_compileOwned functions scope e).bind fun c he =>
      (EnsuresFor.of_ensures (ensures_expect _ _ _)).bind fun _ _ => .pure he

private theorem exists_parameter {ps : List Rules.Parameter} {name : String}
    (h : ((Scope.empty.bindParameters ps).get? name).isSome = true) : ∃ p ∈ ps, p.name = name := by
  have hty := Scope.get?_bindParameters .empty ps name
  obtain ⟨b, hb⟩ := Option.isSome_iff_exists.1 h
  rw [hb] at hty
  cases hp : ps.reverse.find? (·.name = name) with
  | none =>
    rw [hp] at hty
    cases hty
  | some p =>
    have hname := List.find?_some hp
    exact ⟨p, List.mem_reverse.1 (List.mem_of_find?_eq_some hp), by simpa using hname⟩

/-- At every place of a ruleset that is compiled, all names inside an expression are known: those of parameters, of
conditions in front of it and of functions. -/
theorem compileRules_known {registry : Registry} {maxDepth : Nat} {ruleset : Ruleset} {c : CompiledRules}
    (h : compileRules registry maxDepth ruleset = .ok c) :
    ∀ x ∈ ruleset.sites, ∀ e ∈ x.expr.parts, Known registry.functions
      (fun name => (∃ p ∈ ruleset.parameters, p.name = name) ∨ ∃ d ∈ x.conditions, d.assign = some name) e := by
  intro x hx e he
  obtain ⟨scope, hreach, hknown⟩ := judged_of_mem_sites (judges_known registry.functions) h hx
  have h := hknown e he
  cases e with
  | ref name => exact (hreach.bound_or_assigned h).imp_left exists_parameter
  | _ => exact h

theorem compileRules_known_prefixRules : ∃ c, compileRules .standard 64 prefixRules = .ok c ∧
    ∀ x ∈ prefixRules.sites, ∀ e ∈ x.expr.parts, Known Registry.standard.functions
      (fun name => (∃ p ∈ prefixRules.parameters, p.name = name) ∨ ∃ d ∈ x.conditions, d.assign = some name) e := by
  obtain ⟨c, hc⟩ := exists_of_isOk isOk_compileRules_prefixRules
  exact ⟨c, hc, compileRules_known hc⟩

end Signpost.Resolver
