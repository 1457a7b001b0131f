import Signpost.Proofs.Resolver.Conditions

/-!
# Capture

Names of a ruleset become locals of the emitted function, and different names may become the same local.  A reference
is emitted for its own binding, but the code means the innermost declaration of the local: `compileRules_denotes` says
that these are the same exactly if no binding further inside is for another name of the same local.

Uses are compared by place: both for the rules and for the code, what is in scope is listed from the inside, one entry
for each binding, and `compileRules_denotes` says too that the lists are the same up to the names of locals.  The
binding that `Scope.get?` finds is the one at `Use.place` (`Scope.get?_eq`).
-/

namespace Signpost

/-- A use of a name, with all that is in scope where it stands, the innermost first. -/
structure Use (α : Type) where
  scope : List α
  name : α

/-- The innermost declaration of the name, by its place in scope. -/
def Use.place {α : Type} [DecidableEq α] (u : Use α) : Nat := u.scope.idxOf u.name

namespace Rules

/-- The references of a rule, with the names in scope. -/
def conditionUses : List String → List Condition → List (Use String)
  | _, [] => []
  | names, c :: cs =>
    (Expr.listReferences c.call.args).map (Use.mk names) ++ conditionUses (c.bound?.toList ++ names) cs

/-- The names in scope after conditions. -/
def namesAfter (names : List String) (cs : List Condition) : List String :=
  cs.foldl (fun names c => c.bound?.toList ++ names) names

mutual

/-- The references of a rule. -/
def Rule.uses (names : List String) : Rule → List (Use String)
  | .mk _ cs o => conditionUses names cs ++ o.uses (namesAfter names cs)

def Outcome.uses (names : List String) : Outcome → List (Use String)
  | .endpoint e => e.references.map (Use.mk names)
  | .error message => message.references.map (Use.mk names)
  | .tree rules => levelUses names rules

def levelUses (names : List String) : List Rule → List (Use String)
  | [] => []
  | r :: rs => r.uses names ++ levelUses names rs

end

/-- The references of a ruleset. -/
def Ruleset.uses (r : Ruleset) : List (Use String) := levelUses (r.parameters.map (·.name)).reverse r.rules

theorem Condition.references_expr (c : Condition) : c.expr.references = Expr.listReferences c.call.args := by
  unfold expr
  cases hn : c.narrowed? with
  | none => rfl
  | some name =>
    rw [(narrowed?_eq_some_iff.1 hn).2.2]
    rfl

end Rules

namespace Resolver

open Code (Ident)
open Rules (Expr Condition Rule Outcome Ruleset conditionUses namesAfter levelUses)

mutual

/-- The references to locals in a statement, with the locals in scope. -/
def Statement.uses (scope : List Ident) : Statement → List (Use Ident)
  | .ifSome i v body | .ifBound i v body | .bind i v _ body =>
    v.locals.map (Use.mk scope) ++ Statement.usesOf (i :: scope) body
  | .ifTrue v body => v.locals.map (Use.mk scope) ++ Statement.usesOf scope body
  | .endpoint e => e.locals.map (Use.mk scope)
  | .error v => v.locals.map (Use.mk scope)
  | .noMatch => []

def Statement.usesOf (scope : List Ident) : List Statement → List (Use Ident)
  | [] => []
  | s :: ss => s.uses scope ++ Statement.usesOf scope ss

end

namespace CompiledRules

/-- The parameters of the emitted function: those of the ruleset in one, what collects failed checks, and states. -/
def parameters (names : Names) (c : CompiledRules) : List Ident :=
  ⟨"_params", false⟩ :: names.diagnostics :: c.states.map (·.field)

/-- The references to locals in the emitted function. -/
def uses (names : Names) (c : CompiledRules) : List (Use Ident) :=
  Statement.usesOf ((c.locals.map (·.ident)).reverse ++ c.parameters names) c.body

end CompiledRules

/-- The identifier that declares nothing. -/
def wildcard : Ident := ⟨"_", false⟩

/-- What a use of an identifier means by lexical scoping: its innermost declaration. -/
def denoted (x : Use Ident) : Option Nat := if x.name ∈ x.scope ∧ x.name ≠ wildcard then some x.place else none

/-- The local of the name declares something, and no binding inside of that of the name is for another name of the
same local. -/
def Apart (u : Use String) : Prop :=
  Ident.ofName? u.name ≠ some wildcard ∧
    ∀ name ∈ u.scope.takeWhile (· ≠ u.name), Ident.ofName? name ≠ Ident.ofName? u.name

instance (u : Use String) : Decidable (Apart u) := inferInstanceAs (Decidable (_ ∧ _))

/-- A reference and the use of a local that is emitted for it. -/
structure Denotes (u : Use String) (x : Use Ident) : Prop where
  /-- The name is bound. -/
  bound : u.place < u.scope.length
  /-- The innermost declarations around the use are those for the bindings, in their order. -/
  declared : (x.scope.take u.scope.length).map some = u.scope.map Ident.ofName?
  name : some x.name = Ident.ofName? u.name
  /-- No parameter of the function is meant. -/
  inner : ∀ k ∈ denoted x, k < u.scope.length
  /-- The declaration for the binding of the name is meant, if nothing hides it. -/
  own : denoted x = some u.place ↔ Apart u

/-! ### What is meant -/

/-- A reference and the use of a local that is emitted for it, in a function with these parameters. -/
private structure Emits (outer : List Ident) (u : Use String) (x : Use Ident) : Prop where
  bound : u.name ∈ u.scope
  scope : x.scope.map some = u.scope.map Ident.ofName? ++ outer.map some
  name : some x.name = Ident.ofName? u.name

private theorem idxOf_map_eq_iff {α β : Type} [BEq α] [LawfulBEq α] [DecidableEq α] [BEq β] [LawfulBEq β] (f : α → β)
    {as : List α} {a : α} (h : a ∈ as) :
    (as.map f).idxOf (f a) = as.idxOf a ↔ ∀ b ∈ as.takeWhile (· ≠ a), f b ≠ f a := by
  induction as with
  | nil => cases h
  | cons b bs ih =>
    by_cases hb : b = a
    · subst hb
      simp
    · have hmem : a ∈ bs := (List.mem_cons.1 h).resolve_left (Ne.symm hb)
      by_cases hf : f b = f a
      · simp [hb, hf]
      · simp [hb, hf, ih hmem]

private theorem denotes_of_emits {outer : List Ident} {u : Use String} {x : Use Ident} (h : Emits outer u x) :
    Denotes u x := by
  obtain ⟨hbound, hscope, hname⟩ := h
  have hmem : Ident.ofName? u.name ∈ u.scope.map Ident.ofName? := List.mem_map_of_mem hbound
  have hin : x.name ∈ x.scope := by
    have hsome : some x.name ∈ x.scope.map some := by
      rw [hscope, hname]
      exact List.mem_append_left _ hmem
    simpa using hsome
  -- the innermost declaration of the local is one for a binding
  have hplace : x.place = (u.scope.map Ident.ofName?).idxOf (Ident.ofName? u.name) := by
    have hsome : (x.scope.map some).idxOf (some x.name) = x.place :=
      (idxOf_map_eq_iff some hin).2 fun y hy => by
        have hne := List.all_eq_true.1 List.all_takeWhile y hy
        simpa using hne
    rw [← hsome, hscope, hname, List.idxOf_append, if_pos hmem]
  refine ⟨List.idxOf_lt_length_of_mem hbound, ?_, hname, ?_, ?_⟩
  · rw [List.map_take, hscope, List.take_left' (by simp)]
  · intro k hk
    unfold denoted at hk
    split at hk
    · cases hk
      rw [hplace]
      simpa using List.idxOf_lt_length_of_mem hmem
    · cases hk
  · have hwild : Ident.ofName? u.name ≠ some wildcard ↔ x.name ≠ wildcard := by
      rw [← hname, Ne, Option.some.injEq]
    rw [denoted, Apart, hwild, ← idxOf_map_eq_iff _ hbound, ← hplace]
    by_cases hw : x.name = wildcard
    · simp [hw]
    · simp [hw, hin, Use.place]

/-! ### What is emitted -/

variable {scope : Scope} {outer : List Ident} {r r' : Registry} {ss : List Statement}

private theorem emits_of_ident? (hs : scope.Named) {name : String} {i : Ident} (h : scope.ident? name = some i) :
    Emits outer ⟨scope.names, name⟩ ⟨scope.idents ++ outer, i⟩ := by
  obtain ⟨b, hb, rfl⟩ := Option.map_eq_some_iff.1 h
  have hmem : name ∈ scope.names := List.mem_map.2 ⟨(name, b), Scope.mem_of_get? hb, rfl⟩
  have hmap : scope.bindings.map (fun x => some x.2.ident) = scope.bindings.map fun x => Ident.ofName? x.1 :=
    List.map_congr_left fun x hx => (hs x hx).symm
  constructor
  · exact hmem
  · simp only [Scope.idents, Scope.names, List.map_append, List.map_map, Function.comp_def, hmap]
  · simp only [hs.get? hb]

private theorem emits_of_agree (hs : scope.Named) {names : List String} {locals : List Ident}
    (h : Agree scope names locals) :
    List.Forall₂ (Emits outer) (names.map (Use.mk scope.names)) (locals.map (Use.mk (scope.idents ++ outer))) := by
  induction names generalizing locals with
  | nil =>
    obtain rfl : locals = [] := by simpa [Agree] using h
    exact .nil
  | cons name names ih =>
    obtain ⟨i, is, rfl, hi, his⟩ := List.map_eq_cons_iff.1 h
    exact .cons (emits_of_ident? hs hi.symm) (ih his)

private theorem usesOf_append (scope : List Ident) (ss ss' : List Statement) :
    Statement.usesOf scope (ss ++ ss') = Statement.usesOf scope ss ++ Statement.usesOf scope ss' := by
  induction ss with
  | nil => rfl
  | cons s ss ih => rw [List.cons_append, Statement.usesOf, Statement.usesOf, ih, List.append_assoc]

/-- The uses in statements that are emitted in a scope. -/
private def Emitted (outer : List Ident) (us : List String → List (Use String)) (scope : Scope)
    (ss : List Statement) : Prop :=
  List.Forall₂ (Emits outer) (us scope.names) (Statement.usesOf (scope.idents ++ outer) ss)

private theorem uses_guard {v : Compiled} {i : Option Ident} {body : List Statement} {s : Statement}
    (h : Statement.guard v i body = some s) (scope : List Ident) :
    s.uses scope = v.value.locals.map (Use.mk scope) ++ Statement.usesOf (i.toList ++ scope) body := by
  unfold Statement.guard at h
  split at h <;> cases h <;> rfl

theorem Extends.names {s inner : Scope} {ty : Ty} {name? : Option String} {i? : Option Ident}
    (h : Extends s ty name? i? inner) :
    inner.names = name?.toList ++ s.names ∧ inner.idents = i?.toList ++ s.idents := by
  cases h with
  | none => exact ⟨rfl, rfl⟩
  | some _ => exact ⟨rfl, rfl⟩

private theorem emitted_checks {rest : Rest} {us : List String → List (Use String)}
    (hrest : ∀ {inner : Scope} {r r' ss}, inner.Named → rest inner r = .ok (ss, r') → Emitted outer us inner ss)
    {cs : List Condition} (hs : scope.Named) (h : checks rest cs scope r = .ok (ss, r')) :
    Emitted outer (fun names => conditionUses names cs ++ us (namesAfter names cs)) scope ss := by
  induction cs generalizing scope r ss with
  | nil => exact hrest hs h
  | cons c cs ih =>
    obtain ⟨v, mid, i, inner, body, s, hv, hinner, hbody, hguard, rfl⟩ := check_ok hs h
    obtain ⟨hnames, hidents⟩ := hinner.names
    have hagree := (ensures_compile scope c.expr).post hv
    rw [Condition.references_expr] at hagree
    -- the uses in the body stand in the scope that the condition extends
    have hrec := ih (hinner.named hs) hbody
    simp only [Emitted, hnames, hidents] at hrec
    simp only [Emitted, Statement.usesOf, List.append_nil, uses_guard hguard, conditionUses, List.append_assoc]
    refine List.rel_append (emits_of_agree hs hagree) ?_
    simpa [namesAfter] using hrec

mutual

private theorem emitted_rule {maxDepth : Nat} {path : RulePath} : (rule : Rule) → {scope : Scope} →
    {r r' : Registry} → {ss : List Statement} → scope.Named →
    Resolver.rule maxDepth scope path rule r = .ok (ss, r') → Emitted outer rule.uses scope ss
  | .mk _ cs o, scope, r, r', ss, hs, h => by
    rw [Resolver.rule, inRule_ok_iff] at h
    exact emitted_checks (fun hs h => emitted_outcome o hs h) hs h

private theorem emitted_outcome {maxDepth : Nat} {path : RulePath} : (o : Outcome) → {scope : Scope} →
    {r r' : Registry} → {ss : List Statement} → scope.Named → outcome maxDepth scope path o r = .ok (ss, r') →
    Emitted outer o.uses scope ss
  | .endpoint e, scope, r, r', ss, hs, h => by
    obtain ⟨x, r₁, hx, h⟩ := bind_ok_iff.1 h
    obtain ⟨rfl, -⟩ := pure_ok_iff.1 h
    have hagree := (ensures_endpoint scope e).post hx
    simpa [Emitted, Statement.usesOf, Statement.uses, Outcome.uses] using emits_of_agree hs hagree
  | .error message, scope, r, r', ss, hs, h => by
    obtain ⟨v, r₁, hv, h⟩ := bind_ok_iff.1 h
    obtain ⟨rfl, -⟩ := pure_ok_iff.1 h
    have hagree := (ensures_compileString scope _ message).post hv
    simpa [Emitted, Statement.usesOf, Statement.uses, Outcome.uses] using emits_of_agree hs hagree
  | .tree rules, scope, r, r', ss, hs, h => by
    rw [outcome] at h
    by_cases hd : maxDepth < path.length
    · rw [if_pos hd] at h
      exact absurd h not_fail_ok
    · rw [if_neg hd] at h
      exact emitted_level rules hs h

private theorem emitted_level {maxDepth : Nat} {path : RulePath} : (rules : List Rule) → {i : Nat} →
    {isOpen : Bool} → {scope : Scope} → {r r' : Registry} → {ss : List Statement} → scope.Named →
    levelFrom maxDepth scope path i isOpen rules r = .ok (ss, r') →
    Emitted outer (fun names => levelUses names rules) scope ss
  | [], i, isOpen, scope, r, r', ss, hs, h => by
    obtain ⟨rfl, -⟩ := pure_ok_iff.1 h
    cases isOpen <;> exact .nil
  | rule :: rules, i, isOpen, scope, r, r', ss, hs, h => by
    obtain ⟨us, r₁, hus, h⟩ := bind_ok_iff.1 h
    obtain ⟨vs, r₂, hvs, h⟩ := bind_ok_iff.1 h
    obtain ⟨rfl, -⟩ := pure_ok_iff.1 h
    have hrule := emitted_rule rule hs hus
    have hrules := emitted_level rules hs hvs
    simp only [Emitted, levelUses, usesOf_append] at hrule hrules ⊢
    exact List.rel_append hrule hrules

end

/-- In the code of a compiled ruleset there is one use of a local for each reference, in the same order.  It means the
local for the binding of the name exactly if no binding further inside is for another name of the same local. -/
theorem compileRules_denotes {registry : Registry} {maxDepth : Nat} {ruleset : Ruleset} {c : CompiledRules}
    (h : compileRules registry maxDepth ruleset = .ok c) (names : Names) :
    List.Forall₂ Denotes ruleset.uses (c.uses names) := by
  obtain ⟨scope, r', -, hs, hnames, hidents, hbody⟩ := compileRules_ok h
  have hemitted : Emitted (c.parameters names) (fun names => levelUses names ruleset.rules) scope c.body :=
    emitted_level ruleset.rules hs hbody
  rw [Emitted, hnames, hidents] at hemitted
  exact hemitted.imp fun _ _ => denotes_of_emits

/-- A rule in which `Region` and `region` are a parameter and the value of a condition. -/
def regionRules : Ruleset where
  version := "1.0"
  parameters := [⟨"Region", .string, true, none, none, none, none⟩]
  rules :=
    [.mk none [⟨⟨"coalesce", [.ref "Region", .string [.text "us"]]⟩, some "region"⟩]
      (.error (.string [.hole (.ref "Region")]))]

theorem compileRules_denotes_region : ∃ c, compileRules .empty 64 regionRules = .ok c ∧
    List.Forall₂ Denotes regionRules.uses (c.uses ⟨⟨false, []⟩, ⟨"_diagnostic_collector", false⟩⟩) := by
  have hok : (compileRules .empty 64 regionRules).isOk = true := by decide +kernel
  obtain ⟨c, hc⟩ := exists_of_isOk hok
  exact ⟨c, hc, compileRules_denotes hc _⟩

/-- The reference in the condition means the parameter, and the one in the message does not. -/
example : regionRules.uses = [⟨["Region"], "Region"⟩, ⟨["region", "Region"], "Region"⟩] ∧
    Apart ⟨["Region"], "Region"⟩ ∧ ¬ Apart ⟨["region", "Region"], "Region"⟩ :=
  ⟨rfl, by decide +kernel⟩

end Resolver

end Signpost
