import Signpost.Proofs.Resolver.Conditions
import Signpost.Resolver.Run

/-!
# How rules decide

`World` says how rules turn out, without statements: the rules of a level are tried in order, the conditions of a rule
from the left until one does not hold, and the first rule whose conditions all hold decides.  `runAll_compileRules`
says that emitted code does the same, however the values of conditions come about: what is emitted of a condition only
counts as an option, a truth value or a value that is there in every case.
-/

namespace Signpost.Resolver

open Code (Ident)
open Rules (Expr Condition Rule Outcome Ruleset EndpointTemplate)

/-- What rules depend on, given what is known where they stand. -/
structure World (ε : Type) where
  /-- Whether a condition holds, and what is known then. -/
  condition : ε → Condition → Running (Option ε)
  endpoint : ε → EndpointTemplate → Running Signpost.Endpoint
  message : ε → Expr → Running String

namespace World

variable {ε : Type}

/-- Whether conditions hold one after the other, and what is known then. -/
def conditions (w : World ε) (env : ε) : List Condition → Running (Option ε)
  | [] => return some env
  | c :: cs => do
    match ← w.condition env c with
    | none => return none
    | some env => w.conditions env cs

mutual

/-- What a rule decides, if its conditions hold. -/
def rule (w : World ε) (env : ε) : Rule → Running (Option Verdict)
  | .mk _ cs o => do
    match ← w.conditions env cs with
    | none => return none
    | some env => return some (← w.outcome env o)

/-- What a rule decides whose conditions hold. -/
def outcome (w : World ε) (env : ε) : Outcome → Running Verdict
  | .endpoint e => return .endpoint (← w.endpoint env e)
  | .error message => return .error (← w.message env message)
  | .tree rules => w.level env rules

/-- What the first rule decides whose conditions hold. -/
def level (w : World ε) (env : ε) : List Rule → Running Verdict
  | [] => return .noMatch
  | r :: rs => do
    match ← w.rule env r with
    | some verdict => return verdict
    | none => w.level env rs

end

end World

/-! ### The world of emitted code -/

/-- Values may come about in any way; but `is_some` asks whether an option holds a value. -/
def Meaning.testing (meaning : Meaning) (locals : Locals) : Value → Running Datum
  | .isSome v => do
    match ← meaning.testing locals v with
    | .absent => return .bool false
    | .present _ => return .bool true
    | _ => stuck
  | v => meaning locals v

/-- With the standard functions values come about so. -/
theorem testing_standardMeaning (partitions : PartitionTable) (locals : Locals) (v : Value) :
    (standardMeaning partitions).testing locals v = standardMeaning partitions locals v := by
  cases v with
  | isSome v =>
    rw [Meaning.testing, testing_standardMeaning partitions locals v]
    rfl
  | _ => rfl

/-- Whether a condition holds whose value is of a type, and what a name for the value stands for: an option holds with
what is in it, a truth value if it is true, and everything else in every case. -/
def Ty.test (ty : Ty) (d : Datum) : Running (Option Datum) :=
  match ty, d with
  | .option _, .present d => return some d
  | .option _, .absent => return none
  | .bool, .bool true => return some (.bool true)
  | .bool, .bool false => return none
  | .option _, _ | .bool, _ => stuck
  | _, d => return some d

/-- How rules turn out if what they ask for is what is emitted for them. -/
def World.ofMeaning (registry : Registry) (meaning : Meaning) : World (Scope × Locals) where
  condition := fun (scope, locals) c => do
    let v ← orStuck (emitted registry (compile scope c.expr))
    match ← v.ty.test (← meaning locals v.value), c.bound? with
    | none, _ => return none
    | some _, none => return some (scope, locals)
    | some d, some name => do
      let i ← orStuck (Ident.ofName? name)
      return some (scope.bind name ⟨i, v.ty.unwrapOption⟩, (i, d) :: locals)
  endpoint := fun (scope, locals) e => do
    (← orStuck (emitted registry (Resolver.endpoint scope e))).run meaning locals
  message := fun (scope, locals) e => do
    runString meaning locals (← orStuck (emitted registry (compileString scope .message e)))

variable {registry r r' : Registry} {meaning : Meaning} {locals : Locals} {scope : Scope} {ss : List Statement}

@[simp] private theorem orStuck_some {α : Type} (a : α) : orStuck (some a) = pure a := rfl

private theorem runAll_singleton (s : Statement) : Statement.runAll meaning locals [s] = s.run meaning locals := by
  rw [Statement.runAll]
  conv => rhs; rw [← bind_pure (s.run meaning locals)]
  congr 1
  funext x
  cases x <;> rfl

private theorem runAll_append (us vs : List Statement) :
    Statement.runAll meaning locals (us ++ vs) = (do
      match ← Statement.runAll meaning locals us with
      | some verdict => return some verdict
      | none => Statement.runAll meaning locals vs) := by
  induction us with
  | nil => rfl
  | cons u us ih =>
    rw [List.cons_append, Statement.runAll, Statement.runAll, ih, bind_assoc]
    congr 1
    funext x
    cases x <;> simp

/-- A guard runs its body where its value says that the condition holds. -/
private theorem run_guard {v : Compiled} {i : Option Ident} {body : List Statement} {s : Statement}
    (h : Statement.guard v i body = some s) : s.run meaning.testing locals = (do
      match ← v.ty.test (← meaning.testing locals v.value) with
      | none => return none
      | some d => Statement.runAll meaning.testing (i.toList.map (·, d) ++ locals) body) := by
  obtain ⟨value, ty, isOwned⟩ := v
  -- both sides compute the value first, so that it is enough to compare what they make of it
  have hd : ∀ {f g : Datum → Running (Option Verdict)}, (∀ d, f d = g d) →
      (meaning.testing locals value >>= f) = meaning.testing locals value >>= g := by
    intro f g h
    rw [funext h]
  cases ty with
  | option ty =>
    cases i with
    | none =>
      cases h
      rw [Statement.run, Meaning.testing, bind_assoc]
      exact hd fun d => by cases d <;> rfl
    | some i =>
      cases h
      rw [Statement.run]
      exact hd fun d => by cases d <;> rfl
  | bool =>
    cases i <;> cases h <;> rw [Statement.run] <;> refine hd fun d => ?_
    all_goals
      cases d with
      | bool b => cases b <;> rfl
      | _ => rfl
  | _ =>
    cases i with
    | none => cases h
    | some i =>
      cases h
      rw [Statement.run]
      exact hd fun d => by cases d <;> rfl

/-- What a condition turns out to be, by the value that is emitted for it. -/
private theorem condition_eq {c : Condition} {v : Compiled} {i : Option Ident} {inner : Scope}
    (hv : emitted registry (compile scope c.expr) = some v) (hi : Extends scope v.ty.unwrapOption c.bound? i inner) :
    (World.ofMeaning registry meaning).condition (scope, locals) c = (do
      match ← v.ty.test (← meaning locals v.value) with
      | none => return none
      | some d => return some (inner, i.toList.map (·, d) ++ locals)) := by
  show (orStuck (emitted registry (compile scope c.expr)) >>= _) = _
  rw [hv, orStuck_some, pure_bind]
  congr 1
  funext x
  congr 1
  funext d
  generalize c.bound? = name at hi
  cases hi with
  | none => cases d <;> rfl
  | some hname =>
    cases d with
    | none => rfl
    | some d =>
      dsimp only
      rw [hname]
      rfl

/-- Conditions that are compiled around something decide about it. -/
private theorem run_checks {rest : Rest} {k : Scope × Locals → Running (Option Verdict)}
    (hrest : ∀ {inner : Scope} {r r' ss}, inner.Named → r.functions = registry.functions →
      rest inner r = .ok (ss, r') → r'.functions = registry.functions ∧
        ∀ locals, Statement.runAll meaning.testing locals ss = k (inner, locals))
    {cs : List Condition} (hs : scope.Named) (hr : r.functions = registry.functions)
    (h : checks rest cs scope r = .ok (ss, r')) : r'.functions = registry.functions ∧
      ∀ locals, Statement.runAll meaning.testing locals ss = (do
        match ← (World.ofMeaning registry meaning.testing).conditions (scope, locals) cs with
        | none => return none
        | some env => k env) := by
  induction cs generalizing scope r ss with
  | nil =>
    obtain ⟨hr', hrun⟩ := hrest hs hr h
    exact ⟨hr', fun locals => hrun locals⟩
  | cons c cs ih =>
    obtain ⟨v, mid, i, inner, body, s, hv, hinner, hbody, hguard, rfl⟩ := check_ok hs h
    have hmid : mid.functions = registry.functions := by rw [(ensures_compile scope c.expr).functions hv, hr]
    obtain ⟨hr', hrun⟩ := ih (hinner.named hs) hmid hbody
    refine ⟨hr', fun locals => ?_⟩
    rw [runAll_singleton, run_guard hguard, World.conditions,
      condition_eq (emitted_eq (ensures_compile scope c.expr) hv hr) hinner]
    simp only [bind_assoc]
    congr 1
    funext x
    congr 1
    funext d
    cases d with
    | none => rfl
    | some d => exact hrun _

private theorem rule_of_unconditional {ε : Type} (w : World ε) (env : ε) {rule : Rule} (h : rule.conditions = []) :
    w.rule env rule = some <$> w.outcome env rule.outcome := by
  obtain ⟨_, cs, o⟩ := rule
  obtain rfl : cs = [] := h
  rw [World.rule, World.conditions, pure_bind, map_eq_pure_bind]
  rfl

mutual

private theorem run_rule {maxDepth : Nat} {path : RulePath} : (rule : Rule) → {scope : Scope} →
    {r r' : Registry} → {ss : List Statement} → scope.Named → r.functions = registry.functions →
    Resolver.rule maxDepth scope path rule r = .ok (ss, r') → r'.functions = registry.functions ∧
      ∀ locals, Statement.runAll meaning.testing locals ss =
        (World.ofMeaning registry meaning.testing).rule (scope, locals) rule
  | .mk _ cs o, scope, r, r', ss, hs, hr, h => by
    rw [Resolver.rule, inRule_ok_iff] at h
    obtain ⟨hr', hrun⟩ := run_checks
      (k := fun env => some <$> (World.ofMeaning registry meaning.testing).outcome env o)
      (fun hs hr h => run_outcome o hs hr h) hs hr h
    refine ⟨hr', fun locals => ?_⟩
    rw [hrun, World.rule]
    congr 1
    funext x
    cases x with
    | none => rfl
    | some env => exact map_eq_pure_bind _ _

private theorem run_outcome {maxDepth : Nat} {path : RulePath} : (o : Outcome) → {scope : Scope} →
    {r r' : Registry} → {ss : List Statement} → scope.Named → r.functions = registry.functions →
    outcome maxDepth scope path o r = .ok (ss, r') → r'.functions = registry.functions ∧
      ∀ locals, Statement.runAll meaning.testing locals ss =
        some <$> (World.ofMeaning registry meaning.testing).outcome (scope, locals) o
  | .endpoint e, scope, r, r', ss, hs, hr, h => by
    obtain ⟨x, r₁, hx, h⟩ := bind_ok_iff.1 h
    obtain ⟨rfl, rfl⟩ := pure_ok_iff.1 h
    have hensures := ensures_endpoint scope e
    refine ⟨by rw [hensures.functions hx, hr], fun locals => ?_⟩
    have hworld : (World.ofMeaning registry meaning.testing).endpoint (scope, locals) e =
        x.run meaning.testing locals := by
      show orStuck (emitted registry (endpoint scope e)) >>= _ = _
      rw [emitted_eq hensures hx hr]
      rfl
    rw [runAll_singleton, Statement.run, World.outcome, hworld]
    simp
  | .error message, scope, r, r', ss, hs, hr, h => by
    obtain ⟨v, r₁, hv, h⟩ := bind_ok_iff.1 h
    obtain ⟨rfl, rfl⟩ := pure_ok_iff.1 h
    have hensures := ensures_compileString scope .message message
    refine ⟨by rw [hensures.functions hv, hr], fun locals => ?_⟩
    have hworld : (World.ofMeaning registry meaning.testing).message (scope, locals) message =
        runString meaning.testing locals v := by
      show orStuck (emitted registry (compileString scope .message message)) >>= _ = _
      rw [emitted_eq hensures hv hr]
      rfl
    rw [runAll_singleton, Statement.run, World.outcome, hworld]
    simp
  | .tree rules, scope, r, r', ss, hs, hr, h => by
    rw [outcome] at h
    by_cases hd : maxDepth < path.length
    · rw [if_pos hd] at h
      exact absurd h not_fail_ok
    · rw [if_neg hd] at h
      have hlevel := run_level rules hs hr h
      simpa [World.outcome] using hlevel

/-- The rules of a level always decide, unless there is none left after one without conditions. -/
private theorem run_level {maxDepth : Nat} {path : RulePath} : (rules : List Rule) → {i : Nat} →
    {isOpen : Bool} → {scope : Scope} → {r r' : Registry} → {ss : List Statement} → scope.Named →
    r.functions = registry.functions → levelFrom maxDepth scope path i isOpen rules r = .ok (ss, r') →
    r'.functions = registry.functions ∧ ∀ locals, Statement.runAll meaning.testing locals ss =
      if rules.isEmpty && !isOpen then return none
      else some <$> (World.ofMeaning registry meaning.testing).level (scope, locals) rules
  | [], i, isOpen, scope, r, r', ss, hs, hr, h => by
    obtain ⟨rfl, rfl⟩ := pure_ok_iff.1 h
    refine ⟨hr, fun locals => ?_⟩
    cases isOpen <;> rfl
  | rule :: rules, i, isOpen, scope, r, r', ss, hs, hr, h => by
    obtain ⟨us, r₁, hus, h⟩ := bind_ok_iff.1 h
    obtain ⟨vs, r₂, hvs, h⟩ := bind_ok_iff.1 h
    obtain ⟨rfl, rfl⟩ := pure_ok_iff.1 h
    obtain ⟨hr₁, hrule⟩ := run_rule rule hs hr hus
    obtain ⟨hr₂, hrules⟩ := run_level rules hs hr₁ hvs
    refine ⟨hr₂, fun locals => ?_⟩
    rw [runAll_append, hrule, hrules, World.level]
    simp only [List.isEmpty_cons, Bool.false_and, Bool.false_eq_true, if_false, map_bind]
    by_cases hlast : (rules.isEmpty && !!rule.conditions.isEmpty) = true
    · -- a last rule without conditions decides, so that nothing needs to follow
      rw [if_pos hlast]
      simp only [Bool.not_not, Bool.and_eq_true, List.isEmpty_iff] at hlast
      rw [rule_of_unconditional _ _ hlast.2]
      simp
    · rw [if_neg hlast]
      congr 1
      funext x
      cases x <;> simp

end

/-- Compiled rules decide as the rules do. -/
theorem runAll_compileRules {maxDepth : Nat} {ruleset : Ruleset} {c : CompiledRules}
    (h : compileRules registry maxDepth ruleset = .ok c) (meaning : Meaning) (locals : Locals) :
    Statement.runAll meaning.testing locals c.body = some <$>
      (World.ofMeaning registry meaning.testing).level
        (Scope.empty.bindParameters ruleset.parameters, locals) ruleset.rules := by
  obtain ⟨scope, r', rfl, hs, -, -, hbody⟩ := compileRules_ok h
  unfold level at hbody
  have hfun : registry.reset.functions = registry.functions := rfl
  obtain ⟨-, hrun⟩ := run_level ruleset.rules hs hfun hbody
  simpa using hrun locals

/-- A tree none of whose rules matches, in front of a rule that does. -/
def treeRules : Ruleset where
  version := "1.0"
  parameters := []
  rules :=
    [.mk none [] (.tree [.mk none [⟨⟨"not", [.bool true]⟩, none⟩] (.error (.string [.text "inner"]))]),
      .mk none [] (.error (.string [.text "outer"]))]

theorem runAll_compileRules_tree : ∃ c, compileRules .empty 64 treeRules = .ok c ∧
    Statement.runAll (Meaning.testing (Value.run fun _ _ => stuck)) [] c.body = some <$>
      (World.ofMeaning .empty (Meaning.testing (Value.run fun _ _ => stuck))).level
        (Scope.empty.bindParameters [], []) treeRules.rules := by
  have hok : (compileRules .empty 64 treeRules).isOk = true := by decide +kernel
  obtain ⟨c, hc⟩ := exists_of_isOk hok
  exact ⟨c, hc, runAll_compileRules hc _ _⟩

/-- The rule behind the tree is not tried. -/
example : (World.ofMeaning .empty (Value.run fun _ _ => stuck)).level (.empty, []) treeRules.rules .empty =
    some (.noMatch, .empty) := by
  cbv

end Signpost.Resolver
