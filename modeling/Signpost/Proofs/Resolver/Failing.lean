import Signpost.Proofs.Resolver.Siblings

/-!
# Rules that fail

The failure of a ruleset lies in the innermost rule that fails: behind rules that are compiled, along trees whose
conditions are compiled, a rule fails for its own conditions or its own outcome (`FailsAt`).  What fails here does not
say so itself; the path comes about on the way out, where the innermost rule is the first to give its own.
-/

namespace Signpost.Resolver

open Rules (Rule Outcome Parameter Ruleset)

variable {α : Type} {registry r : Registry} {maxDepth : Nat} {f : Failure}

/-- An outcome fails, and not in a rule inside it; a tree fails so if it is too deep. -/
inductive OutcomeFails (registry : Registry) (maxDepth : Nat) (scope : Scope) (depth : Nat) : Outcome → Cause → Prop
  | endpoint {e cause} (h : endpoint scope e registry = .error ⟨cause, none⟩) :
    OutcomeFails registry maxDepth scope depth (.endpoint e) cause
  | message {message cause} (h : compileString scope .message message registry = .error ⟨cause, none⟩) :
    OutcomeFails registry maxDepth scope depth (.error message) cause
  | tooDeep {rules} (h : maxDepth < depth) :
    OutcomeFails registry maxDepth scope depth (.tree rules) (.unsupported (.nesting maxDepth))

/-- A rule fails for its conditions or its outcome, and not in a rule inside it. -/
inductive FailsItself (registry : Registry) (maxDepth : Nat) (scope : Scope) (depth : Nat) (rule : Rule)
    (cause : Cause) : Prop
  | conditions (h : openings scope rule.conditions registry = .error ⟨cause, none⟩)
  | outcome {inner around} (hinner : emitted registry (openings scope rule.conditions) = some (inner, around))
    (h : OutcomeFails registry maxDepth inner depth rule.outcome cause)

/-- The innermost rule that fails is the one at the path: on every level the rules before are compiled, and so are the
conditions of the rules that it lies in. -/
inductive FailsAt (registry : Registry) (maxDepth : Nat) (cause : Cause) :
    Scope → Nat → List Rule → RulePath → Prop
  | itself {scope depth rules i rule} (hrule : rules[i]? = some rule)
    (hbefore : ∀ s ∈ rules.take i, (ruleCode registry.functions maxDepth scope depth s).isSome = true)
    (h : FailsItself registry maxDepth scope (depth + 1) rule cause) :
    FailsAt registry maxDepth cause scope depth rules [i]
  | within {scope depth rules i rule inner around nested path} (hrule : rules[i]? = some rule)
    (hbefore : ∀ s ∈ rules.take i, (ruleCode registry.functions maxDepth scope depth s).isSome = true)
    (hinner : emitted registry (openings scope rule.conditions) = some (inner, around))
    (ho : rule.outcome = .tree nested) (hdepth : depth + 1 ≤ maxDepth)
    (h : FailsAt registry maxDepth cause inner (depth + 1) nested path) :
    FailsAt registry maxDepth cause scope depth rules (i :: path)

/-- What fails behind a rule that is compiled. -/
theorem FailsAt.cons {cause : Cause} {scope : Scope} {depth : Nat} {rule : Rule} {rules : List Rule} {i : Nat}
    {path : RulePath} (hrule : (ruleCode registry.functions maxDepth scope depth rule).isSome = true)
    (h : FailsAt registry maxDepth cause scope depth rules (i :: path)) :
    FailsAt registry maxDepth cause scope depth (rule :: rules) ((i + 1) :: path) := by
  cases h with
  | itself hi hbefore h => exact .itself (by simpa using hi) (by simpa using ⟨hrule, hbefore⟩) h
  | within hi hbefore hinner ho hdepth h =>
    exact .within (by simpa using hi) (by simpa using ⟨hrule, hbefore⟩) hinner ho hdepth h

/-! ### Failures of steps -/

theorem LooksUp.error_of_unplaced {m : Compiling α} {names : List String} (hm : LooksUp m names Unplaced)
    (hr : r.functions = registry.functions) (h : m r = .error f) :
    m registry = .error ⟨f.cause, none⟩ ∧ f.rule = none := by
  have hrule : f.rule = none := hm.failure h
  rw [hm.error_of_agrees (Registry.agreeOn_of_functions_eq hr.symm names) h, ← hrule]
  exact ⟨rfl, rfl⟩

mutual

private theorem failing_rule {path : RulePath} : (rule : Rule) → {scope : Scope} → {r : Registry} → {f : Failure} →
    r.functions = registry.functions → Resolver.rule maxDepth scope path rule r = .error f →
    f.rule = some path ∧ FailsItself registry maxDepth scope path.length rule f.cause ∨
      ∃ inner around nested rest, emitted registry (openings scope rule.conditions) = some (inner, around) ∧
        rule.outcome = .tree nested ∧ path.length ≤ maxDepth ∧ f.rule = some (path ++ rest) ∧
        FailsAt registry maxDepth f.cause inner path.length nested rest
  | .mk _ cs o, scope, r, f, hr, h => by
    rw [Resolver.rule, checks_eq] at h
    -- what fails here names no rule yet and gets this one; what fails further inside keeps the rule that it names
    obtain ⟨g, hrun, rfl⟩ := inRule_error_iff.1 h
    have hopenings := looksUp_openings [] scope cs
    rcases bind_error_iff.1 hrun with h | ⟨⟨inner, around⟩, r', hinner, h⟩
    · obtain ⟨hconditions, hg⟩ := hopenings.error_of_unplaced hr h
      exact .inl ⟨by rw [Failure.inRule, hg]; rfl, .conditions hconditions⟩
    · obtain ⟨hinner, hr'⟩ := hopenings.emitted_of_ok hr hinner
      rcases bind_error_iff.1 h with h | ⟨_, _, _, h⟩
      · rcases failing_outcome o hr' h with ⟨hg, ho⟩ | ⟨nested, rest, ho, hdepth, hg, hnested⟩
        · exact .inl ⟨by rw [Failure.inRule, hg]; rfl, .outcome hinner ho⟩
        · exact .inr ⟨inner, around, nested, rest, hinner, ho, hdepth, by rw [Failure.inRule, hg]; rfl, hnested⟩
      · cases h

private theorem failing_outcome {path : RulePath} : (o : Outcome) → {scope : Scope} → {r : Registry} →
    {f : Failure} → r.functions = registry.functions → outcome maxDepth scope path o r = .error f →
    f.rule = none ∧ OutcomeFails registry maxDepth scope path.length o f.cause ∨
      ∃ nested rest, o = .tree nested ∧ path.length ≤ maxDepth ∧ f.rule = some (path ++ rest) ∧
        FailsAt registry maxDepth f.cause scope path.length nested rest
  | .endpoint e, scope, r, f, hr, h => by
    rcases bind_error_iff.1 h with h | ⟨_, _, _, h⟩
    · obtain ⟨he, hf⟩ := (looksUp_endpoint scope e).error_of_unplaced hr h
      exact .inl ⟨hf, .endpoint he⟩
    · cases h
  | .error message, scope, r, f, hr, h => by
    rcases bind_error_iff.1 h with h | ⟨_, _, _, h⟩
    · obtain ⟨hmessage, hf⟩ := (looksUp_compileString scope .message message).error_of_unplaced hr h
      exact .inl ⟨hf, .message hmessage⟩
    · cases h
  | .tree rules, scope, r, f, hr, h => by
    rw [outcome] at h
    by_cases hdepth : maxDepth < path.length
    · rw [if_pos hdepth] at h
      cases h
      exact .inl ⟨rfl, .tooDeep hdepth⟩
    · rw [if_neg hdepth] at h
      obtain ⟨i, rest, hf, hrules⟩ := failing_level rules hr h
      rw [Nat.zero_add] at hf
      exact .inr ⟨rules, i :: rest, rfl, Nat.not_lt.1 hdepth, hf, hrules⟩

private theorem failing_level {path : RulePath} : (rules : List Rule) → {i : Nat} → {isOpen : Bool} →
    {scope : Scope} → {r : Registry} → {f : Failure} → r.functions = registry.functions →
    levelFrom maxDepth scope path i isOpen rules r = .error f →
    ∃ j rest, f.rule = some (path ++ (i + j) :: rest) ∧
      FailsAt registry maxDepth f.cause scope path.length rules (j :: rest)
  | [], i, isOpen, scope, r, f, hr, h => by cases h
  | rule :: rules, i, isOpen, scope, r, f, hr, h => by
    rw [levelFrom] at h
    rcases bind_error_iff.1 h with h | ⟨us, r', hus, h⟩
    · have hlen : (path ++ [i]).length = path.length + 1 := by simp
      rcases failing_rule rule hr h with ⟨hf, hrule⟩ | ⟨inner, around, nested, rest, hinner, ho, hdepth, hf, hnested⟩
      · rw [hlen] at hrule
        exact ⟨0, [], hf, .itself rfl (by simp) hrule⟩
      · rw [hlen] at hdepth hnested
        exact ⟨0, rest, by rw [hf, List.append_assoc]; rfl, .within rfl (by simp) hinner ho hdepth hnested⟩
    · obtain ⟨hus, hr'⟩ := (looksUp_rule maxDepth (path ++ [i]) rule [] scope).emitted_of_ok hr hus
      rcases bind_error_iff.1 h with h | ⟨_, _, _, h⟩
      · obtain ⟨j, rest, hf, hrules⟩ := failing_level rules hr' h
        rw [emitted_rule_eq] at hus
        refine ⟨j + 1, rest, ?_, hrules.cons (by rw [hus]; rfl)⟩
        rw [hf, Nat.add_right_comm, Nat.add_assoc]
      · cases h

end

/-! ### Rulesets -/

private theorem localOf_error {name : String} (h : localOf name r = .error f) : f.cause = .unnameable name := by
  unfold localOf at h
  cases hname : Code.Ident.ofName? name with
  | some i =>
    rw [hname] at h
    cases h
  | none =>
    rw [hname] at h
    cases h
    rfl

private theorem parameterLocals_error {scope : Scope} {ps : List Parameter}
    (h : parameterLocals scope ps r = .error f) : ∃ p ∈ ps, f.cause = .unnameable p.name := by
  induction ps generalizing scope r with
  | nil => cases h
  | cons p ps ih =>
    rcases bind_error_iff.1 h with h | ⟨i, r', -, h⟩
    · exact ⟨p, List.mem_cons_self, localOf_error h⟩
    · rcases bind_error_iff.1 h with h | ⟨_, _, _, h⟩
      · obtain ⟨q, hq, hf⟩ := ih h
        exact ⟨q, List.mem_cons_of_mem _ hq, hf⟩
      · cases h

/-- Every failure of a ruleset with rules lies in a rule: the innermost one that fails, behind rules that are compiled.
Outside of all rules only the name of a parameter can be at fault, if it makes no identifier; there compiling breaks off
without an error to report. -/
theorem failsAt_of_compileRules {ruleset : Ruleset} (hrules : ruleset.rules ≠ [])
    (h : compileRules registry maxDepth ruleset = .error f)
    (hnames : ∀ p ∈ ruleset.parameters, f.cause ≠ .unnameable p.name) :
    ∃ path, f.rule = some path ∧
      FailsAt registry maxDepth f.cause (Scope.empty.bindParameters ruleset.parameters) 0 ruleset.rules path := by
  rw [compileRules_eq, if_neg (by simpa using hrules)] at h
  have hrun : parametersAndRules maxDepth ruleset registry.reset = .error f := by
    cases hrun : parametersAndRules maxDepth ruleset registry.reset with
    | ok x =>
      rw [hrun] at h
      cases h
    | error g =>
      rw [hrun] at h
      cases h
      rfl
  rcases bind_error_iff.1 hrun with hps | ⟨⟨locals, scope⟩, r', hps, hrun⟩
  · obtain ⟨p, hp, hf⟩ := parameterLocals_error hps
    exact absurd hf (hnames p hp)
  · obtain ⟨rfl, rfl, -⟩ := parameterLocals_ok (by simp [Scope.Named, Scope.empty]) hps
    rcases bind_error_iff.1 hrun with hlevel | ⟨_, _, _, hrun⟩
    · have hfunctions : registry.reset.functions = registry.functions := rfl
      unfold level at hlevel
      obtain ⟨i, rest, hf, hfails⟩ := failing_level ruleset.rules hfunctions hlevel
      rw [Nat.zero_add, List.nil_append] at hf
      exact ⟨i :: rest, hf, hfails⟩
    · cases hrun

/-- The last rule of a tree refers to what is not there. -/
def strayRules : Ruleset where
  version := "1.0"
  parameters := []
  rules :=
    [.mk none [⟨⟨"not", [.bool false]⟩, none⟩] (.error (.string [.text "first"])),
      .mk none [⟨⟨"not", [.bool true]⟩, none⟩] (.tree
        [.mk none [⟨⟨"isValidHostLabel", [.string [.text "a"], .bool false]⟩, none⟩] (.error (.string [.text "label"])),
          .mk none [] (.error (.ref "Bucket"))])]

theorem failsAt_strayRules :
    compileRules .standard 64 strayRules = .error ⟨.unknownReference "Bucket", some [1, 1]⟩ ∧
      FailsAt .standard 64 (.unknownReference "Bucket") .empty 0 strayRules.rules [1, 1] := by
  have herror : compileRules .standard 64 strayRules = .error ⟨.unknownReference "Bucket", some [1, 1]⟩ := rfl
  obtain ⟨path, hpath, hfails⟩ := failsAt_of_compileRules (by decide) herror (List.forall_mem_nil _)
  cases hpath
  exact ⟨herror, hfails⟩

end Signpost.Resolver
