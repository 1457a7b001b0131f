import Signpost.Proofs.Resolver.Lookups

/-!
# Rules beside each other

The rules of a level share the registry, in which functions are marked as used, and have paths that count them; neither
makes a difference for what is emitted.  Marks are not asked for (`LooksUp.emitted_congr`), and of a path only its
length is (`alike_rule`), which is how deep the rule lies.  So a rule has code of its own in a scope (`ruleCode`), and a
level is the code of its rules and an end that its last rule decides on (`emitted_level_eq`).
-/

namespace Signpost.Resolver

open Rules (Rule Outcome)

variable {α β : Type} {registry : Registry}

/-! ### What is emitted -/

theorem emitted_pure (a : α) : emitted registry (pure a) = some a := rfl

theorem LooksUp.emitted_congr {m : Compiling α} {names : List String} {F : Failure → Prop} (hm : LooksUp m names F)
    {s : Registry} (h : s.functions = registry.functions) : emitted s m = emitted registry m := by
  have heq := hm.agrees (Registry.agreeOn_of_functions_eq h names)
  have hemitted : ∀ x : Except Failure (α × Registry), x.toOption.map (·.1) = (x.map (·.1)).toOption := by
    intro x
    cases x <;> rfl
  rw [emitted, emitted, hemitted, hemitted, heq]

theorem LooksUp.emitted_of_ok {m : Compiling α} {names : List String} {F : Failure → Prop} {r r' : Registry} {a : α}
    (hm : LooksUp m names F) (hr : r.functions = registry.functions) (h : m r = .ok (a, r')) :
    emitted registry m = some a ∧ r'.functions = registry.functions := by
  rw [← hm.emitted_congr hr, emitted, h, hm.marks h, Registry.functions_use]
  exact ⟨rfl, hr⟩

/-- What is emitted of two steps, one after the other. -/
theorem LooksUp.emitted_bind {m : Compiling α} {f : α → Compiling β} {names names' : List String} {F : Failure → Prop}
    (hm : LooksUp m names F) (hf : ∀ a, LooksUp (f a) names' F) :
    emitted registry (m >>= f) = (emitted registry m).bind fun a => emitted registry (f a) := by
  show (m registry >>= fun x => f x.1 x.2).toOption.map _ = _
  cases hrun : m registry with
  | error g =>
    rw [emitted, hrun]
    rfl
  | ok x =>
    obtain ⟨a, r'⟩ := x
    obtain ⟨hfirst, hfunctions⟩ := hm.emitted_of_ok rfl hrun
    rw [hfirst]
    exact (hf a).emitted_congr hfunctions

/-! ### Paths -/

/-- The two give the same, if anything; they may fail with different failures. -/
def Alike (m m' : Compiling α) : Prop := ∀ r, (m r).toOption = (m' r).toOption

theorem Alike.refl (m : Compiling α) : Alike m m := fun _ => rfl

theorem Alike.bind {m m' : Compiling α} {f f' : α → Compiling β} (hm : Alike m m') (hf : ∀ a, Alike (f a) (f' a)) :
    Alike (m >>= f) (m' >>= f') := by
  intro r
  show (m r >>= fun x => f x.1 x.2).toOption = (m' r >>= fun x => f' x.1 x.2).toOption
  have h := hm r
  cases hr : m r with
  | error g =>
    rw [hr] at h
    obtain ⟨g', hr'⟩ := exists_of_toOption_eq_none h.symm
    rw [hr']
    rfl
  | ok x =>
    rw [hr] at h
    rw [eq_ok_of_toOption h.symm]
    exact hf x.1 x.2

theorem Alike.inRule {m m' : Compiling α} (h : Alike m m') (p q : RulePath) : Alike (inRule p m) (inRule q m') := by
  have hskip : ∀ (p : RulePath) (m : Compiling α) r, (Resolver.inRule p m r).toOption = (m r).toOption := by
    intro p m r
    unfold Resolver.inRule
    cases m r <;> rfl
  intro r
  rw [hskip, hskip, h r]

theorem Alike.emitted_eq {m m' : Compiling α} (h : Alike m m') : emitted registry m = emitted registry m' := by
  rw [emitted, emitted, h]

mutual

/-- Where a rule is does not matter for its statements, but for how deep it is. -/
theorem alike_rule {maxDepth : Nat} {p q : RulePath} (hlen : p.length = q.length) : (r : Rule) → (scope : Scope) →
    Alike (rule maxDepth scope p r) (rule maxDepth scope q r)
  | .mk _ cs o, scope => by
    rw [rule, rule, checks_eq, checks_eq]
    refine Alike.inRule ((Alike.refl _).bind fun x => ?_) p q
    exact (alike_outcome hlen o x.1).bind fun _ => .refl _

theorem alike_outcome {maxDepth : Nat} {p q : RulePath} (hlen : p.length = q.length) : (o : Outcome) →
    (scope : Scope) → Alike (outcome maxDepth scope p o) (outcome maxDepth scope q o)
  | .endpoint e, scope => by
    rw [outcome, outcome]
    exact .refl _
  | .error message, scope => by
    rw [outcome, outcome]
    exact .refl _
  | .tree rules, scope => by
    rw [outcome, outcome, hlen]
    split
    · exact .refl _
    · exact alike_levelFrom hlen rules scope 0 0 true

theorem alike_levelFrom {maxDepth : Nat} {p q : RulePath} (hlen : p.length = q.length) : (rules : List Rule) →
    (scope : Scope) → (i j : Nat) → (isOpen : Bool) →
    Alike (levelFrom maxDepth scope p i isOpen rules) (levelFrom maxDepth scope q j isOpen rules)
  | [], _, _, _, _ => .refl _
  | r :: rs, scope, i, j, isOpen => by
    rw [levelFrom, levelFrom]
    refine (alike_rule (by simp [hlen]) r scope).bind fun _ => ?_
    exact (alike_levelFrom hlen rs scope (i + 1) (j + 1) _).bind fun _ => .refl _

end

/-! ### Levels -/

/-- What is emitted of a rule alone, at a depth. -/
def ruleCode (functions : Table String Function) (maxDepth : Nat) (scope : Scope) (depth : Nat) (r : Rule) :
    Option (List Statement) :=
  emitted ⟨functions, []⟩ (rule maxDepth scope (List.replicate (depth + 1) 0) r)

/-- The end of a level: the error that no rule matches, unless the last rule always does. -/
def catchAll (rules : List Rule) : List Statement :=
  if rules.getLast?.all (!·.conditions.isEmpty) then [.noMatch] else []

variable {maxDepth : Nat} {scope : Scope} {path : RulePath}

theorem emitted_rule_eq (i : Nat) (r : Rule) : emitted registry (rule maxDepth scope (path ++ [i]) r) =
    ruleCode registry.functions maxDepth scope path.length r := by
  have hlen : (path ++ [i]).length = (List.replicate (path.length + 1) 0).length := by simp
  rw [(alike_rule hlen r scope).emitted_eq]
  exact (looksUp_rule maxDepth _ r [] scope).emitted_congr rfl

/-- The end of a level that begins with these rules, or behind a rule that may fail to match or not. -/
private def ending (isOpen : Bool) (rules : List Rule) : List Statement :=
  if (rules.getLast?.map (!·.conditions.isEmpty)).getD isOpen then [.noMatch] else []

private theorem ending_true (rules : List Rule) : ending true rules = catchAll rules := by
  unfold ending catchAll
  cases rules.getLast? <;> rfl

private theorem ending_cons (isOpen : Bool) (r : Rule) (rules : List Rule) :
    ending isOpen (r :: rules) = ending (!r.conditions.isEmpty) rules := by
  unfold ending
  rw [List.getLast?_cons]
  cases rules.getLast? <;> rfl

private theorem emitted_levelFrom_eq (i : Nat) (isOpen : Bool) (rules : List Rule) :
    emitted registry (levelFrom maxDepth scope path i isOpen rules) =
      (rules.mapM (ruleCode registry.functions maxDepth scope path.length)).map (·.flatten ++ ending isOpen rules) := by
  induction rules generalizing i isOpen with
  | nil =>
    rw [levelFrom, emitted_pure, List.mapM_nil]
    cases isOpen <;> rfl
  | cons r rs ih =>
    have hrs := looksUp_levelFrom maxDepth path rs [] scope (i + 1) (!r.conditions.isEmpty)
    rw [levelFrom, (looksUp_rule maxDepth _ r [] scope).emitted_bind fun us => hrs.followed fun _ => .pure _,
      emitted_rule_eq, List.mapM_cons, ending_cons]
    cases ruleCode registry.functions maxDepth scope path.length r with
    | none => rfl
    | some us =>
      show emitted registry (_ >>= fun vs => pure (us ++ vs)) = _
      rw [hrs.emitted_bind fun _ => .pure _, ih]
      cases rs.mapM (ruleCode registry.functions maxDepth scope path.length) with
      | none => rfl
      | some codes => simp [emitted_pure]

theorem emitted_level_eq (rules : List Rule) : emitted registry (levelFrom maxDepth scope path 0 true rules) =
    (rules.mapM (ruleCode registry.functions maxDepth scope path.length)).map (·.flatten ++ catchAll rules) := by
  rw [emitted_levelFrom_eq, ending_true]

theorem tokensOf_append (names : Names) (us vs : List Statement) :
    Statement.tokensOf names (us ++ vs) = Statement.tokensOf names us ++ Statement.tokensOf names vs := by
  induction us with
  | nil => rfl
  | cons u us ih => rw [List.cons_append, Statement.tokensOf, Statement.tokensOf, ih, List.append_assoc]

theorem catchAll_append (xs : List Rule) {ys : List Rule} (hys : ys ≠ []) : catchAll (xs ++ ys) = catchAll ys := by
  rw [catchAll, catchAll, List.getLast?_append, List.getLast?_eq_some_getLast hys, Option.some_or]

/-- Rules beside each other have no influence on each other: a level is the code of its rules one after the other, each
as it is alone in the scope and at the depth, and the end of the level.  So it is the code of any rules that it begins
with, compiled alone but for the end of their level, and that of the others. -/
theorem emitted_level_append {registry : Registry} {maxDepth : Nat} {scope : Scope} {path : RulePath}
    {xs ys : List Rule} {ss : List Statement} (hys : ys ≠ [])
    (h : emitted registry (levelFrom maxDepth scope path 0 true (xs ++ ys)) = some ss) :
    ∃ us vs, xs.mapM (ruleCode registry.functions maxDepth scope path.length) = some us ∧
      ys.mapM (ruleCode registry.functions maxDepth scope path.length) = some vs ∧
      emitted registry (levelFrom maxDepth scope path 0 true xs) = some (us.flatten ++ catchAll xs) ∧
      emitted registry (levelFrom maxDepth scope path 0 true ys) = some (vs.flatten ++ catchAll ys) ∧
      ∀ names, Statement.tokensOf names ss =
        Statement.tokensOf names us.flatten ++ Statement.tokensOf names (vs.flatten ++ catchAll ys) := by
  rw [emitted_level_eq] at h
  obtain ⟨codes, hcodes, rfl⟩ := Option.map_eq_some_iff.1 h
  rw [List.mapM_append] at hcodes
  obtain ⟨us, hus, hcodes⟩ := Option.bind_eq_some_iff.1 hcodes
  obtain ⟨vs, hvs, hcodes⟩ := Option.bind_eq_some_iff.1 hcodes
  obtain rfl := Option.some.inj hcodes
  refine ⟨us, vs, hus, hvs, ?_, ?_, fun names => ?_⟩
  · rw [emitted_level_eq, hus]
    rfl
  · rw [emitted_level_eq, hvs]
    rfl
  · rw [catchAll_append xs hys, List.flatten_append, List.append_assoc, tokensOf_append]

/-- The first rule narrows the region, the other one asks for it again. -/
def askingRules : List Rule :=
  [.mk none [⟨⟨"isSet", [.ref "Region"]⟩, none⟩] (.error (.ref "Region")),
    .mk none [⟨⟨"isSet", [.ref "Region"]⟩, none⟩] (.tree [.mk none [] (.error (.ref "Region"))])]

/-- A region that may be absent. -/
def regionScope : Scope := Scope.empty.bind "Region" ⟨⟨"region", false⟩, .option .string⟩

theorem emitted_level_askingRules : ∃ ss us vs,
    emitted .empty (levelFrom 64 regionScope [] 0 true (askingRules.take 1 ++ askingRules.drop 1)) = some ss ∧
      emitted .empty (levelFrom 64 regionScope [] 0 true (askingRules.take 1)) = some (us ++ [.noMatch]) ∧
      emitted .empty (levelFrom 64 regionScope [] 0 true (askingRules.drop 1)) = some (vs ++ [.noMatch]) ∧
      ∀ names, Statement.tokensOf names ss =
        Statement.tokensOf names us ++ Statement.tokensOf names (vs ++ [.noMatch]) := by
  have hok : (emitted .empty
      (levelFrom 64 regionScope [] 0 true (askingRules.take 1 ++ askingRules.drop 1))).isSome = true := by
    decide +kernel
  obtain ⟨ss, hss⟩ := Option.isSome_iff_exists.1 hok
  obtain ⟨us, vs, -, -, hus, hvs, htokens⟩ := emitted_level_append (by decide) hss
  exact ⟨ss, us.flatten, vs.flatten, hss, hus, hvs, htokens⟩

end Signpost.Resolver
