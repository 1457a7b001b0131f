import Signpost.Proofs.Resolver.References

/-!
# Parameters and conditions

Parameters become locals (`compileRules_ok`); a condition becomes one statement, a guard, around what follows it
(`check_ok`).  To ask whether a name is set whose value may be absent is to give the value that name, so that there are
three forms of conditions, by the type of their value: options and truth values, which may fail to hold, and all others,
which hold in every case.

Conditions lead to a scope and put guards around whatever is compiled in it, or they fail, and what follows them has no
say in this.  `openings` compiles the conditions alone; `checks_eq` says that conditions with something behind them are
compiled so first, and then what is behind them in the scope that they lead to.
-/

namespace Signpost.Rules

/-- The name whose value a condition asks for, if it does nothing else. -/
def Condition.narrowed? (c : Condition) : Option String :=
  match c.call.name, c.assign, c.call.args with
  | "isSet", none, [.ref name] => some name
  | _, _, _ => none

/-- The value that a condition looks at. -/
def Condition.expr (c : Condition) : Expr :=
  match c.narrowed? with
  | some name => .ref name
  | none => c.call.toExpr

/-- The name that what follows a condition has for its value. -/
def Condition.bound? (c : Condition) : Option String := c.narrowed?.or c.assign

theorem Condition.narrowed?_eq_some_iff {c : Condition} {name : String} :
    c.narrowed? = some name ↔ c.call.name = "isSet" ∧ c.assign = none ∧ c.call.args = [.ref name] := by
  unfold narrowed?
  split
  · simp_all
  · rename_i h
    constructor
    · intro h'
      cases h'
    · rintro ⟨h₁, h₂, h₃⟩
      exact absurd h₃ (h name h₁ h₂)

end Signpost.Rules

namespace Signpost.Resolver

open Code (Ident)
open Rules (Condition Parameter Ruleset)

/-- The names that are bound, the innermost first. -/
def Scope.names (s : Scope) : List String := s.bindings.map (·.1)

/-- The locals for what is bound, the innermost first. -/
def Scope.idents (s : Scope) : List Ident := s.bindings.map (·.2.ident)

/-- The binding of a name is the innermost. -/
theorem Scope.get?_eq (s : Scope) (name : String) : s.get? name = (s.bindings.map (·.2))[s.names.idxOf name]? := by
  obtain ⟨bs⟩ := s
  show bs.lookup name = (bs.map (·.2))[(bs.map (·.1)).idxOf name]?
  induction bs with
  | nil => rfl
  | cons x bs ih =>
    rw [List.lookup_cons, List.map_cons, List.map_cons, List.idxOf_cons]
    by_cases hx : x.1 = name
    · subst hx
      simp
    · have hbeq : (x.1 == name) = false := beq_eq_false_iff_ne.2 hx
      have hbeq' : (name == x.1) = false := beq_eq_false_iff_ne.2 fun h => hx h.symm
      rw [hbeq, hbeq', cond_false, List.getElem?_cons_succ]
      exact ih

/-- Every binding has the local of its name. -/
def Scope.Named (s : Scope) : Prop := ∀ x ∈ s.bindings, Ident.ofName? x.1 = some x.2.ident

theorem Scope.Named.bind {s : Scope} {name : String} {i : Ident} {ty : Ty} (hs : s.Named)
    (hi : Ident.ofName? name = some i) : (s.bind name ⟨i, ty⟩).Named := by
  intro x hx
  rcases List.mem_cons.1 hx with rfl | hx
  · exact hi
  · exact hs x hx

theorem Scope.mem_of_get? {s : Scope} {name : String} {b : Binding} (h : s.get? name = some b) :
    (name, b) ∈ s.bindings := by
  obtain ⟨us, vs, he, -⟩ := List.lookup_eq_some_iff.1 h
  simp [he]

theorem Scope.Named.get? {s : Scope} {name : String} {b : Binding} (hs : s.Named) (h : s.get? name = some b) :
    Ident.ofName? name = some b.ident := hs (name, b) (Scope.mem_of_get? h)

/-- The scope in which parameters are bound too. -/
def Scope.bindParameters (s : Scope) : List Parameter → Scope
  | [] => s
  | p :: ps => (s.bind p.name ⟨(Ident.ofName? p.name).getD default, parameterType p⟩).bindParameters ps

/-- The scope in which a value of a type may have a name, and the local that has it. -/
inductive Extends (s : Scope) (ty : Ty) : Option String → Option Ident → Scope → Prop
  | none : Extends s ty none none s
  | some {name i} (h : Ident.ofName? name = some i) : Extends s ty (some name) (some i) (s.bind name ⟨i, ty⟩)

theorem Extends.named {s inner : Scope} {ty : Ty} {name? : Option String} {i? : Option Ident}
    (h : Extends s ty name? i? inner) (hs : s.Named) : inner.Named := by
  cases h with
  | none => exact hs
  | some h => exact hs.bind h

/-- The statement that runs a body where a condition holds, by the type of the value that it looks at. -/
def Statement.guard (c : Compiled) (name : Option Ident) (body : List Statement) : Option Statement :=
  match c.ty, name with
  | .option _, some i => some (.ifSome i c.value body)
  | .option _, none => some (.ifTrue (.isSome c.value) body)
  | .bool, some i => some (.ifBound i c.value body)
  | .bool, none => some (.ifTrue c.value body)
  | _, some i => some (.bind i c.value c.isOwned body)
  | _, none => none

variable {scope : Scope} {c : Condition} {rest : Rest} {r r' : Registry} {ss : List Statement}

private theorem localOf_ok_iff {name : String} {i : Ident} :
    localOf name r = .ok (i, r') ↔ Ident.ofName? name = some i ∧ r = r' := by
  unfold localOf
  cases Ident.ofName? name with
  | none => simp
  | some j => simp

/-! ### Parameters -/

theorem parameterLocals_ok {ps : List Parameter} {locals : List ParameterLocal} {inner : Scope}
    (hs : scope.Named) (h : parameterLocals scope ps r = .ok ((locals, inner), r')) :
    r = r' ∧ inner = scope.bindParameters ps ∧ inner.Named ∧ inner.names = (ps.map (·.name)).reverse ++ scope.names ∧
      inner.idents = (locals.map (·.ident)).reverse ++ scope.idents := by
  induction ps generalizing scope locals r with
  | nil =>
    obtain ⟨hx, rfl⟩ := pure_ok_iff.1 h
    cases hx
    exact ⟨rfl, rfl, hs, rfl, rfl⟩
  | cons p ps ih =>
    obtain ⟨i, r₁, hi, h⟩ := bind_ok_iff.1 h
    obtain ⟨hname, rfl⟩ := localOf_ok_iff.1 hi
    obtain ⟨⟨ls, s⟩, r₂, hps, h⟩ := bind_ok_iff.1 h
    obtain ⟨hx, rfl⟩ := pure_ok_iff.1 h
    cases hx
    obtain ⟨hr, hinner, hnamed, hnames, hidents⟩ := ih (hs.bind hname) hps
    refine ⟨hr, ?_, hnamed, ?_, ?_⟩
    · rw [Scope.bindParameters, hname]
      exact hinner
    · simpa [Scope.names, Scope.bind] using hnames
    · simpa [Scope.idents, Scope.bind] using hidents

/-- A ruleset is compiled by making its parameters locals, and then its rules in the scope of these. -/
theorem exists_of_compileRules {registry : Registry} {maxDepth : Nat} {ruleset : Ruleset} {c : CompiledRules}
    (h : compileRules registry maxDepth ruleset = .ok c) :
    ∃ scope r₁ r₂, parameterLocals .empty ruleset.parameters registry.reset = .ok ((c.locals, scope), r₁) ∧
      level maxDepth scope ruleset.rules r₁ = .ok (c.body, r₂) := by
  unfold compileRules at h
  split at h
  · cases h
  · -- what runs is the locals and then the rules
    obtain ⟨⟨⟨locals, body⟩, r'⟩, hwork, hc⟩ := exists_of_bind_ok h
    cases hc
    obtain ⟨⟨ls, s⟩, r₁, hps, hwork⟩ := bind_ok_iff.1 hwork
    obtain ⟨ss, r₂, hss, hwork⟩ := bind_ok_iff.1 hwork
    obtain ⟨hx, rfl⟩ := pure_ok_iff.1 hwork
    cases hx
    exact ⟨s, r₁, _, hps, hss⟩

/-- The rules of a compiled ruleset are compiled in the scope of the parameters. -/
theorem compileRules_ok {registry : Registry} {maxDepth : Nat} {ruleset : Ruleset} {c : CompiledRules}
    (h : compileRules registry maxDepth ruleset = .ok c) :
    ∃ scope r', scope = Scope.empty.bindParameters ruleset.parameters ∧
      scope.Named ∧ scope.names = (ruleset.parameters.map (·.name)).reverse ∧
      scope.idents = (c.locals.map (·.ident)).reverse ∧
      level maxDepth scope ruleset.rules registry.reset = .ok (c.body, r') := by
  obtain ⟨s, r₁, r₂, hps, hss⟩ := exists_of_compileRules h
  obtain ⟨rfl, hscope, hnamed, hnames, hidents⟩ := parameterLocals_ok (by simp [Scope.Named, Scope.empty]) hps
  exact ⟨s, _, hscope, hnamed, by simpa [Scope.names, Scope.empty] using hnames,
    by simpa [Scope.idents, Scope.empty] using hidents, hss⟩

/-! ### Conditions -/

theorem narrowing_eq : narrowing scope c = match c.narrowed? with
    | none => pure none
    | some name => match scope.get? name with
      | none => fail (.unknownReference name)
      | some b => match b.ty with
        | .option t => pure (some (b.ident, scope.bind name ⟨b.ident, t⟩))
        | _ => pure none := by
  unfold narrowing
  cases hn : c.narrowed? with
  | none =>
    split
    · rename_i name hname hassign hargs
      rw [Condition.narrowed?_eq_some_iff.2 ⟨hname, hassign, hargs⟩] at hn
      cases hn
    · rfl
  | some name =>
    obtain ⟨hname, hassign, hargs⟩ := Condition.narrowed?_eq_some_iff.1 hn
    rw [hname, hassign, hargs]
    rfl

/-- Where a condition narrows a name, the name has a value that may be absent. -/
private theorem narrowing_ok {x : Option (Ident × Scope)} (h : narrowing scope c r = .ok (x, r')) : r = r' ∧
    ∀ i inner, x = some (i, inner) → ∃ name t, c.narrowed? = some name ∧ scope.get? name = some ⟨i, .option t⟩ ∧
      inner = scope.bind name ⟨i, t⟩ := by
  rw [narrowing_eq] at h
  cases hn : c.narrowed? with
  | none =>
    rw [hn] at h
    obtain ⟨rfl, hr⟩ := pure_ok_iff.1 h
    exact ⟨hr, fun i inner hx => by cases hx⟩
  | some name =>
    rw [hn] at h
    dsimp only at h
    cases hb : scope.get? name with
    | none =>
      rw [hb] at h
      exact absurd h not_fail_ok
    | some b =>
      rw [hb] at h
      obtain ⟨i, ty⟩ := b
      cases ty with
      | option t =>
        obtain ⟨rfl, hr⟩ := pure_ok_iff.1 h
        refine ⟨hr, fun i inner hx => ?_⟩
        cases hx
        exact ⟨name, t, rfl, hb, rfl⟩
      | _ =>
        obtain ⟨rfl, hr⟩ := pure_ok_iff.1 h
        exact ⟨hr, fun i inner hx => by cases hx⟩

/-- Asking whether a name is set whose value never is absent is refused. -/
private theorem not_isSet {name : String} {v : Compiled} (hn : c.narrowed? = some name)
    (hx : narrowing scope c r = .ok (none, r)) : compile scope c.call.toExpr r ≠ .ok (v, r') := by
  intro h
  obtain ⟨hname, -, hargs⟩ := Condition.narrowed?_eq_some_iff.1 hn
  rw [Rules.Call.toExpr, hname, hargs] at h
  obtain ⟨cs, r₁, hcs, h⟩ := bind_ok_iff.1 h
  obtain ⟨a, r₂, ha, hcs⟩ := bind_ok_iff.1 hcs
  obtain ⟨as, r₃, has, hcs⟩ := bind_ok_iff.1 hcs
  obtain ⟨rfl, rfl⟩ := pure_ok_iff.1 has
  obtain ⟨rfl, rfl⟩ := pure_ok_iff.1 hcs
  rw [narrowing_eq, hn] at hx
  dsimp only at hx
  change reference scope name r = _ at ha
  unfold reference at ha
  cases hb : scope.get? name with
  | none =>
    rw [hb] at ha
    exact absurd ha not_fail_ok
  | some b =>
    rw [hb] at ha hx
    obtain ⟨i, ty⟩ := b
    obtain ⟨rfl, rfl⟩ := pure_ok_iff.1 ha
    cases ty with
    | option t => cases (pure_ok_iff.1 hx).1
    | _ => exact absurd h not_fail_ok

/-- A condition becomes a guard around what follows in the scope in which its value may have a name. -/
theorem check_ok (hs : scope.Named) (h : check scope c rest r = .ok (ss, r')) :
    ∃ v mid i inner body s, compile scope c.expr r = .ok (v, mid) ∧
      Extends scope v.ty.unwrapOption c.bound? i inner ∧ rest inner mid = .ok (body, r') ∧
      Statement.guard v i body = some s ∧ ss = [s] := by
  unfold check at h
  obtain ⟨x, r₁, hx, h⟩ := bind_ok_iff.1 h
  obtain ⟨rfl, hnarrow⟩ := narrowing_ok hx
  cases x with
  | some x =>
    obtain ⟨i, inner⟩ := x
    obtain ⟨name, t, hname, hget, rfl⟩ := hnarrow i inner rfl
    obtain ⟨body, r₂, hbody, h⟩ := bind_ok_iff.1 h
    obtain ⟨rfl, rfl⟩ := pure_ok_iff.1 h
    refine ⟨.plain (.local i) (.option t), r, some i, _, body, _, ?_, ?_, hbody, rfl, rfl⟩
    · rw [Condition.expr, hname]
      simp only [compile, reference, hget]
      rfl
    · rw [Condition.bound?, hname]
      exact .some (hs.get? hget)
  | none =>
    obtain ⟨v, mid, hv, h⟩ := bind_ok_iff.1 h
    -- a condition that would narrow a name, but does not, is not compiled at all
    have hn : c.narrowed? = none := by
      cases hn : c.narrowed? with
      | none => rfl
      | some name => exact absurd hv (not_isSet hn hx)
    have he : c.expr = c.call.toExpr := by rw [Condition.expr, hn]
    have hb : c.bound? = c.assign := by rw [Condition.bound?, hn]; rfl
    rw [he, hb]
    obtain ⟨value, ty, isOwned⟩ := v
    cases hassign : c.assign with
    | none =>
      rw [hassign] at h
      -- a guard without a name needs an option or a truth value
      cases ty
      case option | bool =>
        obtain ⟨body, r₂, hbody, h⟩ := bind_ok_iff.1 h
        obtain ⟨rfl, rfl⟩ := pure_ok_iff.1 h
        exact ⟨_, mid, none, scope, body, _, hv, .none, hbody, rfl, rfl⟩
      all_goals exact absurd h not_fail_ok
    | some name =>
      rw [hassign] at h
      cases ty
      all_goals
        obtain ⟨i, r₂, hi, h⟩ := bind_ok_iff.1 h
        obtain ⟨hname, rfl⟩ := localOf_ok_iff.1 hi
        obtain ⟨body, r₃, hbody, h⟩ := bind_ok_iff.1 h
        obtain ⟨rfl, rfl⟩ := pure_ok_iff.1 h
        exact ⟨_, mid, some i, _, body, _, hv, .some hname, hbody, rfl, rfl⟩

/-! ### Conditions apart from what follows them -/

/-- The scope behind a condition that has this value, and its guard around what follows. -/
def openingOn (scope : Scope) (c : Condition) (v : Compiled) : Compiling (Scope × (List Statement → Statement)) :=
  match c.assign, v.ty with
  | none, .option _ => return (scope, .ifTrue (.isSome v.value))
  | none, .bool => return (scope, .ifTrue v.value)
  | none, ty => fail (.mismatch (.condition c ty))
  | some name, .option ty => do
    let i ← localOf name
    return (scope.bind name ⟨i, ty⟩, .ifSome i v.value)
  | some name, .bool => do
    let i ← localOf name
    return (scope.bind name ⟨i, .bool⟩, .ifBound i v.value)
  | some name, ty => do
    let i ← localOf name
    return (scope.bind name ⟨i, ty⟩, .bind i v.value v.isOwned)

/-- The scope behind a condition, and its guard around what follows. -/
def opening (scope : Scope) (c : Condition) : Compiling (Scope × (List Statement → Statement)) := do
  match ← narrowing scope c with
  | some (i, inner) => return (inner, .ifSome i (.local i))
  | none => openingOn scope c (← compile scope c.call.toExpr)

/-- The scope behind conditions, and their guards around what follows, one inside the other. -/
def openings (scope : Scope) : List Condition → Compiling (Scope × (List Statement → List Statement))
  | [] => return (scope, id)
  | c :: cs => do
    let (mid, around) ← opening scope c
    let (inner, inside) ← openings mid cs
    return (inner, fun body => [around (inside body)])

theorem fail_bind {α β : Type} (cause : Cause) (f : α → Compiling β) : (fail cause >>= f) = fail cause := rfl

theorem check_eq (scope : Scope) (c : Condition) : check scope c rest = (do
    let (inner, around) ← opening scope c
    return [around (← rest inner)]) := by
  unfold check opening
  rw [bind_assoc]
  congr 1
  funext x
  cases x with
  | some x => simp only [pure_bind]
  | none =>
    simp only [bind_assoc]
    congr 1
    funext v
    obtain ⟨value, ty, isOwned⟩ := v
    unfold openingOn
    cases c.assign <;> cases ty <;> simp only [pure_bind, bind_assoc, fail_bind]

theorem checks_eq (scope : Scope) (cs : List Condition) : checks rest cs scope = (do
    let (inner, around) ← openings scope cs
    return around (← rest inner)) := by
  induction cs generalizing scope with
  | nil => simp only [checks, openings, pure_bind, id, bind_pure]
  | cons c cs ih =>
    rw [checks, check_eq, openings]
    simp only [ih, bind_assoc, pure_bind]

end Signpost.Resolver
