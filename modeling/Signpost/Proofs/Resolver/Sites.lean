import Signpost.Proofs.Resolver.Conditions
import Signpost.Resolver.Library

/-!
# Places of a ruleset

Every expression of a ruleset stands behind conditions: those before it in its own rule, and all conditions of the
trees around the rule (`Ruleset.sites`).  These conditions make the scope that it is compiled in (`Reaches`), so that a
property which the compiler establishes of an expression in a scope (`Judges`) holds at every place of a ruleset that is
compiled (`judged_of_mem_sites`).
-/

namespace Signpost.Rules

mutual

/-- The expression and all expressions inside it. -/
def Expr.parts (e : Expr) : List Expr :=
  e :: match e with
  | .string t => partsOfTemplate t
  | .array es | .call _ es => partsOf es
  | .record fs => partsOfFields fs
  | .bool _ | .int _ | .ref _ => []

def Expr.partsOf (es : List Expr) : List Expr :=
  match es with
  | [] => []
  | e :: es => e.parts ++ partsOf es

def Expr.partsOfFields (fs : List (String × Expr)) : List Expr :=
  match fs with
  | [] => []
  | (_, e) :: fs => e.parts ++ partsOfFields fs

def Expr.partsOfTemplate (ps : List Part) : List Expr :=
  match ps with
  | [] => []
  | .text _ :: ps => partsOfTemplate ps
  | .hole e :: ps => e.parts ++ partsOfTemplate ps

end

/-- There is nothing inside a template without holes. -/
theorem Template.partsOfTemplate_eq_nil {t : Template} {s : String} (h : t.plainText? = some s) :
    Expr.partsOfTemplate t = [] := by
  induction t generalizing s with
  | nil => rfl
  | cons p ps ih =>
    cases p with
    | text s' =>
      obtain ⟨s'', h', -⟩ := Option.map_eq_some_iff.1 h
      rw [Expr.partsOfTemplate]
      exact ih h'
    | hole e => cases h

/-- An expression of a ruleset and the conditions behind which it stands, the outermost first. -/
structure Site where
  conditions : List Condition
  expr : Expr

/-- The places of conditions that stand behind others. -/
def conditionSites (before : List Condition) : List Condition → List Site
  | [] => []
  | c :: cs => ⟨before, c.call.toExpr⟩ :: conditionSites (before ++ [c]) cs

/-- The expressions of an endpoint. -/
def EndpointTemplate.exprs (e : EndpointTemplate) : List Expr :=
  e.url :: (e.headers.flatMap (·.2) ++ e.properties.map (·.2))

mutual

/-- The places of a rule that stands behind conditions. -/
def Rule.sites (before : List Condition) : Rule → List Site
  | .mk _ cs o => conditionSites before cs ++ o.sites (before ++ cs)

def Outcome.sites (before : List Condition) : Outcome → List Site
  | .endpoint e => e.exprs.map (Site.mk before)
  | .error message => [⟨before, message⟩]
  | .tree rules => levelSites before rules

def levelSites (before : List Condition) : List Rule → List Site
  | [] => []
  | r :: rs => r.sites before ++ levelSites before rs

end

/-- The places of a ruleset. -/
def Ruleset.sites (r : Ruleset) : List Site := levelSites [] r.rules

end Signpost.Rules

namespace Signpost.Resolver

open Code (Ident)
open Rules (Expr Condition Rule Outcome EndpointTemplate Parameter Ruleset Site conditionSites levelSites)

/-- The scopes that conditions lead to from the scope of the parameters. -/
inductive Reaches (outer : Scope) : List Condition → Scope → Prop
  | start : Reaches outer [] outer
  | step {cs c scope ty i inner} (h : Reaches outer cs scope) (hinner : Extends scope ty c.bound? i inner)
    (hbound : ∀ name ∈ c.narrowed?, (scope.get? name).isSome = true) : Reaches outer (cs ++ [c]) inner

theorem Scope.get?_bind (s : Scope) (name name' : String) (b : Binding) :
    (s.bind name b).get? name' = if name' = name then some b else s.get? name' := by
  show ((name, b) :: s.bindings).lookup name' = _
  rw [List.lookup_cons]
  by_cases h : name' = name
  · simp [h]
  · have hbeq : (name' == name) = false := beq_eq_false_iff_ne.2 h
    rw [hbeq, if_neg h]
    rfl

theorem Extends.get?_of_ne {s inner : Scope} {ty : Ty} {name : String} {name? : Option String} {i? : Option Ident}
    (hne : name? ≠ Option.some name) (h : Extends s ty name? i? inner) : inner.get? name = s.get? name := by
  cases h with
  | none => rfl
  | some _ =>
    rw [Scope.get?_bind, if_neg]
    rintro rfl
    exact hne rfl

/-- What no condition binds means what it meant before them. -/
theorem Reaches.get?_of_forall_ne {outer scope : Scope} {cs : List Condition} (h : Reaches outer cs scope)
    {name : String} (hne : ∀ c ∈ cs, c.bound? ≠ some name) : scope.get? name = outer.get? name := by
  induction h with
  | start => rfl
  | @step cs c scope ty i inner _ hinner _ ih =>
    rw [hinner.get?_of_ne (hne c (by simp))]
    exact ih fun d hd => hne d (List.mem_append_left _ hd)

/-- What is in scope was so before the conditions, or one of them gives its result this name. -/
theorem Reaches.bound_or_assigned {outer scope : Scope} {cs : List Condition} (h : Reaches outer cs scope)
    {name : String} (hname : (scope.get? name).isSome = true) :
    (outer.get? name).isSome = true ∨ ∃ c ∈ cs, c.assign = some name := by
  induction h with
  | start => exact .inl hname
  | @step cs c scope ty i inner _ hinner hbound ih =>
    have hscope : (scope.get? name).isSome = true →
        (outer.get? name).isSome = true ∨ ∃ d ∈ cs ++ [c], d.assign = some name := by
      intro hs
      rcases ih hs with hs | ⟨d, hd, hassign⟩
      · exact .inl hs
      · exact .inr ⟨d, List.mem_append_left _ hd, hassign⟩
    by_cases hc : c.bound? = some name
    · rcases Option.or_eq_some_iff.1 hc with hn | ⟨-, hassign⟩
      · -- what is narrowed was in scope before
        exact hscope (hbound name hn)
      · exact .inr ⟨c, by simp, hassign⟩
    · rw [hinner.get?_of_ne hc] at hname
      exact hscope hname

/-! ### Parameters -/

/-- What a name that is not bound by a condition means. -/
theorem Scope.get?_bindParameters (s : Scope) (ps : List Parameter) (name : String) :
    ((s.bindParameters ps).get? name).map (·.ty) =
      ((ps.reverse.find? (·.name = name)).map parameterType).or ((s.get? name).map (·.ty)) := by
  induction ps generalizing s with
  | nil => rfl
  | cons p ps ih =>
    rw [Scope.bindParameters, ih, List.reverse_cons, List.find?_append, Scope.get?_bind]
    cases hp : ps.reverse.find? (·.name = name) with
    | some q => simp
    | none =>
      by_cases hname : p.name = name
      · simp [hname]
      · simp [hname, Ne.symm hname]

/-! ### Judgements -/

/-- The property holds of all expressions that are compiled in a scope, where these functions are registered. -/
structure Judges (functions : Table String Function) (Q : Scope → Expr → Prop) : Prop where
  condition (scope : Scope) (c : Condition) :
    EnsuresFor functions (compile scope c.expr) fun _ => Q scope c.call.toExpr
  string (scope : Scope) (place : Place) (e : Expr) :
    EnsuresFor functions (compileString scope place e) fun _ => Q scope e
  document (scope : Scope) (e : Expr) : EnsuresFor functions (document scope e) fun _ => Q scope e

section

variable {functions : Table String Function} {Q : Scope → Expr → Prop} {outer scope : Scope}
  {before : List Condition} {r r' : Registry} {ss : List Statement}

/-- A place where the property holds in the scope that its conditions lead to. -/
def Judged (outer : Scope) (Q : Scope → Expr → Prop) (x : Site) : Prop :=
  ∃ scope, Reaches outer x.conditions scope ∧ Q scope x.expr

private theorem judged_fields (hj : Judges functions Q) (fs : List (String × Expr)) :
    EnsuresFor functions (documentFields scope fs) fun _ => ∀ f ∈ fs, Q scope f.2 := by
  induction fs with
  | nil => exact .pure fun _ hf => absurd hf List.not_mem_nil
  | cons f fs ih =>
    exact (hj.document scope f.2).bind fun _ hf => ih.bind fun _ hfs => .pure (List.forall_mem_cons.2 ⟨hf, hfs⟩)

private theorem judged_endpoint (hj : Judges functions Q) (e : EndpointTemplate) :
    EnsuresFor functions (endpoint scope e) fun _ => ∀ x ∈ e.exprs, Q scope x := by
  -- each header has a list of values
  have hvalues : ∀ h : String × List Expr,
      EnsuresFor functions (headerValues scope h.1 h.2) fun _ => ∀ x ∈ h.2, Q scope x :=
    fun h => .forall_mapM (fun x => (hj.string scope _ x).bind fun _ hx => .pure hx) h.2
  refine (hj.string scope _ e.url).bind fun _ hurl => ?_
  refine (EnsuresFor.forall_mapM hvalues e.headers).bind fun _ hheaders => ?_
  refine (judged_fields hj e.properties).bind fun _ hproperties => .pure ?_
  intro x hx
  rw [EndpointTemplate.exprs, List.mem_cons, List.mem_append, List.mem_flatMap, List.mem_map] at hx
  rcases hx with rfl | ⟨h, hh, hx⟩ | ⟨f, hf, rfl⟩
  · exact hurl
  · exact hheaders h hh x hx
  · exact hproperties f hf

/-- Conditions lead on to a scope in which what follows them is compiled. -/
private theorem judged_checks (hj : Judges functions Q) {rest : Rest} {sites : List Condition → List Site}
    (hrest : ∀ {before inner r r' ss}, inner.Named → Reaches outer before inner → r.functions = functions →
      rest inner r = .ok (ss, r') → r'.functions = functions ∧ ∀ x ∈ sites before, Judged outer Q x)
    {cs : List Condition} (hs : scope.Named) (hreach : Reaches outer before scope) (hr : r.functions = functions)
    (h : checks rest cs scope r = .ok (ss, r')) :
    r'.functions = functions ∧ ∀ x ∈ conditionSites before cs ++ sites (before ++ cs), Judged outer Q x := by
  induction cs generalizing before scope r ss with
  | nil =>
    rw [List.append_nil]
    exact hrest hs hreach hr h
  | cons c cs ih =>
    obtain ⟨v, mid, i, inner, body, s, hv, hinner, hbody, -, rfl⟩ := check_ok hs h
    obtain ⟨hmid, hc⟩ := (hj.condition scope c).run hr hv
    -- what is narrowed is in scope
    have hbound : ∀ name ∈ c.narrowed?, (scope.get? name).isSome = true := by
      intro name hname
      have hagree := (ensures_compile scope c.expr).post hv
      rw [Condition.expr, show c.narrowed? = some name from hname] at hagree
      obtain ⟨j, -, -, hj, -⟩ := List.map_eq_cons_iff.1 hagree
      obtain ⟨b, hb, -⟩ := Option.map_eq_some_iff.1 hj.symm
      rw [hb]
      rfl
    obtain ⟨hr', hsites⟩ := ih (hinner.named hs) (hreach.step hinner hbound) hmid hbody
    rw [List.append_assoc, List.singleton_append] at hsites
    exact ⟨hr', List.forall_mem_cons.2 ⟨⟨scope, hreach, hc⟩, hsites⟩⟩

mutual

private theorem judged_rule (hj : Judges functions Q) {maxDepth : Nat} {path : RulePath} : (rule : Rule) →
    {before : List Condition} → {scope : Scope} → {r r' : Registry} → {ss : List Statement} → scope.Named →
    Reaches outer before scope → r.functions = functions → Resolver.rule maxDepth scope path rule r = .ok (ss, r') →
    r'.functions = functions ∧ ∀ x ∈ rule.sites before, Judged outer Q x
  | .mk _ cs o, before, scope, r, r', ss, hs, hreach, hr, h => by
    rw [Resolver.rule, inRule_ok_iff] at h
    exact judged_checks hj (fun hs hreach hr h => judged_outcome hj o hs hreach hr h) hs hreach hr h

private theorem judged_outcome (hj : Judges functions Q) {maxDepth : Nat} {path : RulePath} : (o : Outcome) →
    {before : List Condition} → {scope : Scope} → {r r' : Registry} → {ss : List Statement} → scope.Named →
    Reaches outer before scope → r.functions = functions → outcome maxDepth scope path o r = .ok (ss, r') →
    r'.functions = functions ∧ ∀ x ∈ o.sites before, Judged outer Q x
  | .endpoint e, before, scope, r, r', ss, hs, hreach, hr, h => by
    obtain ⟨x, r₁, hx, h⟩ := bind_ok_iff.1 h
    obtain ⟨-, rfl⟩ := pure_ok_iff.1 h
    obtain ⟨hr', hexprs⟩ := (judged_endpoint hj e).run hr hx
    exact ⟨hr', List.forall_mem_map.2 fun y hy => ⟨scope, hreach, hexprs y hy⟩⟩
  | .error message, before, scope, r, r', ss, hs, hreach, hr, h => by
    obtain ⟨v, r₁, hv, h⟩ := bind_ok_iff.1 h
    obtain ⟨-, rfl⟩ := pure_ok_iff.1 h
    obtain ⟨hr', hmessage⟩ := (hj.string scope _ message).run hr hv
    exact ⟨hr', List.forall_mem_singleton.2 ⟨scope, hreach, hmessage⟩⟩
  | .tree rules, before, scope, r, r', ss, hs, hreach, hr, h => by
    rw [outcome] at h
    by_cases hd : maxDepth < path.length
    · rw [if_pos hd] at h
      exact absurd h not_fail_ok
    · rw [if_neg hd] at h
      exact judged_level hj rules hs hreach hr h

private theorem judged_level (hj : Judges functions Q) {maxDepth : Nat} {path : RulePath} : (rules : List Rule) →
    {i : Nat} → {isOpen : Bool} → {before : List Condition} → {scope : Scope} → {r r' : Registry} →
    {ss : List Statement} → scope.Named → Reaches outer before scope → r.functions = functions →
    levelFrom maxDepth scope path i isOpen rules r = .ok (ss, r') →
    r'.functions = functions ∧ ∀ x ∈ levelSites before rules, Judged outer Q x
  | [], i, isOpen, before, scope, r, r', ss, hs, hreach, hr, h => by
    obtain ⟨-, rfl⟩ := pure_ok_iff.1 h
    exact ⟨hr, fun x hx => absurd hx List.not_mem_nil⟩
  | rule :: rules, i, isOpen, before, scope, r, r', ss, hs, hreach, hr, h => by
    obtain ⟨us, r₁, hus, h⟩ := bind_ok_iff.1 h
    obtain ⟨vs, r₂, hvs, h⟩ := bind_ok_iff.1 h
    obtain ⟨-, rfl⟩ := pure_ok_iff.1 h
    obtain ⟨hr₁, hrule⟩ := judged_rule hj rule hs hreach hr hus
    obtain ⟨hr₂, hrules⟩ := judged_level hj rules hs hreach hr₁ hvs
    exact ⟨hr₂, List.forall_mem_append.2 ⟨hrule, hrules⟩⟩

end

end

/-- What the compiler establishes of expressions holds at all places of a ruleset that is compiled, in the scope that
the conditions lead to from the scope of the parameters. -/
theorem judged_of_mem_sites {registry : Registry} {Q : Scope → Expr → Prop} (hj : Judges registry.functions Q)
    {maxDepth : Nat} {ruleset : Ruleset} {c : CompiledRules} (h : compileRules registry maxDepth ruleset = .ok c)
    {x : Site} (hx : x ∈ ruleset.sites) :
    ∃ scope, Reaches (Scope.empty.bindParameters ruleset.parameters) x.conditions scope ∧ Q scope x.expr := by
  obtain ⟨outer, r', rfl, hs, -, -, hbody⟩ := compileRules_ok h
  have hr : registry.reset.functions = registry.functions := rfl
  exact (judged_level hj ruleset.rules hs .start hr hbody).2 x hx

/-! ### A ruleset of two levels -/

/-- A message with the first letters of the region, for requests that name one. -/
def prefixRules : Ruleset where
  version := "1.0"
  parameters := [⟨"Region", .string, false, none, none, none, none⟩]
  rules :=
    [.mk none [⟨⟨"isSet", [.ref "Region"]⟩, none⟩] (.tree
      [.mk none [⟨⟨"substring", [.ref "Region", .int 0, .int 2, .bool false]⟩, some "Prefix"⟩]
        (.error (.string [.text "in ", .hole (.ref "Prefix")]))])]

theorem isOk_compileRules_prefixRules : (compileRules .standard 64 prefixRules).isOk = true := by decide +kernel

/-- The message stands behind the conditions of both levels. -/
example : prefixRules.sites.map (·.conditions.length) = [0, 1, 2] := rfl

end Signpost.Resolver
