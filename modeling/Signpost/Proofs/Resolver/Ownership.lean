import Signpost.Proofs.Resolver.Forms

/-!
# Who owns the strings of a resolver

What the locals of emitted code hold follows from the code: those for parameters read the fields of the parameters, and
those for conditions are bound to values, of strings of their own to views (`Statement.stages`).  What they should hold
follows from the types in the scopes that the compiler goes through (`Scope.behind`).  `compileRules_owns` says that the
two are the same at each stage of trying the rules, of a string a view, and that what leaves the resolver borrows from
none of them: strings are of their own or constants.

This needs that references mean the locals they are emitted for (`Apart`), and that no local hides the state of a
function; where a name is in the way, a local of a string type may hold anything.
-/

namespace Signpost.Rules

/-- A stage of trying rules: the conditions that hold there, the outermost first, and what leaves the resolver. -/
structure Stage where
  conditions : List Condition
  result : Option Expr

/-- The stages of conditions that stand behind others. -/
def conditionStages (before : List Condition) : List Condition → List Stage
  | [] => []
  | c :: cs => ⟨before ++ [c], none⟩ :: conditionStages (before ++ [c]) cs

mutual

/-- The stages of a rule that stands behind conditions. -/
def Rule.stages (before : List Condition) : Rule → List Stage
  | .mk _ cs o => conditionStages before cs ++ o.stages (before ++ cs)

def Outcome.stages (before : List Condition) : Outcome → List Stage
  | .endpoint e => e.exprs.map fun x => ⟨before, some x⟩
  | .error message => [⟨before, some message⟩]
  | .tree rules => levelStages before rules

def levelStages (before : List Condition) : List Rule → List Stage
  | [] => []
  | r :: rs => r.stages before ++ levelStages before rs

end

/-- The stages of a ruleset. -/
def Ruleset.stages (r : Ruleset) : List Stage := ⟨[], none⟩ :: levelStages [] r.rules

end Signpost.Rules

namespace Signpost.Resolver

open Code (Ident)
open Rules (Expr Condition Rule Outcome EndpointTemplate Parameter Ruleset Stage conditionUses namesAfter
  conditionStages levelStages)

/-! ### Scopes -/

/-- What locals hold that are as the types in scope say. -/
def Scope.locals (s : Scope) : Forms := s.bindings.map fun x => (x.2.ident, x.2.ty.form?)

/-- The scope behind a condition, in which a name for its value has the type of the value, or of what is in it. -/
def Scope.behind (registry : Registry) (scope : Scope) (c : Condition) : Option Scope := do
  let v ← emitted registry (compile scope c.expr)
  match c.bound? with
  | none => return scope
  | some name =>
    let i ← Ident.ofName? name
    return scope.bind name ⟨i, v.ty.unwrapOption⟩

/-! ### Stages of the code -/

/-- What code computes to come to a stage, or at it. -/
inductive Computation where
  | start
  /-- What a condition looks at, if the code gives it a form. -/
  | tested (f : Option Form)
  /-- A string that leaves the resolver. -/
  | returned (v : Value)
  | property (d : Document)

/-- What a condition looks at has a form; what leaves the resolver borrows from no local. -/
def Computation.IsSound (forms : Forms) : Computation → Prop
  | .start => True
  | .tested f => f.isSome = true
  | .returned v => v.IsFree forms
  | .property d => d.IsFree forms

/-- A stage of the code, with the locals that are in scope there. -/
structure CodeStage where
  forms : Forms
  computation : Computation

/-- What is computed for an endpoint. -/
def Endpoint.computations (e : Endpoint) : List Computation :=
  .returned e.url :: (e.headers.map (.returned ·.2) ++ e.properties.map (.property ·.2))

/-- What a local is that a value is bound to: of a string of its own a view, which hides it. -/
def boundForm? (forms : Forms) (i : Ident) (v : Value) (isOwned : Bool) : Option Form :=
  if isOwned then (Value.asStr (.local i)).form? ((i, v.form? forms) :: forms) else v.form? forms

mutual

/-- The stages of a statement. -/
def Statement.stages (forms : Forms) : Statement → List CodeStage
  | .ifSome i v body =>
    let inside := (i, (v.form? forms).bind Form.inside?) :: forms
    ⟨inside, .tested (v.form? forms)⟩ :: Statement.stagesOf inside body
  | .ifTrue v body => ⟨forms, .tested (v.form? forms)⟩ :: Statement.stagesOf forms body
  | .ifBound i v body =>
    let inside := (i, v.form? forms) :: forms
    ⟨inside, .tested (v.form? forms)⟩ :: Statement.stagesOf inside body
  | .bind i v isOwned body =>
    let inside := (i, boundForm? forms i v isOwned) :: forms
    ⟨inside, .tested (v.form? forms)⟩ :: Statement.stagesOf inside body
  | .endpoint e => e.computations.map (CodeStage.mk forms)
  | .error v => [⟨forms, .returned v⟩]
  | .noMatch => []

def Statement.stagesOf (forms : Forms) : List Statement → List CodeStage
  | [] => []
  | s :: ss => s.stages forms ++ Statement.stagesOf forms ss

end

/-- What the field for a parameter holds. -/
def parameterForm (p : Parameter) : Form :=
  let value : Form := match p.type with
    | .string => .text
    | .boolean => .bool
    | .stringArray => .texts
  if p.isAlwaysSet then value else .option value

/-- What reading a field gives. -/
def ParameterView.form? : ParameterView → Form → Option Form
  | .string, .text => some .view
  | .array, .texts => some .slice
  | .optional, .option .text => some (.option .view)
  | .optional, .option .texts => some (.option .slice)
  | .copy, .bool => some .bool
  | .copy, .option .bool => some (.option .bool)
  | _, _ => none

/-- The locals for parameters, the last of which is the innermost. -/
def parameterForms (ps : List Parameter) (locals : List ParameterLocal) : Forms :=
  (List.zipWith (fun p l => (l.ident, l.view.form? (parameterForm p))) ps locals).reverse

/-- The stages of the function for a ruleset with these parameters. -/
def CompiledRules.stages (ps : List Parameter) (c : CompiledRules) : List CodeStage :=
  ⟨parameterForms ps c.locals, .start⟩ :: Statement.stagesOf (parameterForms ps c.locals) c.body

/-- At the stage of the code that is emitted for one of the rules, the locals are those of the scope there and hold what
the types in scope say, of a string a view. -/
def Holds (registry : Registry) (outer : Scope) (x : Stage) (y : CodeStage) : Prop :=
  ∃ scope, x.conditions.foldlM (Scope.behind registry) outer = some scope ∧ y.forms = scope.locals ∧
    (∀ b ∈ scope.bindings, b.2.ty.form?.isSome = true) ∧ y.computation.IsSound y.forms

/-- No reference in conditions means another local, and no local hides the state of a function. -/
structure ClearPath (names : List String) (cs : List Condition) : Prop where
  apart : ∀ u ∈ conditionUses names cs, Apart u
  visible : ∀ name ∈ namesAfter names cs,
    Ident.ofName? name ≠ some wildcard ∧ Ident.ofName? name ≠ some Library.partitionField

/-- The same for a stage: no reference in what leaves the resolver there means another local either. -/
structure ClearStage (names : List String) (x : Stage) : Prop where
  path : ClearPath names x.conditions
  apart : ∀ e ∈ x.result, ∀ name ∈ e.references, Apart ⟨namesAfter names x.conditions, name⟩

instance (names : List String) (cs : List Condition) : Decidable (ClearPath names cs) :=
  decidable_of_iff (_ ∧ _) ⟨fun h => ⟨h.1, h.2⟩, fun h => ⟨h.apart, h.visible⟩⟩

instance (names : List String) (x : Stage) : Decidable (ClearStage names x) :=
  decidable_of_iff (_ ∧ _) ⟨fun h => ⟨h.1, h.2⟩, fun h => ⟨h.path, h.apart⟩⟩

private theorem conditionUses_append (names : List String) (cs ds : List Condition) :
    conditionUses names (cs ++ ds) = conditionUses names cs ++ conditionUses (namesAfter names cs) ds := by
  induction cs generalizing names with
  | nil => rfl
  | cons c cs ih => rw [List.cons_append, conditionUses, conditionUses, ih, List.append_assoc]; rfl

private theorem ClearPath.init {names : List String} {cs : List Condition} {c : Condition}
    (h : ClearPath names (cs ++ [c])) : ClearPath names cs := by
  constructor
  · intro u hu
    refine h.apart u ?_
    rw [conditionUses_append]
    exact List.mem_append_left _ hu
  · intro name hname
    refine h.visible name ?_
    rw [namesAfter, List.foldl_append]
    exact List.mem_append_right _ hname

private theorem ClearPath.last {names : List String} {cs : List Condition} {c : Condition}
    (h : ClearPath names (cs ++ [c])) :
    (∀ name ∈ c.expr.references, Apart ⟨namesAfter names cs, name⟩) ∧ ∀ name ∈ c.bound?,
      Ident.ofName? name ≠ some wildcard ∧ Ident.ofName? name ≠ some Library.partitionField := by
  constructor
  · intro name hname
    refine h.apart _ ?_
    rw [conditionUses_append, conditionUses, ← Condition.references_expr]
    exact List.mem_append_right _ (List.mem_append_left _ (List.mem_map_of_mem hname))
  · intro name hname
    refine h.visible name ?_
    rw [namesAfter, List.foldl_append]
    exact List.mem_append_left _ (Option.mem_toList.2 hname)

private theorem lookup_locals {bs : List (String × Binding)} {name : String} {b : Binding}
    (hs : ∀ x ∈ bs, Ident.ofName? x.1 = some x.2.ident) (h : bs.lookup name = some b)
    (hapart : ∀ m ∈ (bs.map (·.1)).takeWhile (· ≠ name), Ident.ofName? m ≠ Ident.ofName? name) :
    (bs.map fun x => (x.2.ident, x.2.ty.form?)).lookup b.ident = some b.ty.form? := by
  have hname : Ident.ofName? name = some b.ident := by
    obtain ⟨us, vs, rfl, -⟩ := List.lookup_eq_some_iff.1 h
    exact hs (name, b) (by simp)
  induction bs with
  | nil => cases h
  | cons x bs ih =>
    obtain ⟨hx, hbs⟩ := List.forall_mem_cons.1 hs
    rw [List.lookup_cons] at h
    rw [List.map_cons, List.lookup_cons]
    by_cases hxname : x.1 = name
    · simp only [hxname, beq_self_eq_true, Option.some.injEq] at h
      simp [h]
    · rw [beq_eq_false_iff_ne.2 (Ne.symm hxname)] at h
      rw [List.map_cons, List.takeWhile_cons_of_pos (by simpa using hxname)] at hapart
      obtain ⟨hapartx, hapart⟩ := List.forall_mem_cons.1 hapart
      have hne : b.ident ≠ x.2.ident := by
        intro heq
        rw [hx, hname, heq] at hapartx
        exact hapartx rfl
      rw [beq_eq_false_iff_ne.2 hne]
      exact ih hbs h hapart

/-- A reference that means no other local shows what the type in scope says. -/
private theorem shows_of_apart {scope : Scope} (hs : scope.Named)
    (hknown : ∀ x ∈ scope.bindings, x.2.ty.form?.isSome = true) {name : String} (h : Apart ⟨scope.names, name⟩) :
    Shows scope.locals scope name := by
  intro b hb
  refine ⟨hknown _ (Scope.mem_of_get? hb), ?_⟩
  obtain ⟨hwild, hapart⟩ := h
  have hne : b.ident ≠ wildcard := fun heq => hwild (heq ▸ hs.get? hb)
  rw [Value.form?, if_neg hne, Scope.locals, lookup_locals hs hb hapart]
  rfl

/-! ### Conditions -/

/-- What is known behind conditions: the scope there, the names in it, and what the locals hold. -/
private structure Aligned (registry : Registry) (outer : Scope) (before : List Condition) (scope : Scope)
    (forms : Forms) : Prop where
  reached : before.foldlM (Scope.behind registry) outer = some scope
  named : scope.Named
  names : scope.names = namesAfter outer.names before
  locals : ClearPath outer.names before →
    forms = scope.locals ∧ ∀ x ∈ scope.bindings, x.2.ty.form?.isSome = true

variable {registry : Registry} {outer scope inner : Scope} {before : List Condition} {forms : Forms} {v : Compiled}
  {i : Option Ident} {body : List Statement}

private theorem Aligned.shows (h : Aligned registry outer before scope forms) (hclear : ClearPath outer.names before)
    {names : List String} (hapart : ∀ name ∈ names, Apart ⟨namesAfter outer.names before, name⟩) :
    ∀ name ∈ names, Shows forms scope name := by
  obtain ⟨hlocals, hknown⟩ := h.locals hclear
  intro name hname
  rw [hlocals]
  refine shows_of_apart h.named hknown ?_
  rw [h.names]
  exact hapart name hname

private theorem Aligned.faithful (h : Aligned registry outer before scope forms)
    (hclear : ClearPath outer.names before) : Faithful forms Registry.standard.functions := by
  refine faithful_standard fun hmem => ?_
  rw [(h.locals hclear).1, Scope.locals, List.map_map] at hmem
  obtain ⟨x, hx, hfield⟩ := List.mem_map.1 hmem
  have hname : x.1 ∈ namesAfter outer.names before := by
    rw [← h.names]
    exact List.mem_map_of_mem hx
  refine (hclear.visible _ hname).2 ?_
  rw [h.named x hx]
  exact congrArg some hfield

private theorem form_bound {i : Ident} (hv : v.Fits forms) (hi : i ≠ wildcard) :
    boundForm? forms i v.value v.isOwned = v.ty.form? := by
  rw [boundForm?]
  split
  · rename_i howned
    have hvalue := hv.form
    rw [howned, if_pos rfl] at hvalue
    rw [hv.owned howned]
    simp [Value.form?, hi, hvalue, Ty.form?]
  · rename_i hview
    exact hv.form_of_not (Bool.eq_false_iff.2 hview)

/-- A guard looks at its value, and its local holds what the type of the value says, or of what is in it. -/
private theorem stages_guard {s : Statement} (h : Statement.guard v i body = some s) (forms : Forms) :
    ∃ f inner, s.stages forms = ⟨inner, .tested f⟩ :: Statement.stagesOf inner body ∧
      (v.Fits forms → f.isSome = true ∧
        ((∀ j ∈ i, j ≠ wildcard) → inner = i.toList.map (·, v.ty.unwrapOption.form?) ++ forms)) := by
  unfold Statement.guard at h
  split at h
  all_goals cases h
  · rename_i t j hty
    refine ⟨_, _, rfl, fun hv => ?_⟩
    obtain ⟨f, hf, hvalue⟩ := hv.exists_of_option hty
    rw [hvalue, hty]
    exact ⟨rfl, fun _ => by simp [Ty.unwrapOption, Form.inside?, hf]⟩
  · rename_i t hty
    refine ⟨_, _, rfl, fun hv => ?_⟩
    obtain ⟨f, hf, hvalue⟩ := hv.exists_of_option hty
    refine ⟨?_, fun _ => rfl⟩
    rw [Value.form?, hvalue]
    rfl
  · rename_i j hty
    refine ⟨_, _, rfl, fun hv => ?_⟩
    have hvalue := hv.form_of_not (Bool.eq_false_iff.2 fun howned => by cases hty.symm.trans (hv.owned howned))
    rw [hvalue, hty]
    exact ⟨rfl, fun _ => rfl⟩
  · rename_i hty
    refine ⟨_, _, rfl, fun hv => ?_⟩
    have hvalue := hv.form_of_not (Bool.eq_false_iff.2 fun howned => by cases hty.symm.trans (hv.owned howned))
    rw [hvalue, hty]
    exact ⟨rfl, fun _ => rfl⟩
  · rename_i j hoption hbool
    have hunwrap : v.ty.unwrapOption = v.ty := by
      cases hty : v.ty with
      | option t => exact absurd hty (hoption t)
      | _ => rfl
    refine ⟨_, _, rfl, fun hv => ⟨?_, fun hwild => ?_⟩⟩
    · obtain ⟨f, hf⟩ := hv.exists_form
      rw [hf]
      rfl
    · rw [form_bound hv (hwild j rfl), hunwrap]
      rfl

private theorem behind_eq {c : Condition} (hv : emitted registry (compile scope c.expr) = some v)
    (hinner : Extends scope v.ty.unwrapOption c.bound? i inner) : scope.behind registry c = some inner := by
  rw [Scope.behind, hv]
  generalize c.bound? = name? at hinner
  cases hinner with
  | none => rfl
  | some hname => simp [hname]

private theorem Aligned.step {c : Condition} {inside : Forms} (h : Aligned registry outer before scope forms)
    (hv : emitted registry (compile scope c.expr) = some v)
    (hinner : Extends scope v.ty.unwrapOption c.bound? i inner)
    (hinside : ClearPath outer.names (before ++ [c]) → v.Fits forms ∧
      ((∀ j ∈ i, j ≠ wildcard) → inside = i.toList.map (·, v.ty.unwrapOption.form?) ++ forms)) :
    Aligned registry outer (before ++ [c]) inner inside := by
  refine ⟨?_, hinner.named h.named, ?_, fun hclear => ?_⟩
  · rw [List.foldlM_append, h.reached]
    show (Scope.behind registry scope c >>= pure) = _
    rw [behind_eq hv hinner]
    rfl
  · rw [hinner.names.1, h.names, namesAfter, namesAfter, List.foldl_append]
    rfl
  · obtain ⟨hlocals, hknown⟩ := h.locals hclear.init
    obtain ⟨hfits, hinside⟩ := hinside hclear
    have hvisible := hclear.last.2
    generalize c.bound? = name? at hinner hvisible
    cases hinner with
    | none => exact ⟨(hinside fun j hj => absurd hj (Option.not_mem_none j)).trans hlocals, hknown⟩
    | @some name j hname =>
      have hwild : j ≠ wildcard := fun heq => (hvisible name rfl).1 (heq ▸ hname)
      rw [hinside fun _ hj => Option.some.inj hj ▸ hwild, hlocals]
      exact ⟨rfl, List.forall_mem_cons.2 ⟨hfits.known_unwrap, hknown⟩⟩

/-- The locals at a stage of the code are as the types at the stage of the rules say, if no name is in the way. -/
private abbrev HoldsIfClear (registry : Registry) (outer : Scope) (x : Stage) (y : CodeStage) : Prop :=
  ClearStage outer.names x → Holds registry outer x y

private theorem holds_checks {rest : Rest} {stages : List Condition → List Stage} {cs : List Condition}
    (hfunctions : registry.functions = Registry.standard.functions)
    (hrest : ∀ {before inner forms r r' ss}, Aligned registry outer before inner forms →
      r.functions = registry.functions → rest inner r = .ok (ss, r') → r'.functions = registry.functions ∧
        List.Forall₂ (HoldsIfClear registry outer) (stages before) (Statement.stagesOf forms ss))
    {r r' : Registry} {ss : List Statement} (ha : Aligned registry outer before scope forms)
    (hr : r.functions = registry.functions) (h : checks rest cs scope r = .ok (ss, r')) :
    r'.functions = registry.functions ∧ List.Forall₂ (HoldsIfClear registry outer)
      (conditionStages before cs ++ stages (before ++ cs)) (Statement.stagesOf forms ss) := by
  induction cs generalizing before scope forms r ss with
  | nil =>
    rw [List.append_nil]
    exact hrest ha hr h
  | cons c cs ih =>
    obtain ⟨v, mid, i, inner, body, s, hv, hinner, hbody, hguard, rfl⟩ := check_ok ha.named h
    have hensures := ensures_compile scope c.expr
    obtain ⟨f, inside, hstages, hguarded⟩ := stages_guard hguard forms
    have hfits : ClearPath outer.names (before ++ [c]) → v.Fits forms := by
      intro hclear
      have hcompiled := fits_compile (ha.faithful hclear.init) c.expr (ha.shows hclear.init hclear.last.1)
      exact (hcompiled.run (hr.trans hfunctions) hv).2
    have hstep : Aligned registry outer (before ++ [c]) inner inside :=
      ha.step (emitted_eq hensures hv hr) hinner fun hclear => ⟨hfits hclear, (hguarded (hfits hclear)).2⟩
    obtain ⟨hr', hrec⟩ := ih hstep ((hensures.functions hv).trans hr) hbody
    refine ⟨hr', ?_⟩
    rw [List.append_assoc, List.singleton_append] at hrec
    rw [Statement.stagesOf, Statement.stagesOf, List.append_nil, hstages]
    refine .cons (fun hclear => ?_) hrec
    obtain ⟨hlocals, hknown⟩ := hstep.locals hclear.path
    exact ⟨inner, hstep.reached, hlocals, hknown, (hguarded (hfits hclear.path)).1⟩

/-! ### Rules -/

variable {functions : Table String Function}

/-- What is computed for an expression is sound if functions are, and the locals show what names in it should. -/
private abbrev SoundIfShown (functions : Table String Function) (forms : Forms) (scope : Scope) (e : Expr)
    (x : Computation) : Prop :=
  Faithful forms functions ∧ (∀ name ∈ e.references, Shows forms scope name) → x.IsSound forms

private theorem sound_string (forms : Forms) (scope : Scope) (place : Place) (e : Expr) :
    EnsuresFor functions (compileString scope place e) fun v => SoundIfShown functions forms scope e (.returned v) :=
  .of_imp (ensures_compileString scope place e) fun h => free_compileString h.1 place h.2

private theorem sound_documentFields (forms : Forms) (scope : Scope) (fs : List (String × Expr)) :
    EnsuresFor functions (documentFields scope fs) fun ds =>
      List.Forall₂ (SoundIfShown functions forms scope) (fs.map (·.2)) (ds.map (.property ·.2)) := by
  induction fs with
  | nil => exact .pure .nil
  | cons f fs ih =>
    obtain ⟨name, e⟩ := f
    have he : EnsuresFor functions (document scope e) fun d => SoundIfShown functions forms scope e (.property d) :=
      .of_imp (ensures_document scope e) fun h => free_document h.1 e h.2
    exact he.bind fun d hd => ih.bind fun ds hds => .pure (.cons hd hds)

private theorem sound_endpoint (forms : Forms) (scope : Scope) (e : EndpointTemplate) :
    EnsuresFor functions (endpoint scope e) fun x =>
      List.Forall₂ (SoundIfShown functions forms scope) e.exprs x.computations := by
  have hvalues (h : String × List Expr) : EnsuresFor functions (headerValues scope h.1 h.2) fun xs =>
      List.Forall₂ (SoundIfShown functions forms scope) h.2 (xs.map (.returned ·.2)) := by
    refine (EnsuresFor.mapM (fun e => ?_) h.2).mono fun xs hxs => List.forall₂_map_right_iff.2 hxs
    exact (sound_string forms scope _ e).bind fun v hv => .pure hv
  refine (sound_string forms scope _ e.url).bind fun url hurl => ?_
  refine (EnsuresFor.mapM hvalues e.headers).bind fun headers hheaders => ?_
  refine (sound_documentFields forms scope e.properties).bind fun properties hproperties => .pure ?_
  refine .cons hurl (List.rel_append ?_ hproperties)
  show List.Forall₂ _ _ (headers.flatten.map _)
  rw [List.map_flatten, List.flatMap_def]
  refine List.rel_flatten ?_
  rw [List.forall₂_map_left_iff, List.forall₂_map_right_iff]
  exact hheaders

private theorem stagesOf_append (forms : Forms) (ss ss' : List Statement) :
    Statement.stagesOf forms (ss ++ ss') = Statement.stagesOf forms ss ++ Statement.stagesOf forms ss' := by
  induction ss with
  | nil => rfl
  | cons s ss ih => rw [List.cons_append, Statement.stagesOf, Statement.stagesOf, ih, List.append_assoc]

/-- What holds of a computation behind conditions if the names in its expression show what they should. -/
private theorem Aligned.holds {e : Expr} {x : Computation} (ha : Aligned registry outer before scope forms)
    (h : SoundIfShown Registry.standard.functions forms scope e x) :
    HoldsIfClear registry outer ⟨before, some e⟩ ⟨forms, x⟩ := by
  intro hclear
  obtain ⟨hlocals, hknown⟩ := ha.locals hclear.path
  have hshows := ha.shows hclear.path (hclear.apart e rfl)
  exact ⟨scope, ha.reached, hlocals, hknown, h ⟨ha.faithful hclear.path, hshows⟩⟩

mutual

private theorem holds_rule (hfunctions : registry.functions = Registry.standard.functions) {maxDepth : Nat}
    {path : RulePath} : (rule : Rule) → {before : List Condition} → {scope : Scope} → {forms : Forms} →
    {r r' : Registry} → {ss : List Statement} → Aligned registry outer before scope forms →
    r.functions = registry.functions → Resolver.rule maxDepth scope path rule r = .ok (ss, r') →
    r'.functions = registry.functions ∧
      List.Forall₂ (HoldsIfClear registry outer) (rule.stages before) (Statement.stagesOf forms ss)
  | .mk _ cs o, before, scope, forms, r, r', ss, ha, hr, h => by
    rw [Resolver.rule, inRule_ok_iff] at h
    exact holds_checks hfunctions (fun ha hr h => holds_outcome hfunctions o ha hr h) ha hr h

private theorem holds_outcome (hfunctions : registry.functions = Registry.standard.functions) {maxDepth : Nat}
    {path : RulePath} : (o : Outcome) → {before : List Condition} → {scope : Scope} → {forms : Forms} →
    {r r' : Registry} → {ss : List Statement} → Aligned registry outer before scope forms →
    r.functions = registry.functions → outcome maxDepth scope path o r = .ok (ss, r') →
    r'.functions = registry.functions ∧
      List.Forall₂ (HoldsIfClear registry outer) (o.stages before) (Statement.stagesOf forms ss)
  | .endpoint e, before, scope, forms, r, r', ss, ha, hr, h => by
    obtain ⟨x, r₁, hx, h⟩ := bind_ok_iff.1 h
    obtain ⟨rfl, rfl⟩ := pure_ok_iff.1 h
    refine ⟨((ensures_endpoint scope e).functions hx).trans hr, ?_⟩
    have hsound := ((sound_endpoint forms scope e).run (hr.trans hfunctions) hx).2
    rw [Statement.stagesOf, Statement.stagesOf, List.append_nil, Outcome.stages, Statement.stages,
      List.forall₂_map_left_iff, List.forall₂_map_right_iff]
    exact hsound.imp fun _ _ h => ha.holds h
  | .error message, before, scope, forms, r, r', ss, ha, hr, h => by
    obtain ⟨v, r₁, hv, h⟩ := bind_ok_iff.1 h
    obtain ⟨rfl, rfl⟩ := pure_ok_iff.1 h
    refine ⟨((ensures_compileString scope _ message).functions hv).trans hr, .cons (ha.holds ?_) .nil⟩
    exact ((sound_string forms scope _ message).run (hr.trans hfunctions) hv).2
  | .tree rules, before, scope, forms, r, r', ss, ha, hr, h => by
    rw [outcome] at h
    by_cases hd : maxDepth < path.length
    · rw [if_pos hd] at h
      exact absurd h not_fail_ok
    · rw [if_neg hd] at h
      exact holds_level hfunctions rules ha hr h

private theorem holds_level (hfunctions : registry.functions = Registry.standard.functions) {maxDepth : Nat}
    {path : RulePath} : (rules : List Rule) → {i : Nat} → {isOpen : Bool} → {before : List Condition} →
    {scope : Scope} → {forms : Forms} → {r r' : Registry} → {ss : List Statement} →
    Aligned registry outer before scope forms → r.functions = registry.functions →
    levelFrom maxDepth scope path i isOpen rules r = .ok (ss, r') → r'.functions = registry.functions ∧
      List.Forall₂ (HoldsIfClear registry outer) (levelStages before rules) (Statement.stagesOf forms ss)
  | [], i, isOpen, before, scope, forms, r, r', ss, ha, hr, h => by
    obtain ⟨rfl, rfl⟩ := pure_ok_iff.1 h
    refine ⟨hr, ?_⟩
    cases isOpen <;> exact .nil
  | rule :: rules, i, isOpen, before, scope, forms, r, r', ss, ha, hr, h => by
    obtain ⟨us, r₁, hus, h⟩ := bind_ok_iff.1 h
    obtain ⟨vs, r₂, hvs, h⟩ := bind_ok_iff.1 h
    obtain ⟨rfl, rfl⟩ := pure_ok_iff.1 h
    obtain ⟨hr₁, hrule⟩ := holds_rule hfunctions rule ha hr hus
    obtain ⟨hr₂, hrules⟩ := holds_level hfunctions rules ha hr₁ hvs
    refine ⟨hr₂, ?_⟩
    rw [levelStages, stagesOf_append]
    exact List.rel_append hrule hrules

end

/-! ### Rulesets -/

private theorem form_parameter (p : Parameter) :
    (ParameterView.of p).form? (parameterForm p) = (parameterType p).form? ∧
      (parameterType p).form?.isSome = true := by
  cases ht : p.type <;> cases hset : p.isAlwaysSet <;>
    simp [ParameterView.of, parameterForm, parameterType, ht, hset, ParameterView.form?, Ty.form?]

private theorem locals_parameterLocals {ps : List Parameter} {locals : List ParameterLocal} {r r' : Registry}
    (h : parameterLocals scope ps r = .ok ((locals, inner), r')) :
    inner.locals = parameterForms ps locals ++ scope.locals ∧
      ((∀ x ∈ scope.bindings, x.2.ty.form?.isSome = true) → ∀ x ∈ inner.bindings, x.2.ty.form?.isSome = true) := by
  induction ps generalizing scope locals r r' with
  | nil =>
    obtain ⟨hx, -⟩ := pure_ok_iff.1 h
    cases hx
    exact ⟨rfl, id⟩
  | cons p ps ih =>
    obtain ⟨i, r₁, hi, h⟩ := bind_ok_iff.1 h
    obtain ⟨⟨ls, s⟩, r₂, hps, h⟩ := bind_ok_iff.1 h
    obtain ⟨hx, -⟩ := pure_ok_iff.1 h
    cases hx
    obtain ⟨hform, hknown⟩ := form_parameter p
    obtain ⟨hlocals, hall⟩ := ih hps
    refine ⟨?_, fun hscope => hall (List.forall_mem_cons.2 ⟨hknown, hscope⟩)⟩
    rw [hlocals, parameterForms, parameterForms, List.zipWith_cons_cons, List.reverse_cons, List.append_assoc, hform]
    rfl

/-- A string that is compiled to leave the resolver is flagged as one of its own or is a plain constant, and what is
compiled to be looked at is never flagged; flags are right where the locals for the names in the expression hold what
they should.  In a compiled ruleset they do: at each stage that no name is in the way of, the locals are those of the
scope there and hold what the types in scope say, of a string a view, and what leaves the resolver there borrows from
none of them. -/
theorem compileRules_owns (scope : Scope) (e : Expr) (r r' registry : Registry) (maxDepth : Nat) (ruleset : Ruleset) :
    (∀ {c : Compiled}, compileOwned scope e r = .ok (c, r') → c.ty = .string →
      (c.isOwned = true ∨ ∃ t s, e = .string t ∧ Rules.Template.plainText? t = some s ∧ c.value = .string s) ∧
        ∀ forms, Faithful forms r.functions → (∀ name ∈ e.references, Shows forms scope name) →
          c.value.IsFree forms) ∧
    (∀ {c : Compiled}, compile scope e r = .ok (c, r') →
      c.view.isOwned = false ∧
        ∀ forms, Faithful forms r.functions → (∀ name ∈ e.references, Shows forms scope name) →
          c.view.value.form? forms = c.ty.form?) ∧
    ∀ {c : CompiledRules},
      registry.functions = Registry.standard.functions → compileRules registry maxDepth ruleset = .ok c →
        List.Forall₂ (fun x y => ClearStage (ruleset.parameters.map (·.name)).reverse x →
          Holds registry (Scope.empty.bindParameters ruleset.parameters) x y)
            ruleset.stages (c.stages ruleset.parameters) := by
  refine ⟨?_, ?_, ?_⟩
  · intro c h hty
    refine ⟨(owned_of_compileOwned scope e).post h hty, fun forms hfunctions hshows => ?_⟩
    exact ((fits_compileOwned hfunctions hshows).run rfl h).2.2 hty
  · intro c h
    refine ⟨c.isOwned_view, fun forms hfunctions hshows => ?_⟩
    rw [((fits_compile hfunctions e hshows).run rfl h).2.form_view, c.ty_view]
  · intro c hfunctions h
    obtain ⟨scope, r₁, r₂, hps, hbody⟩ := exists_of_compileRules h
    obtain ⟨hlocals, hknown⟩ := locals_parameterLocals hps
    obtain ⟨rfl, rfl, hnamed, hnames, -⟩ := parameterLocals_ok (by simp [Scope.Named, Scope.empty]) hps
    have hnames : (Scope.empty.bindParameters ruleset.parameters).names =
        (ruleset.parameters.map (·.name)).reverse := by
      simpa [Scope.names, Scope.empty] using hnames
    have hstart : Aligned registry (Scope.empty.bindParameters ruleset.parameters) []
        (Scope.empty.bindParameters ruleset.parameters) (parameterForms ruleset.parameters c.locals) := by
      refine ⟨rfl, hnamed, rfl, fun _ => ⟨?_, hknown fun _ hx => absurd hx List.not_mem_nil⟩⟩
      rw [hlocals]
      exact (List.append_nil _).symm
    have hreset : registry.reset.functions = registry.functions := rfl
    have hall := (holds_level hfunctions ruleset.rules hstart hreset hbody).2
    rw [← hnames]
    refine .cons (fun hclear => ?_) hall
    obtain ⟨hlocals, hknown⟩ := hstart.locals hclear.path
    exact ⟨_, hstart.reached, hlocals, hknown, trivial⟩

/-- A scope in which the first letters of a region are known. -/
def prefixScope : Scope := Scope.empty.bind "Prefix" ⟨⟨"prefix", false⟩, .string⟩

theorem compileRules_owns_prefixRules :
    (∃ c, compileOwned prefixScope (.ref "Prefix") .standard = .ok (c, .standard) ∧ c.ty = .string ∧
      c.value.IsFree prefixScope.locals) ∧
    (∃ c, compile prefixScope (.ref "Prefix") .standard = .ok (c, .standard) ∧
      c.view.value.form? prefixScope.locals = c.ty.form?) ∧
    ∃ c, compileRules .standard 64 prefixRules = .ok c ∧
      List.Forall₂ (Holds .standard (Scope.empty.bindParameters prefixRules.parameters)) prefixRules.stages
        (c.stages prefixRules.parameters) := by
  have hfaithful : Faithful prefixScope.locals Registry.standard.functions := faithful_standard (by decide)
  have hshows : ∀ name ∈ (Expr.ref "Prefix").references, Shows prefixScope.locals prefixScope name := by
    intro name hname b hb
    obtain rfl := List.mem_singleton.1 hname
    obtain rfl := Option.some.inj hb
    exact ⟨rfl, by decide⟩
  obtain ⟨howned, hborrowed, hrules⟩ :=
    compileRules_owns prefixScope (.ref "Prefix") .standard .standard .standard 64 prefixRules
  refine ⟨⟨_, rfl, rfl, ?_⟩, ⟨_, rfl, ?_⟩, ?_⟩
  · exact (howned rfl rfl).2 _ hfaithful hshows
  · exact (hborrowed rfl).2 _ hfaithful hshows
  · obtain ⟨c, hc⟩ := exists_of_isOk isOk_compileRules_prefixRules
    refine ⟨c, hc, ?_⟩
    have hclear : ∀ x ∈ prefixRules.stages, ClearStage ["Region"] x := by decide +kernel
    exact ((List.forall₂_and_left _ _).2 ⟨hclear, hrules rfl hc⟩).imp fun x y h => h.2 h.1

/-- The name `host` hides the parameter `Host`, which is asked for behind it. -/
def hidingRules : Ruleset where
  version := "1.0"
  parameters := [⟨"Host", .string, true, none, none, none, none⟩]
  rules :=
    [.mk none
      [⟨⟨"isValidHostLabel", [.ref "Host", .bool false]⟩, some "host"⟩,
        ⟨⟨"coalesce", [.ref "Host", .string [.text "x"]]⟩, some "label"⟩]
      (.error (.string [.hole (.ref "label")]))]

/-- So `label`, which is a string for the rules, is a truth value in the code. -/
example : (compileRules .standard 64 hidingRules).toOption.map (fun c =>
    (c.stages hidingRules.parameters).map (·.forms.map (·.2))) =
      some [[some .view], [some .bool, some .view], [some .bool, some .bool, some .view],
        [some .bool, some .bool, some .view]] := by
  decide +kernel

end Signpost.Resolver
