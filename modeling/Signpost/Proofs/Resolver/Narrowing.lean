import Signpost.Proofs.Resolver.Sites

/-!
# Parameters that may be absent

A parameter that is neither required nor has a default value is optional, and stays so until a condition of the form
`isSet(name)` narrows it.  In a ruleset that is compiled with the standard functions, such a parameter is used only
behind a condition of this form, except as an argument of `isSet` or `coalesce` itself (`compileRules_narrowed`).

The type of a name in scope says whether it is optional, and every place at which a value is used rejects optional
types: templates, comparisons, arguments of functions, paths, strings that leave the resolver and documents.
-/

namespace Signpost.Rules

/-- Whether the expression is a reference. -/
def Expr.isRef : Expr → Bool
  | .ref _ => true
  | _ => false

/-- Whether the function of this name takes optional values. -/
def takesOptional (name : String) : Bool := name = "isSet" || name = "coalesce"

mutual

/-- The names that the expression refers to, except for direct arguments of functions that take optional values. -/
def Expr.exposed : Expr → List String
  | .string t => exposedParts t
  | .bool _ | .int _ => []
  | .array es => exposedOf es
  | .record fs => exposedFields fs
  | .ref name => [name]
  | .call name args => if takesOptional name then exposedInside args else exposedOf args

def Expr.exposedOf : List Expr → List String
  | [] => []
  | e :: es => e.exposed ++ exposedOf es

/-- The same for expressions that may be references to what is optional. -/
def Expr.exposedInside : List Expr → List String
  | [] => []
  | e :: es => (if e.isRef then [] else e.exposed) ++ exposedInside es

def Expr.exposedFields : List (String × Expr) → List String
  | [] => []
  | (_, e) :: fs => e.exposed ++ exposedFields fs

def Expr.exposedParts : List Part → List String
  | [] => []
  | .text _ :: ps => exposedParts ps
  | .hole e :: ps => e.exposed ++ exposedParts ps

end

/-- A template without holes refers to nothing. -/
theorem Template.exposedParts_eq_nil {t : Template} {s : String} (h : t.plainText? = some s) :
    Expr.exposedParts t = [] := by
  induction t generalizing s with
  | nil => rfl
  | cons p ps ih =>
    cases p with
    | text s' =>
      obtain ⟨s'', h', -⟩ := Option.map_eq_some_iff.1 h
      rw [Expr.exposedParts]
      exact ih h'
    | hole e => cases h

/-- What gives a name its value. -/
inductive Binder where
  | parameter (p : Parameter)
  | condition (c : Condition)

/-- What gives a name its value behind these conditions: the last of them with this name, or else a parameter. -/
def Ruleset.binder? (r : Ruleset) (conditions : List Condition) (name : String) : Option Binder :=
  ((conditions.reverse.find? (·.assign = some name)).map .condition).or
    ((r.parameters.reverse.find? (·.name = name)).map .parameter)

/-- The condition that a name is set. -/
def Condition.narrowing (name : String) : Condition := ⟨⟨"isSet", [.ref name]⟩, none⟩

end Signpost.Rules

namespace Signpost.Resolver

open Rules (Expr Part Template Call Condition Parameter Ruleset Site)

/-! ### Types of values -/

private theorem ensures_displayed_ty (e : Expr) (c : Compiled) :
    Ensures (displayed e c) fun _ => c.ty.isOption = false :=
  .ite (fun _ => .fail _) fun h => .ite (fun _ => .fail _) fun _ => .pure (by simpa using h)

private theorem ensures_toDocument_ty (e : Expr) (c : Compiled) :
    Ensures (c.toDocument e) fun _ => c.ty.isOption = false := by
  unfold Compiled.toDocument
  split
  · rename_i h
    exact .pure (by rw [h]; rfl)
  · rename_i h
    exact .pure (by rw [h]; rfl)
  · rename_i h
    exact .pure (by rw [h]; rfl)
  · rename_i h
    exact .pure (by rw [h]; rfl)
  · exact .fail _
  · exact .fail _

/-! ### Paths -/

/-- What a path reads first is an attribute of a record or an element of an array. -/
private theorem isOption_of_reads {p : AttributePath} {c c' : Compiled} (hp : p.WellFormed) (h : p.Reads c c') :
    c.ty.isOption = false := by
  obtain ⟨names, isApart, element⟩ := p
  obtain ⟨accessors, ty, hleads, hc'⟩ := h
  generalize hty : c.ty = found at hleads
  cases hleads with
  | read => rfl
  | here =>
    obtain ⟨e, rfl⟩ := Option.ne_none_iff_exists'.1 (hp.some_part rfl)
    rw [hc'.1]
    rfl

private theorem ensures_getAttr_ty (call : Call) (path : List Char) (c : Compiled) :
    Ensures (getAttr call path c) fun _ => c.ty.isOption = false :=
  (ensures_getAttr call path c).mono fun _ ⟨_, hp, _, hreads⟩ => isOption_of_reads hp hreads

/-! ### Built-in functions -/

private theorem ensures_equality_ty (call : Call) {want : Ty} (hwant : want.isOption = false) (a b : Compiled) :
    Ensures (equality call want a b) fun _ => a.ty.isOption = false ∧ b.ty.isOption = false := by
  refine (ensures_expect _ _ a).bind fun _ ha => (ensures_expect _ _ b).bind fun _ hb => .pure ?_
  rw [ha, hb]
  exact ⟨hwant, hwant⟩

/-- Only `isSet` and `coalesce` take optional values. -/
private theorem ensures_apply_ty {f : Intrinsic} {name : String} (hname : Intrinsic.ofName? name = some f)
    (hoptional : Rules.takesOptional name = false) (args : List Expr) (cs : List Compiled) :
    Ensures (f.apply ⟨name, args⟩ cs) fun _ => ∀ c ∈ cs, c.ty.isOption = false := by
  have hne : f ≠ .isSet ∧ f ≠ .coalesce := by
    unfold Intrinsic.ofName? at hname
    split at hname <;> cases hname <;> first | exact absurd hoptional (by decide) | decide
  unfold Intrinsic.apply
  split
  · exact absurd rfl hne.1
  · refine (ensures_expect _ _ _).bind fun _ h => .pure (List.forall_mem_singleton.2 ?_)
    rw [← Compiled.ty_view, h]
    rfl
  · refine (ensures_equality_ty _ rfl _ _).mono fun _ h => ?_
    simpa [Compiled.ty_view] using h
  · refine (ensures_equality_ty _ rfl _ _).mono fun _ h => ?_
    simpa [Compiled.ty_view] using h
  · exact absurd rfl hne.2
  · exact .fail _

/-! ### Expressions -/

/-- In the scope the names are not those of optional values. -/
def Settled (scope : Scope) (names : List String) : Prop :=
  ∀ name ∈ names, ∀ b, scope.get? name = some b → b.ty.isOption = false

private theorem Settled.append {scope : Scope} {names names' : List String} (h : Settled scope names)
    (h' : Settled scope names') : Settled scope (names ++ names') :=
  List.forall_mem_append.2 ⟨h, h'⟩

private theorem Settled.nil {scope : Scope} : Settled scope [] := fun _ h => absurd h List.not_mem_nil

/-- A value is optional only if its expression is a reference to what is. -/
private abbrev SettledBy (scope : Scope) (e : Expr) (c : Compiled) : Prop :=
  e.isRef = false ∨ c.ty.isOption = false → Settled scope e.exposed

variable {functions : Table String Function} {scope : Scope}

private theorem settled_reference (scope : Scope) (name : String) :
    Ensures (reference scope name) fun c => SettledBy scope (.ref name) c := by
  unfold reference
  cases h : scope.get? name with
  | none => exact .fail _
  | some b =>
    refine .pure fun hty name' hname' b' hb' => ?_
    obtain rfl := List.mem_singleton.1 hname'
    rw [h] at hb'
    obtain rfl := Option.some.inj hb'
    exact hty.resolve_left fun href => nomatch href

private theorem settled_exposedOf {es : List Expr} {cs : List Compiled} (h : List.Forall₂ (SettledBy scope) es cs)
    (hcs : ∀ c ∈ cs, c.ty.isOption = false) : Settled scope (Expr.exposedOf es) := by
  induction h with
  | nil => exact .nil
  | cons h _ ih =>
    obtain ⟨hc, hcs⟩ := List.forall_mem_cons.1 hcs
    exact (h (.inr hc)).append (ih hcs)

private theorem settled_exposedInside {es : List Expr} {cs : List Compiled}
    (h : List.Forall₂ (SettledBy scope) es cs) : Settled scope (Expr.exposedInside es) := by
  induction h with
  | nil => exact .nil
  | @cons e c es cs h _ ih =>
    refine Settled.append ?_ ih
    cases href : e.isRef with
    | true => exact .nil
    | false => exact h (.inl href)

/-- No registered function takes optional values. -/
def Strict (functions : Table String Function) : Prop :=
  ∀ name f, functions.get? name = some f → ∀ ty ∈ f.parameters, ty.isOption = false

mutual

private theorem settled_compile (hfs : Strict functions) (scope : Scope) : (e : Expr) →
    EnsuresFor functions (compile scope e) (SettledBy scope e)
  | .bool _ => .pure fun _ => .nil
  | .int _ => .pure fun _ => .nil
  | .array _ => .fail _
  | .record _ => .fail _
  | .ref name => .of_ensures (settled_reference scope name)
  | .string t => by
    rw [compile]
    cases h : Template.plainText? t with
    | some s =>
      refine .pure fun _ => ?_
      rw [Expr.exposed, Template.exposedParts_eq_nil h]
      exact .nil
    | none => exact (settled_compileParts hfs scope t).bind fun _ ht => .pure fun _ => ht
  | .call name args => by
    rw [compile.eq_def]
    dsimp only
    split
    · rename_i hname
      obtain rfl : name = "getAttr" := by
        unfold Intrinsic.ofName? at hname
        split at hname <;> first | rfl | cases hname
      split
      · rename_i target path
        split
        · exact .fail _
        · rename_i s hs
          refine (settled_compile hfs scope target).bind fun c hc => .of_ensures ((ensures_getAttr_ty _ _ _).mono ?_)
          intro _ hty _
          rw [Compiled.ty_view] at hty
          show Settled scope (target.exposed ++ (Expr.exposedParts path ++ []))
          rw [Template.exposedParts_eq_nil hs]
          exact (hc (.inr hty)).append .nil
      · exact .fail _
    · rename_i f _ hname
      refine (settled_compileAll hfs scope args).bind fun cs hcs => .of_ensures ?_
      cases hoptional : Rules.takesOptional name with
      | true =>
        refine (keeps_apply f _ cs).mono fun _ _ _ => ?_
        rw [Expr.exposed, if_pos hoptional]
        exact settled_exposedInside hcs
      | false =>
        refine (ensures_apply_ty hname hoptional args cs).mono fun _ hty _ => ?_
        rw [Expr.exposed, if_neg (by rw [hoptional]; decide)]
        exact settled_exposedOf hcs hty
    · rename_i hname
      have hoptional : Rules.takesOptional name = false := by
        by_contra h
        simp only [Rules.takesOptional, Bool.or_eq_true, decide_eq_true_eq, Bool.not_eq_false] at h
        rcases h with rfl | rfl <;> cases hname
      refine (ensures_function_registered name).bind fun f hf => .ite (fun _ => .fail _) fun hlen => ?_
      have hlen : f.parameters.length = args.length := by simpa using hlen
      refine (settled_compileArguments hfs scope _ 1 f.parameters (hfs name f hf) args hlen).bind fun _ h => .pure ?_
      rw [SettledBy, Expr.exposed, if_neg (by rw [hoptional]; decide)]
      exact fun _ => h

private theorem settled_compileAll (hfs : Strict functions) (scope : Scope) : (es : List Expr) →
    EnsuresFor functions (compileAll scope es) fun cs => List.Forall₂ (SettledBy scope) es cs
  | [] => .pure .nil
  | e :: es => (settled_compile hfs scope e).bind fun _ he =>
    (settled_compileAll hfs scope es).bind fun _ hes => .pure (.cons he hes)

private theorem settled_compileArguments (hfs : Strict functions) (scope : Scope) (call : Call) (n : Nat)
    (wants : List Ty) (hwants : ∀ ty ∈ wants, ty.isOption = false) : (es : List Expr) → wants.length = es.length →
    EnsuresFor functions (compileArguments scope call n wants es) fun _ => Settled scope (Expr.exposedOf es)
  | [], _ => .pure .nil
  | e :: es, hlen => by
    cases wants with
    | nil => cases hlen
    | cons want wants =>
      obtain ⟨hwant, hwants⟩ := List.forall_mem_cons.1 hwants
      refine (settled_compile hfs scope e).bind fun c he => ?_
      refine (EnsuresFor.of_ensures (ensures_expect _ _ _)).bind fun _ hty => ?_
      have hrest := settled_compileArguments hfs scope call (n + 1) wants hwants es (Nat.succ.inj hlen)
      refine hrest.bind fun _ hes => .pure ?_
      rw [← hty, Compiled.ty_view] at hwant
      exact (he (.inr hwant)).append hes

private theorem settled_compileParts (hfs : Strict functions) (scope : Scope) : (ps : List Part) →
    EnsuresFor functions (compileParts scope ps) fun _ => Settled scope (Expr.exposedParts ps)
  | [] => .pure .nil
  | .text _ :: ps => (settled_compileParts hfs scope ps).bind fun _ hps => .pure hps
  | .hole e :: ps => (settled_compile hfs scope e).bind fun c he =>
    (EnsuresFor.of_ensures (ensures_displayed_ty e c)).bind fun _ hty =>
      (settled_compileParts hfs scope ps).bind fun _ hps => .pure ((he (.inr hty)).append hps)

end

private theorem settled_compileOwned (hfs : Strict functions) (scope : Scope) (e : Expr) :
    EnsuresFor functions (compileOwned scope e) (SettledBy scope e) := by
  refine (settled_compile hfs scope e).bind fun c he => .pure ?_
  split
  · exact he
  · rwa [SettledBy, Compiled.ty_own]

mutual

private theorem settled_document (hfs : Strict functions) (scope : Scope) : (e : Expr) →
    EnsuresFor functions (document scope e) fun _ => Settled scope e.exposed
  | .int _ => .pure .nil
  | .array items => (settled_documents hfs scope items).bind fun _ h => .pure h
  | .record fields => (settled_documentFields hfs scope fields).bind fun _ h => .pure h
  | .string t => settled_computed hfs scope (.string t)
  | .bool b => settled_computed hfs scope (.bool b)
  | .ref name => settled_computed hfs scope (.ref name)
  | .call name args => settled_computed hfs scope (.call name args)
where
  settled_computed (hfs : Strict functions) (scope : Scope) (e : Expr) :
      EnsuresFor functions (do (← compileOwned scope e).toDocument e) fun _ => Settled scope e.exposed :=
    (settled_compileOwned hfs scope e).bind fun c he =>
      .of_ensures ((ensures_toDocument_ty e c).mono fun _ hty => he (.inr hty))

private theorem settled_documents (hfs : Strict functions) (scope : Scope) : (es : List Expr) →
    EnsuresFor functions (documents scope es) fun _ => Settled scope (Expr.exposedOf es)
  | [] => .pure .nil
  | e :: es => (settled_document hfs scope e).bind fun _ he =>
    (settled_documents hfs scope es).bind fun _ hes => .pure (he.append hes)

private theorem settled_documentFields (hfs : Strict functions) (scope : Scope) : (fs : List (String × Expr)) →
    EnsuresFor functions (documentFields scope fs) fun _ => Settled scope (Expr.exposedFields fs)
  | [] => .pure .nil
  | (_, e) :: fs => (settled_document hfs scope e).bind fun _ he =>
    (settled_documentFields hfs scope fs).bind fun _ hrest => .pure (he.append hrest)

end

private theorem judges_settled (hfs : Strict functions) :
    Judges functions fun scope e => Settled scope e.exposed := by
  refine ⟨fun scope c => ?_, fun scope place e => ?_, settled_document hfs⟩
  · cases hn : c.narrowed? with
    | none =>
      rw [Condition.expr, hn]
      exact (settled_compile hfs scope c.call.toExpr).mono fun _ h => h (.inl rfl)
    | some name =>
      -- the name is an argument of the condition itself
      obtain ⟨hname, -, hargs⟩ := Condition.narrowed?_eq_some_iff.1 hn
      rw [Condition.expr, hn, Call.toExpr, hname, hargs]
      exact .of_ensures ((ensures_reference scope name).mono fun _ _ => .nil)
  · refine (settled_compileOwned hfs scope e).bind fun c he => ?_
    refine (EnsuresFor.of_ensures (ensures_expect _ _ c)).bind fun _ hty => .pure (he (.inr ?_))
    rw [hty]
    rfl

/-! ### Rulesets -/

/-- Behind conditions none of which narrows it, a parameter that no condition hides has the type that it starts with. -/
private theorem Reaches.ty_of_parameter {ruleset : Ruleset} {cs : List Condition} {scope : Scope}
    (h : Reaches (Scope.empty.bindParameters ruleset.parameters) cs scope) {name : String} {p : Parameter}
    (hp : ruleset.binder? cs name = some (.parameter p)) (hnarrow : Condition.narrowing name ∉ cs) :
    (scope.get? name).map (·.ty) = some (parameterType p) := by
  have hbinder := Option.or_eq_some_iff.1 hp
  have hparameter : (ruleset.parameters.reverse.find? (·.name = name)) = some p ∧
      cs.reverse.find? (·.assign = some name) = none := by
    rcases hbinder with hc | ⟨hc, hparam⟩
    · obtain ⟨c, -, hc⟩ := Option.map_eq_some_iff.1 hc
      cases hc
    · obtain ⟨q, hq, hqp⟩ := Option.map_eq_some_iff.1 hparam
      cases hqp
      exact ⟨hq, Option.map_eq_none_iff.1 hc⟩
  have hne : ∀ c ∈ cs, c.bound? ≠ some name := by
    intro c hc hbound
    rcases Option.or_eq_some_iff.1 hbound with hn | ⟨-, hassign⟩
    · obtain ⟨hname, hassign, hargs⟩ := Condition.narrowed?_eq_some_iff.1 hn
      refine hnarrow ?_
      obtain ⟨⟨fn, args⟩, assign⟩ := c
      cases hname
      cases hassign
      cases hargs
      exact hc
    · have hnone := List.find?_eq_none.1 hparameter.2 c (List.mem_reverse.2 hc)
      exact hnone (by simpa using hassign)
  rw [h.get?_of_forall_ne hne, Scope.get?_bindParameters, hparameter.1]
  rfl

private theorem strict_standard : Strict Registry.standard.functions := by
  have hall : ∀ x ∈ Registry.standard.functions, ∀ ty ∈ x.2.parameters, ty.isOption = false := by decide
  exact fun name f hf => hall (name, f) (Table.mem_of_get? hf)

/-- In a ruleset that is compiled with the standard functions, a parameter that may be absent is used only behind a
condition that it is set, unless as an argument of `isSet` or `coalesce`. -/
theorem compileRules_narrowed {maxDepth : Nat} {ruleset : Ruleset} {c : CompiledRules}
    (h : compileRules .standard maxDepth ruleset = .ok c) :
    ∀ x ∈ ruleset.sites, ∀ name ∈ x.expr.exposed, ∀ p, ruleset.binder? x.conditions name = some (.parameter p) →
      p.isAlwaysSet = false → Condition.narrowing name ∈ x.conditions := by
  intro x hx name hname p hp hset
  by_contra hnarrow
  obtain ⟨scope, hreach, hsettled⟩ := judged_of_mem_sites (judges_settled strict_standard) h hx
  obtain ⟨b, hb, hty⟩ := Option.map_eq_some_iff.1 (hreach.ty_of_parameter hp hnarrow)
  have hoption : b.ty.isOption = true := by
    rw [hty, parameterType, hset]
    rfl
  rw [hsettled name hname b hb] at hoption
  cases hoption

theorem compileRules_narrowed_prefixRules : ∃ c, compileRules .standard 64 prefixRules = .ok c ∧
    ∀ x ∈ prefixRules.sites, ∀ name ∈ x.expr.exposed, ∀ p, prefixRules.binder? x.conditions name = some (.parameter p) →
      p.isAlwaysSet = false → Condition.narrowing name ∈ x.conditions := by
  obtain ⟨c, hc⟩ := exists_of_isOk isOk_compileRules_prefixRules
  exact ⟨c, hc, compileRules_narrowed hc⟩

end Signpost.Resolver
