import Signpost.Proofs.Resolver.Sites

/-!
# Functions that are looked up

Compiling looks up the functions that are called and not built in, in the order in which they stand (`lookUps`).  A
successful run marks exactly these as used, and what a run gives, be it a result or a failure, depends on nothing else
in the registry (`LooksUp`).  The steps on values look nothing up; expressions, documents, conditions, rules and levels
look up what is called inside them (`looksUp_compile`, `looksUp_document`, `looksUp_openings`, `looksUp_levelFrom`).
-/

namespace Signpost.Rules

/-- The function that an expression calls, if it is a call. -/
def Expr.callee? : Expr → Option String
  | .call name _ => some name
  | _ => none

/-- All expressions at some places, in the order in which they stand. -/
def partsOfSites (xs : List Site) : List Expr := xs.flatMap (·.expr.parts)

theorem partsOfSites_append (xs ys : List Site) : partsOfSites (xs ++ ys) = partsOfSites xs ++ partsOfSites ys :=
  List.flatMap_append

theorem partsOfSites_cons (x : Site) (xs : List Site) : partsOfSites (x :: xs) = x.expr.parts ++ partsOfSites xs :=
  List.flatMap_cons

/-- The places of an outcome that leads no further are those of its own expressions. -/
theorem partsOfSites_map (before : List Condition) (es : List Expr) :
    partsOfSites (es.map (Site.mk before)) = es.flatMap (·.parts) :=
  List.flatMap_map _ _ _

theorem Expr.partsOfFields_eq_flatMap (fs : List (String × Expr)) :
    Expr.partsOfFields fs = (fs.map (·.2)).flatMap (·.parts) := by
  induction fs with
  | nil => rfl
  | cons f fs ih => rw [Expr.partsOfFields, ih, List.map_cons, List.flatMap_cons]

/-- All expressions of a ruleset, in the order in which they stand. -/
def Ruleset.parts (r : Ruleset) : List Expr := partsOfSites r.sites

end Signpost.Rules

namespace Signpost.Resolver

open Rules (Expr Part Template Call Condition Rule Outcome EndpointTemplate Parameter Ruleset Site partsOfSites
  partsOfSites_append partsOfSites_cons partsOfSites_map conditionSites levelSites)

/-- The functions that these expressions call and that are not built in, as often as they are called. -/
def lookUps (es : List Expr) : List String :=
  (es.filterMap (·.callee?)).filter fun name => (Intrinsic.ofName? name).isNone

@[simp] theorem lookUps_append (es fs : List Expr) : lookUps (es ++ fs) = lookUps es ++ lookUps fs := by
  simp [lookUps]

theorem lookUps_cons (e : Expr) (es : List Expr) : lookUps (e :: es) = lookUps [e] ++ lookUps es :=
  lookUps_append [e] es

theorem lookUps_flatMap {α : Type} (f : α → List Expr) (as : List α) :
    lookUps (as.flatMap f) = as.flatMap fun a => lookUps (f a) := by
  induction as with
  | nil => rfl
  | cons a as ih => rw [List.flatMap_cons, List.flatMap_cons, lookUps_append, ih]

theorem lookUps_call_of_some {name : String} {f : Intrinsic} (h : Intrinsic.ofName? name = some f) (args : List Expr) :
    lookUps [.call name args] = [] := by
  simp [lookUps, Expr.callee?, h]

theorem lookUps_call_of_none {name : String} (h : Intrinsic.ofName? name = none) (args : List Expr) :
    lookUps [.call name args] = [name] := by
  simp [lookUps, Expr.callee?, h]

namespace Registry

/-- The registry in which a function counts as used too. -/
def mark (r : Registry) (name : String) : Registry :=
  if r.used.contains name then r else { r with used := r.used ++ [name] }

/-- The registry in which these functions count as used too. -/
def use (r : Registry) (names : List String) : Registry := names.foldl mark r

theorem use_cons (r : Registry) (name : String) (names : List String) :
    r.use (name :: names) = (r.mark name).use names := rfl

theorem use_append (r : Registry) (names names' : List String) : r.use (names ++ names') = (r.use names).use names' :=
  List.foldl_append

@[simp] theorem functions_use (r : Registry) (names : List String) : (r.use names).functions = r.functions := by
  induction names generalizing r with
  | nil => rfl
  | cons name names ih =>
    rw [use_cons, ih, mark]
    split <;> rfl

/-- What was not used before is used in the order of its first occurrence. -/
theorem used_use (r : Registry) (names : List String) :
    (r.use names).used = r.used ++ (names.filter fun name => !r.used.contains name).eraseDups := by
  induction names generalizing r with
  | nil => simp [use]
  | cons name names ih =>
    rw [use_cons, ih, mark]
    by_cases h : r.used.contains name = true
    · rw [if_pos h, List.filter_cons_of_neg (by simpa using h)]
    · rw [if_neg h, List.filter_cons_of_pos (by simpa using h), List.eraseDups_cons, List.filter_filter,
        List.append_assoc, List.singleton_append]
      congr 3
      exact List.filter_congr fun name' _ => by simp [Bool.and_comm, beq_eq_decide]

/-- These names mean the same functions, if any. -/
def AgreeOn (names : List String) (r s : Registry) : Prop :=
  ∀ name ∈ names, s.functions.get? name = r.functions.get? name

theorem agreeOn_of_functions_eq {r s : Registry} (h : s.functions = r.functions) (names : List String) :
    AgreeOn names r s := fun _ _ => by rw [h]

theorem lookUp_eq (r : Registry) (name : String) :
    r.lookUp name = (r.functions.get? name).map fun f => (f, r.use [name]) := rfl

end Registry

variable {α β : Type}

/-- Runs look up these functions.  What a successful run changes is that they count as used, and whatever a run gives
depends on nothing but them.  The last condition is on failures. -/
structure LooksUp (m : Compiling α) (names : List String) (F : Failure → Prop) : Prop where
  marks : ∀ {r r' a}, m r = .ok (a, r') → r' = r.use names
  finds : ∀ {r r' a}, m r = .ok (a, r') → ∀ name ∈ names, (r.functions.get? name).isSome = true
  agrees : ∀ {r s}, Registry.AgreeOn names r s → (m s).map (·.1) = (m r).map (·.1)
  failure : ∀ {r f}, m r = .error f → F f

/-- The failure is not yet said to lie in a rule. -/
abbrev Unplaced (f : Failure) : Prop := f.rule = none

namespace LooksUp

variable {m : Compiling α} {names names' : List String} {F : Failure → Prop}

theorem pure (a : α) : LooksUp (pure a : Compiling α) [] F := by
  constructor
  · intro r r' b h
    exact (pure_ok_iff.1 h).2.symm
  · exact fun _ => List.forall_mem_nil _
  · exact fun _ => rfl
  · intro r f h
    cases h

theorem fail (c : Cause) (hF : F ⟨c, none⟩) : LooksUp (Resolver.fail c : Compiling α) names F := by
  constructor
  · exact fun h => absurd h not_fail_ok
  · exact fun h => absurd h not_fail_ok
  · exact fun _ => rfl
  · intro r f h
    cases h
    exact hF

/-- Two runs from registries with the same functions to look up give the same. -/
theorem ok_of_agrees (h : LooksUp m names F) {r s r' : Registry} {a : α} (hs : Registry.AgreeOn names r s)
    (hr : m r = .ok (a, r')) : m s = .ok (a, s.use names) := by
  have heq := h.agrees hs
  rw [hr] at heq
  obtain ⟨⟨b, s'⟩, hb, rfl⟩ := exists_of_map_ok heq
  rw [hb, h.marks hb]

theorem error_of_agrees (h : LooksUp m names F) {r s : Registry} {f : Failure} (hs : Registry.AgreeOn names r s)
    (hr : m r = .error f) : m s = .error f := by
  have heq := h.agrees hs
  rw [hr] at heq
  cases hms : m s with
  | error g =>
    rw [hms] at heq
    cases heq
    rfl
  | ok x =>
    rw [hms] at heq
    cases heq

theorem bind {f : α → Compiling β} (hm : LooksUp m names F) (hf : ∀ a, LooksUp (f a) names' F) :
    LooksUp (m >>= f) (names ++ names') F := by
  constructor
  · intro r r'' b h
    obtain ⟨a, r', ha, hb⟩ := bind_ok_iff.1 h
    rw [(hf a).marks hb, hm.marks ha, Registry.use_append]
  · intro r r'' b h
    obtain ⟨a, r', ha, hb⟩ := bind_ok_iff.1 h
    have hrest := (hf a).finds hb
    rw [hm.marks ha, Registry.functions_use] at hrest
    exact List.forall_mem_append.2 ⟨hm.finds ha, hrest⟩
  · intro r s hs
    obtain ⟨hfirst, hrest⟩ := List.forall_mem_append.1 hs
    show ((m s) >>= fun x => f x.1 x.2).map _ = ((m r) >>= fun x => f x.1 x.2).map _
    cases hr : m r with
    | error g =>
      rw [hm.error_of_agrees hfirst hr]
    | ok x =>
      obtain ⟨a, r'⟩ := x
      rw [hm.ok_of_agrees hfirst hr]
      refine (hf a).agrees fun name hname => ?_
      rw [hm.marks hr, Registry.functions_use, Registry.functions_use]
      exact hrest name hname
  · intro r g h
    rcases exists_of_bind_error h with h | ⟨x, -, h⟩
    · exact hm.failure h
    · exact (hf x.1).failure h

/-- A step behind which nothing is looked up. -/
theorem followed {f : α → Compiling β} (hm : LooksUp m names F) (hf : ∀ a, LooksUp (f a) [] F) :
    LooksUp (m >>= f) names F := by
  have h := hm.bind hf
  rwa [List.append_nil] at h

/-- A step in front of which nothing is looked up. -/
theorem after {f : α → Compiling β} (hm : LooksUp m [] F) (hf : ∀ a, LooksUp (f a) names F) :
    LooksUp (m >>= f) names F := hm.bind hf

theorem ite {p : Prop} [Decidable p] {m' : Compiling α} (hm : p → LooksUp m names F) (hm' : ¬ p → LooksUp m' names F) :
    LooksUp (if p then m else m') names F := by
  split
  · exact hm ‹_›
  · exact hm' ‹_›

theorem anyFailure (hm : LooksUp m names F) : LooksUp m names fun _ => True :=
  ⟨hm.marks, hm.finds, hm.agrees, fun _ => trivial⟩

theorem mapM {f : α → Compiling β} {g : α → List String} (hf : ∀ a, LooksUp (f a) (g a) F) :
    (as : List α) → LooksUp (as.mapM f) (as.flatMap g) F
  | [] => by
    rw [List.mapM_nil]
    exact pure []
  | a :: as => by
    rw [List.mapM_cons, List.flatMap_cons]
    exact (hf a).bind fun b => (mapM hf as).followed fun bs => pure _

theorem inRule (hm : LooksUp m names F) (path : RulePath) : LooksUp (inRule path m) names fun _ => True := by
  constructor
  · exact fun h => hm.marks (inRule_ok_iff.1 h)
  · exact fun h => hm.finds (inRule_ok_iff.1 h)
  · intro r s hs
    cases hr : m r with
    | error g => simp only [Resolver.inRule, hr, hm.error_of_agrees hs hr]
    | ok x =>
      simp only [Resolver.inRule, hr, hm.ok_of_agrees hs hr]
      rfl
  · exact fun _ => trivial

end LooksUp

theorem looksUp_function (name : String) : LooksUp (function name) [name] Unplaced := by
  have hrun : ∀ r : Registry, function name r = match r.functions.get? name with
      | some f => .ok (f, r.use [name])
      | none => .error ⟨.unknownFunction name, none⟩ := by
    intro r
    have hget : ∀ k : Registry → Compiling Function, (get >>= k) r = k r r := fun _ => rfl
    rw [function, hget, Registry.lookUp_eq]
    cases r.functions.get? name <;> rfl
  constructor
  · intro r r' f h
    rw [hrun] at h
    split at h <;> cases h
    rfl
  · intro r r' f h name' hname
    rw [List.mem_singleton.1 hname]
    rw [hrun] at h
    split at h
    · rename_i hf
      rw [hf]
      rfl
    · cases h
  · intro r s hs
    rw [hrun, hrun, hs name (List.mem_singleton_self name)]
    cases r.functions.get? name <;> rfl
  · intro r f h
    rw [hrun] at h
    split at h <;> cases h
    rfl

/-! ### Steps on values -/

/-- The step looks nothing up. -/
abbrev LooksUpNothing (m : Compiling α) : Prop := LooksUp m [] Unplaced

private theorem looksUp_expect (place : Place) (want : Ty) (c : Compiled) : LooksUpNothing (c.expect place want) :=
  .ite (fun _ => .pure _) fun _ => .ite (fun _ => .fail _ rfl) fun _ => .fail _ rfl

private theorem looksUp_readName (call : Call) (name : List Char) (c : Compiled) :
    LooksUpNothing (readName call name c) := by
  unfold readName
  dsimp only
  split
  · split
    · exact .fail _ rfl
    · split
      · exact .fail _ rfl
      · exact .pure _
  · exact .fail _ rfl
  · exact .fail _ rfl

private theorem looksUp_readIndex (call : Call) (i : Nat) (c : Compiled) : LooksUpNothing (readIndex call i c) :=
  .ite (fun _ => .pure _) fun _ => .fail _ rfl

private theorem looksUp_readPath (call : Call) (ss : List (List Char)) (c : Compiled) :
    LooksUpNothing (readPath call ss c) := by
  induction ss generalizing c with
  | nil => exact .pure _
  | cons s ss ih =>
    rw [readPath]
    cases Segment.ofChars? s with
    | none => exact .fail _ rfl
    | some segment =>
      obtain ⟨name, index⟩ := segment
      -- an index is the end of the path
      cases index with
      | none => exact .ite (fun _ => (LooksUp.pure c).after ih) fun _ => (looksUp_readName call name c).after ih
      | some i =>
        have hindex : ∀ c' : Compiled, LooksUpNothing
            (if ss.isEmpty then readIndex call i c' else fail (.unsupported .pathPastIndex)) :=
          fun c' => .ite (fun _ => looksUp_readIndex call i c') fun _ => .fail _ rfl
        exact .ite (fun _ => (LooksUp.pure c).after hindex) fun _ => (looksUp_readName call name c).after hindex

private theorem looksUp_equality (call : Call) (want : Ty) (a b : Compiled) :
    LooksUpNothing (equality call want a b) :=
  (looksUp_expect _ _ _).after fun _ => (looksUp_expect _ _ _).after fun _ => .pure _

private theorem looksUp_alternatives (call : Call) (a b : Compiled) : LooksUpNothing (alternatives call a b) := by
  unfold alternatives
  refine .ite (fun _ => .fail _ rfl) fun _ => .ite (fun _ => .fail _ rfl) fun _ => ?_
  split
  · exact .pure _
  · exact .ite (fun _ => .pure _) fun _ => .pure _
  · exact .pure _

private theorem looksUp_apply (f : Intrinsic) (call : Call) (args : List Compiled) :
    LooksUpNothing (f.apply call args) := by
  unfold Intrinsic.apply
  split
  · exact .ite (fun _ => .pure _) fun _ => .fail _ rfl
  · exact (looksUp_expect _ _ _).after fun _ => .pure _
  · exact looksUp_equality _ _ _ _
  · exact looksUp_equality _ _ _ _
  · exact looksUp_alternatives _ _ _
  · exact .fail _ rfl

private theorem looksUp_reference (scope : Scope) (name : String) : LooksUpNothing (reference scope name) := by
  unfold reference
  split
  · exact .pure _
  · exact .fail _ rfl

private theorem looksUp_displayed (e : Expr) (c : Compiled) : LooksUpNothing (displayed e c) :=
  .ite (fun _ => .fail _ rfl) fun _ => .ite (fun _ => .fail _ rfl) fun _ => .pure _

private theorem looksUp_toDocument (e : Expr) (c : Compiled) : LooksUpNothing (c.toDocument e) := by
  unfold Compiled.toDocument
  split
  · exact .pure _
  · exact .pure _
  · exact .pure _
  · exact .pure _
  · exact .fail _ rfl
  · exact .fail _ rfl

private theorem looksUp_localOf (name : String) : LooksUpNothing (localOf name) := by
  unfold localOf
  split
  · exact .pure _
  · exact .fail _ rfl

/-! ### Expressions -/

mutual

theorem looksUp_compile (scope : Scope) : (e : Expr) → LooksUp (compile scope e) (lookUps e.parts) Unplaced
  | .bool b => .pure _
  | .int n => .pure _
  | .array _ => .fail _ rfl
  | .record _ => .fail _ rfl
  | .ref name => looksUp_reference scope name
  | .string t => by
    rw [compile, Expr.parts, lookUps_cons]
    cases h : Template.plainText? t with
    | some s =>
      simp only [Template.partsOfTemplate_eq_nil h]
      exact .pure _
    | none => exact (looksUp_compileParts scope t).followed fun _ => .pure _
  | .call name args => by
    rw [compile.eq_def, Expr.parts, lookUps_cons]
    dsimp only
    split
    · rename_i hname
      rw [lookUps_call_of_some hname]
      split
      · rename_i target path
        split
        · exact .fail _ rfl
        · rename_i s hs
          -- the path holds no expressions
          have hparts : lookUps (Expr.partsOf [target, .string path]) = lookUps target.parts := by
            simp only [Expr.partsOf, Expr.parts, Template.partsOfTemplate_eq_nil hs, lookUps_append]
            exact List.append_nil _
          rw [hparts]
          exact (looksUp_compile scope target).followed fun _ => looksUp_readPath _ _ _
      · exact .fail _ rfl
    · rename_i hname
      rw [lookUps_call_of_some hname]
      exact (looksUp_compileAll scope args).followed fun _ => looksUp_apply _ _ _
    · rename_i hname
      rw [lookUps_call_of_none hname]
      refine (looksUp_function name).bind fun f => .ite (fun _ => .fail _ rfl) fun hlen => ?_
      exact (looksUp_compileArguments scope _ 1 f.parameters args (by simpa using hlen)).followed fun _ => .pure _

private theorem looksUp_compileAll (scope : Scope) : (es : List Expr) →
    LooksUp (compileAll scope es) (lookUps (Expr.partsOf es)) Unplaced
  | [] => .pure _
  | e :: es => by
    rw [compileAll, Expr.partsOf, lookUps_append]
    exact (looksUp_compile scope e).bind fun _ => (looksUp_compileAll scope es).followed fun _ => .pure _

private theorem looksUp_compileArguments (scope : Scope) (call : Call) (n : Nat) (wants : List Ty) : (es : List Expr) →
    wants.length = es.length →
    LooksUp (compileArguments scope call n wants es) (lookUps (Expr.partsOf es)) Unplaced
  | [], _ => .pure _
  | e :: es, hlen => by
    cases wants with
    | nil => cases hlen
    | cons want wants =>
      rw [compileArguments, Expr.partsOf, lookUps_append]
      refine (looksUp_compile scope e).bind fun c => (looksUp_expect _ _ _).after fun _ => ?_
      exact (looksUp_compileArguments scope call (n + 1) wants es (Nat.succ.inj hlen)).followed fun _ => .pure _

private theorem looksUp_compileParts (scope : Scope) : (ps : List Part) →
    LooksUp (compileParts scope ps) (lookUps (Expr.partsOfTemplate ps)) Unplaced
  | [] => .pure _
  | .text s :: ps => by
    rw [compileParts, Expr.partsOfTemplate]
    exact (looksUp_compileParts scope ps).followed fun _ => .pure _
  | .hole e :: ps => by
    rw [compileParts, Expr.partsOfTemplate, lookUps_append]
    refine (looksUp_compile scope e).bind fun c => (looksUp_displayed e c).after fun _ => ?_
    exact (looksUp_compileParts scope ps).followed fun _ => .pure _

end

private theorem looksUp_compileOwned (scope : Scope) (e : Expr) :
    LooksUp (compileOwned scope e) (lookUps e.parts) Unplaced :=
  (looksUp_compile scope e).followed fun _ => .pure _

theorem looksUp_compileString (scope : Scope) (place : Place) (e : Expr) :
    LooksUp (compileString scope place e) (lookUps e.parts) Unplaced :=
  (looksUp_compileOwned scope e).followed fun _ => (looksUp_expect _ _ _).after fun _ => .pure _

mutual

theorem looksUp_document (scope : Scope) : (e : Expr) → LooksUp (document scope e) (lookUps e.parts) Unplaced
  | .int n => .pure _
  | .array items => by
    rw [document, Expr.parts, lookUps_cons]
    exact (looksUp_documents scope items).followed fun _ => .pure _
  | .record fields => by
    rw [document, Expr.parts, lookUps_cons]
    exact (looksUp_documentFields scope fields).followed fun _ => .pure _
  | .string t => looksUp_computed scope (.string t)
  | .bool b => looksUp_computed scope (.bool b)
  | .ref name => looksUp_computed scope (.ref name)
  | .call name args => looksUp_computed scope (.call name args)
where
  looksUp_computed (scope : Scope) (e : Expr) :
      LooksUp (do (← compileOwned scope e).toDocument e) (lookUps e.parts) Unplaced :=
    (looksUp_compileOwned scope e).followed fun c => looksUp_toDocument e c

private theorem looksUp_documents (scope : Scope) : (es : List Expr) →
    LooksUp (documents scope es) (lookUps (Expr.partsOf es)) Unplaced
  | [] => .pure _
  | e :: es => by
    rw [documents, Expr.partsOf, lookUps_append]
    exact (looksUp_document scope e).bind fun _ => (looksUp_documents scope es).followed fun _ => .pure _

private theorem looksUp_documentFields (scope : Scope) : (fs : List (String × Expr)) →
    LooksUp (documentFields scope fs) (lookUps (Expr.partsOfFields fs)) Unplaced
  | [] => .pure _
  | (_, e) :: fs => by
    rw [documentFields, Expr.partsOfFields, lookUps_append]
    exact (looksUp_document scope e).bind fun _ => (looksUp_documentFields scope fs).followed fun _ => .pure _

end

/-! ### Conditions -/

private theorem looksUp_narrowing (scope : Scope) (c : Condition) : LooksUpNothing (narrowing scope c) := by
  rw [narrowing_eq]
  split
  · exact .pure _
  · split
    · exact .fail _ rfl
    · split
      · exact .pure _
      · exact .pure _

private theorem looksUp_openingOn (scope : Scope) (c : Condition) (v : Compiled) :
    LooksUpNothing (openingOn scope c v) := by
  unfold openingOn
  split
  · exact .pure _
  · exact .pure _
  · exact .fail _ rfl
  · exact (looksUp_localOf _).followed fun _ => .pure _
  · exact (looksUp_localOf _).followed fun _ => .pure _
  · exact (looksUp_localOf _).followed fun _ => .pure _

/-- A condition that narrows a name calls nothing else. -/
private theorem lookUps_of_narrowed {c : Condition} {name : String} (h : c.narrowed? = some name) :
    lookUps c.call.toExpr.parts = [] := by
  obtain ⟨hname, -, hargs⟩ := Condition.narrowed?_eq_some_iff.1 h
  rw [Call.toExpr, hname, hargs]
  rfl

private theorem looksUp_opening (scope : Scope) (c : Condition) :
    LooksUp (opening scope c) (lookUps c.call.toExpr.parts) Unplaced := by
  have hvalue : LooksUp (compile scope c.call.toExpr >>= openingOn scope c) (lookUps c.call.toExpr.parts) Unplaced :=
    (looksUp_compile scope _).followed (looksUp_openingOn scope c)
  cases hn : c.narrowed? with
  | none =>
    rw [opening, narrowing_eq, hn]
    exact hvalue
  | some name =>
    rw [lookUps_of_narrowed hn] at hvalue ⊢
    refine (looksUp_narrowing scope c).after fun x => ?_
    cases x with
    | none => exact hvalue
    | some x => exact .pure _

theorem looksUp_openings (before : List Condition) (scope : Scope) (cs : List Condition) :
    LooksUp (openings scope cs) (lookUps (partsOfSites (conditionSites before cs))) Unplaced := by
  induction cs generalizing before scope with
  | nil => exact .pure _
  | cons c cs ih =>
    rw [openings, conditionSites, partsOfSites_cons, lookUps_append]
    exact (looksUp_opening scope c).bind fun x => (ih (before ++ [c]) x.1).followed fun y => .pure _

/-! ### Rules -/

theorem looksUp_endpoint (scope : Scope) (e : EndpointTemplate) :
    LooksUp (endpoint scope e) (lookUps (e.exprs.flatMap (·.parts))) Unplaced := by
  have hnames : lookUps (e.exprs.flatMap (·.parts)) = lookUps e.url.parts ++
      ((e.headers.flatMap fun h => h.2.flatMap fun x => lookUps x.parts) ++
        lookUps (Expr.partsOfFields e.properties)) := by
    rw [EndpointTemplate.exprs, List.flatMap_cons, List.flatMap_append, lookUps_append, lookUps_append,
      List.flatMap_assoc, lookUps_flatMap, Expr.partsOfFields_eq_flatMap]
    simp only [lookUps_flatMap]
  -- each header has a list of values
  have hvalues : ∀ h : String × List Expr,
      LooksUp (headerValues scope h.1 h.2) (h.2.flatMap fun x => lookUps x.parts) Unplaced :=
    fun h => .mapM (fun x => (looksUp_compileString scope (.header h.1) x).followed fun _ => .pure _) h.2
  rw [hnames]
  refine (looksUp_compileString scope .url e.url).bind fun url => ?_
  refine (LooksUp.mapM hvalues e.headers).bind fun headers => ?_
  exact (looksUp_documentFields scope e.properties).followed fun _ => .pure _

mutual

theorem looksUp_rule (maxDepth : Nat) (path : RulePath) : (r : Rule) → (before : List Condition) → (scope : Scope) →
    LooksUp (rule maxDepth scope path r) (lookUps (partsOfSites (r.sites before))) fun _ => True
  | .mk _ cs o, before, scope => by
    rw [rule, Rule.sites, partsOfSites_append, lookUps_append, checks_eq]
    refine LooksUp.inRule ((looksUp_openings before scope cs).anyFailure.bind fun x => ?_) path
    exact (looksUp_outcome maxDepth path o (before ++ cs) x.1).followed fun _ => .pure _

theorem looksUp_outcome (maxDepth : Nat) (path : RulePath) : (o : Outcome) → (before : List Condition) →
    (scope : Scope) →
    LooksUp (outcome maxDepth scope path o) (lookUps (partsOfSites (o.sites before))) fun _ => True
  | .endpoint e, before, scope => by
    rw [Outcome.sites, partsOfSites_map]
    exact ((looksUp_endpoint scope e).followed fun _ => .pure _).anyFailure
  | .error message, before, scope => by
    rw [Outcome.sites, partsOfSites_cons]
    rw [partsOfSites, List.flatMap_nil, List.append_nil]
    exact ((looksUp_compileString scope .message message).followed fun _ => .pure _).anyFailure
  | .tree rules, before, scope => by
    rw [outcome, Outcome.sites]
    exact .ite (fun _ => .fail _ trivial) fun _ => looksUp_levelFrom maxDepth path rules before scope 0 true

theorem looksUp_levelFrom (maxDepth : Nat) (path : RulePath) : (rules : List Rule) → (before : List Condition) →
    (scope : Scope) → (i : Nat) → (isOpen : Bool) →
    LooksUp (levelFrom maxDepth scope path i isOpen rules) (lookUps (partsOfSites (levelSites before rules)))
      fun _ => True
  | [], _, _, _, _ => .pure _
  | r :: rs, before, scope, i, isOpen => by
    rw [levelFrom, levelSites, partsOfSites_append, lookUps_append]
    refine (looksUp_rule maxDepth (path ++ [i]) r before scope).bind fun _ => ?_
    exact (looksUp_levelFrom maxDepth path rs before scope (i + 1) _).followed fun _ => .pure _

end

/-! ### Rulesets -/

theorem looksUp_parameterLocals (scope : Scope) (ps : List Parameter) : LooksUpNothing (parameterLocals scope ps) := by
  induction ps generalizing scope with
  | nil => exact .pure _
  | cons p ps ih =>
    exact (looksUp_localOf p.name).after fun i => (ih _).followed fun x => .pure _

/-- What compiling a ruleset runs: the locals for its parameters, then its rules in the scope of these. -/
def parametersAndRules (maxDepth : Nat) (ruleset : Ruleset) : Compiling (List ParameterLocal × List Statement) := do
  let (locals, scope) ← parameterLocals .empty ruleset.parameters
  return (locals, ← level maxDepth scope ruleset.rules)

theorem compileRules_eq (registry : Registry) (maxDepth : Nat) (ruleset : Ruleset) :
    compileRules registry maxDepth ruleset =
      if ruleset.rules.isEmpty then .error ⟨.noRules, none⟩
      else (parametersAndRules maxDepth ruleset registry.reset).map fun x => ⟨x.1.1, x.1.2, x.2.usedFunctions⟩ := by
  unfold compileRules
  split
  · rfl
  · show (parametersAndRules maxDepth ruleset registry.reset >>= fun x => _) = _
    cases parametersAndRules maxDepth ruleset registry.reset <;> rfl

theorem looksUp_parametersAndRules (maxDepth : Nat) (ruleset : Ruleset) :
    LooksUp (parametersAndRules maxDepth ruleset) (lookUps ruleset.parts) fun _ => True :=
  (looksUp_parameterLocals .empty ruleset.parameters).anyFailure.after fun x =>
    (looksUp_levelFrom maxDepth [] ruleset.rules [] x.2 0 true).followed fun _ => .pure _

end Signpost.Resolver
