import Mathlib.Data.List.Forall2
import Signpost.Proofs.Resolver.Attributes
import Signpost.Proofs.Resolver.Compiling

/-!
# References and locals

The names that expressions of rules refer to, and the locals that emitted values refer to, in their order.  Each
reference becomes one local, that of the innermost binding of its name (`ensures_compile`, `ensures_document`).
-/

namespace Signpost.Rules

mutual

/-- The names that an expression refers to. -/
def Expr.references : Expr → List String
  | .string t => partReferences t
  | .bool _ | .int _ => []
  | .array es => listReferences es
  | .record fs => fieldReferences fs
  | .ref name => [name]
  | .call _ args => listReferences args

def Expr.listReferences : List Expr → List String
  | [] => []
  | e :: es => e.references ++ listReferences es

def Expr.fieldReferences : List (String × Expr) → List String
  | [] => []
  | (_, e) :: fs => e.references ++ fieldReferences fs

def Expr.partReferences : List Part → List String
  | [] => []
  | .text _ :: ps => partReferences ps
  | .hole e :: ps => e.references ++ partReferences ps

end

/-- The names that an endpoint refers to. -/
def EndpointTemplate.references (e : EndpointTemplate) : List String :=
  e.url.references ++ (e.headers.flatMap fun h => Expr.listReferences h.2) ++ Expr.fieldReferences e.properties

/-- A template without holes refers to nothing. -/
theorem Template.references_eq_nil {t : Template} {s : String} (h : t.plainText? = some s) :
    Expr.partReferences t = [] := by
  induction t generalizing s with
  | nil => rfl
  | cons p ps ih =>
    cases p with
    | text s' =>
      obtain ⟨s'', h', -⟩ := Option.map_eq_some_iff.1 h
      rw [Expr.partReferences]
      exact ih h'
    | hole e => cases h

end Signpost.Rules

namespace Signpost.Resolver

open Code (Ident)
open Rules (Expr Part Template Call)

mutual

/-- The locals that a value refers to. -/
def Value.locals : Value → List Ident
  | .local i => [i]
  | .string _ | .bool _ | .int _ => []
  | .format _ args | .call _ args => Value.localsOf args
  | .toOwned v | .asStr v | .isSome v | .not v | .read v _ | .item v _ => v.locals
  | .equal a b | .or a b | .unwrapOr a b | .ownedOr a b | .first a b => a.locals ++ b.locals

def Value.localsOf : List Value → List Ident
  | [] => []
  | v :: vs => v.locals ++ Value.localsOf vs

end

mutual

/-- The locals that a document refers to. -/
def Document.locals : Document → List Ident
  | .int _ => []
  | .array items => Document.localsOf items
  | .record fields => Document.fieldLocals fields
  | .value v | .number v | .strings v => v.locals

def Document.localsOf : List Document → List Ident
  | [] => []
  | d :: ds => d.locals ++ Document.localsOf ds

def Document.fieldLocals : List (String × Document) → List Ident
  | [] => []
  | (_, d) :: fs => d.locals ++ Document.fieldLocals fs

end

/-- The locals that an endpoint refers to. -/
def Endpoint.locals (e : Endpoint) : List Ident :=
  e.url.locals ++ (e.headers.flatMap fun h => h.2.locals) ++ Document.fieldLocals e.properties

/-- The local of the innermost binding of a name. -/
def Scope.ident? (s : Scope) (name : String) : Option Ident := (s.get? name).map (·.ident)

/-- The locals are those of the references. -/
def Agree (scope : Scope) (names : List String) (locals : List Ident) : Prop :=
  locals.map some = names.map scope.ident?

variable {scope : Scope} {names names' : List String} {locals locals' : List Ident}

theorem Agree.append (h : Agree scope names locals) (h' : Agree scope names' locals') :
    Agree scope (names ++ names') (locals ++ locals') := by
  unfold Agree at *
  rw [List.map_append, List.map_append, h, h']

/-! ### Values -/

@[simp] private theorem locals_view (c : Compiled) : c.view.value.locals = c.value.locals := by
  unfold Compiled.view
  split <;> simp [Value.locals]

@[simp] private theorem locals_own (c : Compiled) : c.own.value.locals = c.value.locals := by
  unfold Compiled.own
  split <;> simp [Value.locals]

theorem Compiled.ty_view (c : Compiled) : c.view.ty = c.ty := by
  unfold view
  split <;> rfl

theorem Compiled.ty_own (c : Compiled) : c.own.ty = c.ty := by
  unfold own
  split
  · rename_i h
    simp only [Bool.and_eq_true, decide_eq_true_eq] at h
    exact h.1.symm
  · rfl

theorem ensures_expect (place : Place) (want : Ty) (c : Compiled) :
    Ensures (c.expect place want) fun _ => c.ty = want :=
  .ite (fun h => .pure h) fun _ => .ite (fun _ => .fail _) fun _ => .fail _

/-- What the steps that go on from a value keep. -/
abbrev Keeps (m : Compiling Compiled) (locals : List Ident) : Prop :=
  Ensures m fun c => c.value.locals = locals

private theorem locals_foldl_read (accessors : List Ident) (v : Value) :
    (accessors.foldl .read v).locals = v.locals := by
  induction accessors generalizing v with
  | nil => rfl
  | cons i is ih => rw [List.foldl_cons, ih, Value.locals]

theorem keeps_getAttr (call : Call) (path : List Char) (c : Compiled) :
    Keeps (getAttr call path c) c.value.locals := by
  refine (ensures_getAttr call path c).mono fun c' hc' => ?_
  obtain ⟨⟨names, isApart, element⟩, -, -, accessors, ty, -, hc'⟩ := hc'
  cases element with
  | none =>
    rw [hc']
    exact locals_foldl_read accessors c.value
  | some e =>
    rw [hc'.2, Compiled.plain, Value.locals, locals_foldl_read]

private theorem keeps_equality (call : Call) (want : Ty) (a b : Compiled) :
    Keeps (equality call want a b) (a.value.locals ++ b.value.locals) :=
  (ensures_expect _ _ _).bind fun _ _ => (ensures_expect _ _ _).bind fun _ _ => .pure rfl

private theorem keeps_alternatives (call : Call) (a b : Compiled) :
    Keeps (alternatives call a b) (a.value.locals ++ b.value.locals) := by
  unfold alternatives
  refine .ite (fun _ => .fail _) fun _ => .ite (fun _ => .fail _) fun _ => ?_
  split
  · exact .pure rfl
  · exact .ite (fun _ => .pure rfl) fun _ => .pure rfl
  · exact .pure rfl

theorem keeps_apply (f : Intrinsic) (call : Call) (args : List Compiled) :
    Keeps (f.apply call args) (Value.localsOf (args.map (·.value))) := by
  unfold Intrinsic.apply
  split
  · exact .ite (fun _ => .pure (by simp [Compiled.plain, Value.locals, Value.localsOf])) fun _ => .fail _
  · exact (ensures_expect _ _ _).bind fun _ _ => .pure (by simp [Compiled.plain, Value.locals, Value.localsOf])
  · exact (keeps_equality _ _ _ _).mono fun _ h => by simpa [Value.localsOf] using h
  · exact (keeps_equality _ _ _ _).mono fun _ h => by simpa [Value.localsOf] using h
  · exact (keeps_alternatives _ _ _).mono fun _ h => by simpa [Value.localsOf] using h
  · exact .fail _

theorem ensures_displayed (e : Expr) (c : Compiled) :
    Ensures (displayed e c) fun v => v.locals = c.value.locals :=
  .ite (fun _ => .fail _) fun _ => .ite (fun _ => .fail _) fun _ => .pure (locals_view c)

theorem ensures_reference (scope : Scope) (name : String) :
    Ensures (reference scope name) fun c => Agree scope [name] c.value.locals := by
  unfold reference
  cases h : scope.get? name with
  | none => exact .fail _
  | some b => exact .pure (by simp [Agree, Compiled.plain, Value.locals, Scope.ident?, h])

mutual

/-- An expression becomes a value with one local for each reference. -/
theorem ensures_compile (scope : Scope) : (e : Expr) →
    Ensures (compile scope e) fun c => Agree scope e.references c.value.locals
  | .bool b => .pure rfl
  | .int n => .pure rfl
  | .array _ => .fail _
  | .record _ => .fail _
  | .ref name => ensures_reference scope name
  | .string t => by
    rw [compile]
    cases h : Template.plainText? t with
    | some s =>
      refine .pure ?_
      rw [Expr.references, Template.references_eq_nil h]
      rfl
    | none => exact (ensures_compileParts scope t).bind fun x hx => .pure hx
  | .call name args => by
    rw [compile.eq_def]
    dsimp only
    split
    · split
      · rename_i target path
        split
        · exact .fail _
        · rename_i s hs
          refine (ensures_compile scope target).bind fun c hc => (keeps_getAttr _ _ _).mono fun c' hc' => ?_
          rw [hc', locals_view, Expr.references, Expr.listReferences, Expr.listReferences, Expr.listReferences,
            Expr.references, Template.references_eq_nil hs, List.append_nil, List.append_nil]
          exact hc
      · exact .fail _
    · refine (ensures_compileAll scope args).bind fun cs hcs => (keeps_apply _ _ _).mono fun c hc => ?_
      rw [hc]
      exact hcs
    · refine (ensures_function name).bind fun f _ => .ite (fun _ => .fail _) fun hlen => ?_
      exact (ensures_compileArguments scope _ 1 f.parameters args (by simpa using hlen)).bind fun vs hvs => .pure hvs

theorem ensures_compileAll (scope : Scope) : (es : List Expr) →
    Ensures (compileAll scope es) fun cs =>
      Agree scope (Expr.listReferences es) (Value.localsOf (cs.map (·.value)))
  | [] => .pure rfl
  | e :: es => (ensures_compile scope e).bind fun _ hc => (ensures_compileAll scope es).bind fun _ hcs =>
    .pure (hc.append hcs)

theorem ensures_compileArguments (scope : Scope) (call : Call) (n : Nat) (wants : List Ty) : (es : List Expr) →
    wants.length = es.length → Ensures (compileArguments scope call n wants es) fun vs =>
      Agree scope (Expr.listReferences es) (Value.localsOf vs)
  | [], _ => .pure rfl
  | e :: es, hlen => by
    cases wants with
    | nil => cases hlen
    | cons want wants =>
      refine (ensures_compile scope e).bind fun c hc => (ensures_expect _ _ _).bind fun _ _ => ?_
      refine (ensures_compileArguments scope call (n + 1) wants es (Nat.succ.inj hlen)).bind fun vs hvs => .pure ?_
      rw [Expr.listReferences, Value.localsOf, locals_view]
      exact hc.append hvs

theorem ensures_compileParts (scope : Scope) : (ps : List Part) →
    Ensures (compileParts scope ps) fun x => Agree scope (Expr.partReferences ps) (Value.localsOf x.2)
  | [] => .pure rfl
  | .text s :: ps => (ensures_compileParts scope ps).bind fun _ hx => .pure hx
  | .hole e :: ps => by
    refine (ensures_compile scope e).bind fun c hc => (ensures_displayed e c).bind fun v hv => ?_
    refine (ensures_compileParts scope ps).bind fun x hx => .pure ?_
    rw [Expr.partReferences, Value.localsOf, hv]
    exact hc.append hx

end

/-! ### What leaves the resolver -/

theorem ensures_compileOwned (scope : Scope) (e : Expr) :
    Ensures (compileOwned scope e) fun c => Agree scope e.references c.value.locals := by
  refine (ensures_compile scope e).bind fun c hc => .pure ?_
  split
  · exact hc
  · rwa [locals_own]

theorem ensures_compileString (scope : Scope) (place : Place) (e : Expr) :
    Ensures (compileString scope place e) fun v => Agree scope e.references v.locals :=
  (ensures_compileOwned scope e).bind fun _ hc => (ensures_expect _ _ _).bind fun _ _ => .pure hc

theorem ensures_toDocument (e : Expr) (c : Compiled) :
    Ensures (c.toDocument e) fun d => d.locals = c.value.locals := by
  unfold Compiled.toDocument
  split
  · exact .pure rfl
  · exact .pure rfl
  · exact .pure rfl
  · exact .pure rfl
  · exact .fail _
  · exact .fail _

mutual

theorem ensures_document (scope : Scope) : (e : Expr) →
    Ensures (document scope e) fun d => Agree scope e.references d.locals
  | .int n => .pure rfl
  | .array items => (ensures_documents scope items).bind fun _ hds => .pure hds
  | .record fields => (ensures_documentFields scope fields).bind fun _ hfs => .pure hfs
  | .string t => ensures_computed scope (.string t)
  | .bool b => ensures_computed scope (.bool b)
  | .ref name => ensures_computed scope (.ref name)
  | .call name args => ensures_computed scope (.call name args)
where
  ensures_computed (scope : Scope) (e : Expr) : Ensures (do (← compileOwned scope e).toDocument e) fun d =>
      Agree scope e.references d.locals := by
    refine (ensures_compileOwned scope e).bind fun c hc => (ensures_toDocument e c).mono fun d hd => ?_
    rwa [hd]

theorem ensures_documents (scope : Scope) : (es : List Expr) →
    Ensures (documents scope es) fun ds => Agree scope (Expr.listReferences es) (Document.localsOf ds)
  | [] => .pure rfl
  | e :: es => (ensures_document scope e).bind fun _ hd => (ensures_documents scope es).bind fun _ hds =>
    .pure (hd.append hds)

theorem ensures_documentFields (scope : Scope) : (fs : List (String × Expr)) →
    Ensures (documentFields scope fs) fun ds => Agree scope (Expr.fieldReferences fs) (Document.fieldLocals ds)
  | [] => .pure rfl
  | (_, e) :: fs => (ensures_document scope e).bind fun _ hd => (ensures_documentFields scope fs).bind fun _ hds =>
    .pure (hd.append hds)

end

private theorem ensures_mapM {α β : Type} {f : α → Compiling β} {P : α → β → Prop}
    (hf : ∀ a, Ensures (f a) (P a)) : (as : List α) → Ensures (as.mapM f) fun bs => List.Forall₂ P as bs
  | [] => by
    rw [List.mapM_nil]
    exact .pure .nil
  | a :: as => by
    rw [List.mapM_cons]
    exact (hf a).bind fun b hb => (ensures_mapM hf as).bind fun bs hbs => .pure (.cons hb hbs)

private theorem agree_flatMap {α β : Type} {as : List α} {bs : List β} {f : α → List String} {g : β → List Ident}
    (h : List.Forall₂ (fun a b => Agree scope (f a) (g b)) as bs) : Agree scope (as.flatMap f) (bs.flatMap g) := by
  induction h with
  | nil => rfl
  | cons h _ ih => exact h.append ih

private theorem listReferences_eq (es : List Expr) : Expr.listReferences es = es.flatMap (·.references) := by
  induction es with
  | nil => rfl
  | cons e es ih => rw [Expr.listReferences, ih, List.flatMap_cons]

private theorem ensures_headerValues (name : String) (es : List Expr) :
    Ensures (headerValues scope name es) fun xs =>
      Agree scope (Expr.listReferences es) (xs.flatMap (·.2.locals)) := by
  rw [listReferences_eq]
  refine (ensures_mapM (P := fun e x => Agree scope e.references x.2.locals) (fun e => ?_) es).mono
    fun xs hxs => agree_flatMap hxs
  exact (ensures_compileString scope _ e).bind fun v hv => .pure hv

theorem ensures_endpoint (scope : Scope) (e : Rules.EndpointTemplate) :
    Ensures (endpoint scope e) fun x => Agree scope e.references x.locals := by
  refine (ensures_compileString scope _ e.url).bind fun url hurl => ?_
  refine (ensures_mapM (P := fun h xs => Agree scope (Expr.listReferences h.2) (xs.flatMap (·.2.locals)))
    (fun h => ensures_headerValues h.1 h.2) e.headers).bind fun headers hheaders => ?_
  refine (ensures_documentFields scope e.properties).bind fun properties hproperties => .pure ?_
  refine (hurl.append ?_).append hproperties
  show Agree scope _ (headers.flatten.flatMap _)
  rw [List.flatten_eq_flatMap, List.flatMap_assoc]
  exact agree_flatMap hheaders

end Signpost.Resolver
