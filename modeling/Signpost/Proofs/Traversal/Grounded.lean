import Mathlib
import Signpost.Proofs.Traversal.Defects
import Signpost.Proofs.Traversal.Functions
import Signpost.Schema.Document

/-!
# Schemas without dangling references

A schema is loaded only if all shapes that its shapes refer to are there (`Schema.isClosed_of_ofText`).  Classifying,
typing, member access and projections onto the values of a map go from one shape to another along these references, and
come to no shape that is missing (`Resolves`), whatever is in scope.  The shape behind an object is that of a structure
or a map (`ValueShape.isFounded`), for every value that comes up in a query, so that each object has a member access
(`founded_of_ofText`).
-/

namespace Signpost

/-! ### References of a schema -/

namespace Schema

variable {schema : Schema}

/-- Every shape that a shape of the schema refers to is there. -/
def IsClosed (schema : Schema) : Prop :=
  ∀ id shape, schema.get? id = some shape → ∀ t ∈ shape.targets, (schema.get? t).isSome = true

theorem isClosed_of_dangling? (h : schema.dangling? = none) : schema.IsClosed := by
  intro id shape hshape t ht
  have hfind := List.findSome?_eq_none_iff.1 h (id, shape) (Table.mem_of_get? hshape)
  rw [Option.map_eq_none_iff, List.find?_eq_none] at hfind
  simpa [Option.isSome_iff_ne_none] using hfind t ht

theorem isClosed_of_ofText {text : String} (h : ofText text = .ok schema) : schema.IsClosed := by
  unfold ofText at h
  split at h
  · cases h
  · split at h
    · cases h
    · rename_i hdangling
      cases h
      exact isClosed_of_dangling? hdangling

end Schema

namespace Traversal

open Code (Ident)
open Query (Expr)

/-- Whether the cause is that a shape is missing. -/
def Cause.isUnknownShape : Cause → Bool
  | invalid (.unknownShape _) => true
  | _ => false

variable {α β : Type} {schema : Schema} {id : ShapeId} {cause : Cause}

private theorem blames_isUnknownShape (hclosed : schema.IsClosed) :
    Blames schema (fun id => (schema.get? id).isSome = true) (·.isUnknownShape = false) where
  targets id s _ hs := hclosed id s hs
  missing id hid hnone := by
    rw [hnone] at hid
    cases hid
  unsupported _ := rfl
  endless _ := rfl

theorem referenceTo_resolves (hclosed : schema.IsClosed) (hid : (schema.get? id).isSome = true)
    (h : referenceTo schema id = .error cause) : cause.isUnknownShape = false :=
  (blames_isUnknownShape hclosed).referenceTo hid h

theorem isSome_of_access {src : Ident} {name : String} {retain : Bool} {a : Access} (hclosed : schema.IsClosed)
    (h : access schema id src name retain = .ok a) : (schema.get? a.target).isSome = true := by
  rw [access] at h
  split at h
  · rename_i members hrecord
    split at h
    · cases h
    · rename_i m hm
      split at h <;> cases h
      exact hclosed _ _ hrecord _ (List.mem_map.2 ⟨_, Table.mem_of_get? hm, rfl⟩)
  · rename_i v hmap
    cases h
    exact hclosed _ _ hmap _ List.mem_cons_self
  · cases h

theorem access_resolves {src : Ident} {name : String} {retain : Bool}
    (h : access schema id src name retain = .error cause) : cause.isUnknownShape = false := by
  rw [access] at h
  split at h
  · split at h
    · cases h
      rfl
    · split at h <;> cases h
      rfl
  · cases h
  · cases h
    rfl

theorem isSome_of_valueShape {left : Computed} (hclosed : schema.IsClosed) (h : valueShape schema left = .ok id) :
    (schema.get? id).isSome = true := by
  rw [valueShape] at h
  split at h <;> cases h
  rename_i hmap
  obtain ⟨_, -, hmap⟩ := Option.bind_eq_some_iff.1 hmap
  exact hclosed _ _ hmap _ List.mem_cons_self

/-! ### Operations -/

/-- The computation does not fail because a shape is missing. -/
abbrev Resolves (m : Naming α) (n : Namer) : Prop := Yields m n (fun _ _ => True) (·.isUnknownShape = false)

variable {c left : Computed} {cs : List Computed} {n : Namer} {retain : Bool} {t : Ty}

/-- What is known of the value beside that is left aside. -/
theorem Yields.resolves {m : Naming α} {P : Namer → α → Prop} (h : Yields m n P (·.isUnknownShape = false)) :
    Resolves m n := h.mono fun _ _ _ => trivial

theorem resolves_toTextFrom (t : Ty) : Resolves (c.toTextFrom t) n := by
  induction t generalizing c n with
  | ref t ih =>
    cases t with
    | str => exact .pure trivial
    | string | model name => exact .fresh (.pure trivial)
    | ref t =>
      rw [Computed.toTextFrom]
      exact .fresh ih
    | _ => exact .throw rfl
  | option t =>
    cases t with
    | ref t =>
      cases t with
      | str => exact .pure trivial
      | string | model name => exact .fresh (.fresh (.pure trivial))
      | _ => exact .throw rfl
    | _ => exact .throw rfl
  | _ => exact .throw rfl

theorem resolves_toText (c : Computed) : Resolves c.toText n := resolves_toTextFrom c.ty

theorem resolves_toNumber (target : Ty) (c : Computed) : Resolves (c.toNumber target) n := by
  rw [Computed.toNumber]
  refine (yields_dereference c).bind fun n d _ => .ite (fun _ => .pure trivial) fun _ => ?_
  split
  · exact .fresh (.pure trivial)
  · exact .fresh (.pure trivial)
  · refine .ite (fun _ => .throw rfl) fun _ => .ite (fun _ => .pure trivial) fun _ => ?_
    exact .fresh (.fresh (.pure trivial))
  · exact .throw rfl

theorem resolves_unwrap (c : Computed) : Resolves c.unwrap n := by
  rw [Computed.unwrap]
  split
  · exact .fresh (.pure trivial)
  · exact .pure trivial

theorem resolves_referenceTo (hclosed : schema.IsClosed) (hid : (schema.get? id).isSome = true) :
    Resolves (MonadExcept.ofExcept (referenceTo schema id)) n :=
  .ofExcept (fun _ _ => trivial) fun _ he => referenceTo_resolves hclosed hid he

theorem resolves_member (hclosed : schema.IsClosed) (name : String) (c : Computed) :
    Resolves (c.member schema retain name) n := by
  rw [Computed.member]
  split
  · refine .ofExcept_bind (fun a ha => ?_) fun _ he => access_resolves he
    refine (resolves_referenceTo hclosed (isSome_of_access hclosed ha)).bind fun _ x _ => ?_
    exact .fresh (.pure trivial)
  · exact .throw rfl

variable {scope : Scope}

theorem resolves_field (hclosed : schema.IsClosed) (name : String) : Resolves (scope.field schema retain name) n := by
  rw [Scope.field]
  refine .ite (fun _ => .throw rfl) fun _ => ?_
  split
  · exact .ite (fun _ => .pure trivial) fun _ => .throw rfl
  · exact resolves_member hclosed name _
  · exact .throw rfl

theorem resolves_current : Resolves (scope.current retain) n := by
  rw [Scope.current]
  refine .ite (fun _ => .throw rfl) fun _ => ?_
  split
  · exact .throw rfl
  · exact .ite (fun _ => .pure trivial) fun _ => resolves_unwrap _

theorem resolves_alike (a b : Computed) : Resolves (alike a b) n := by
  refine .ite (fun _ => ?_) fun _ => .ite (fun _ => ?_) fun _ => ?_
  · exact (resolves_toText a).bind fun _ a _ => (resolves_toText b).bind fun _ b _ => .pure trivial
  · exact (resolves_toNumber _ a).bind fun _ a _ => (resolves_toNumber _ b).bind fun _ b _ => .pure trivial
  · exact (yields_dereference a).bind fun _ a _ => (yields_dereference b).bind fun _ b _ => .pure trivial

theorem resolves_comparison (op : Query.Comparison) (a b : Computed) : Resolves (comparison op a b) n := by
  rw [comparison]
  split
  · exact .throw rfl
  · exact (resolves_alike a b).bind fun _ p _ => .fresh (.pure trivial)

theorem resolves_condition (operator : String) (c : Computed) : Resolves (condition operator c) n :=
  .ite (fun _ => (yields_dereference c).resolves) fun _ => .throw rfl

theorem resolves_negation (c : Computed) : Resolves (negation c) n :=
  (resolves_condition _ c).bind fun _ _ _ => .fresh (.pure trivial)

theorem resolves_literal (l : Query.Literal) : Resolves (literal l) n := by
  rw [literal]
  split
  · exact .throw rfl
  · exact .fresh (.pure trivial)

theorem resolves_lengthOf (c : Computed) : Resolves (lengthOf c) n := by
  rw [lengthOf]
  split
  · exact .pure_bind (.fresh (.pure trivial))
  · exact .pure_bind (.fresh (.pure trivial))
  · exact .throw_bind rfl

theorem resolves_keysOf (c : Computed) : Resolves (keysOf schema c) n := by
  rw [keysOf]
  split
  · exact .pure_bind (.fresh (.pure trivial))
  · exact .fresh (.pure_bind (.fresh (.pure trivial)))
  · exact .throw_bind rfl

theorem resolves_containsIn (subject search : Computed) : Resolves (containsIn subject search) n := by
  rw [containsIn]
  refine .unlessStopped rfl fun _ => .fresh ?_
  split
  · refine .unlessStopped rfl fun _ => (resolves_toText subject).bind fun _ _ _ => ?_
    exact (resolves_toText search).bind fun _ _ _ => .pure trivial
  · refine .unlessStopped rfl fun _ => ?_
    dsimp only
    split
    · exact .pure_bind (.fresh ((resolves_alike _ search).bind fun _ _ _ => .pure trivial))
    · exact .throw_bind rfl
  · exact .throw rfl

theorem resolves_call (f : Builtin) (name : String) (args : List Computed) : Resolves (f.call schema name args) n := by
  unfold Builtin.call
  split
  · exact resolves_lengthOf _
  · exact resolves_keysOf _
  · exact resolves_containsIn _ _
  · exact .throw rfl

theorem resolves_allAlike (shape : ValueShape) : Resolves (allAlike shape cs) n := by
  refine .ite (fun _ => ?_) fun _ => .ite (fun _ => ?_) fun _ => .ite (fun _ => ?_) fun _ => .pure trivial
  · exact (Yields.mapM fun c _ _ => resolves_toText c).resolves
  · exact (Yields.mapM fun c _ _ => resolves_toNumber _ c).resolves
  · exact (Yields.mapM fun c _ _ => (yields_dereference c).resolves).resolves

theorem resolves_allOptions : Resolves (allOptions cs) n := by
  refine .ite (fun _ => ?_) fun _ => .pure trivial
  refine (Yields.mapM (R := fun _ => True) fun c _ _ => ?_).resolves
  exact .ite (fun _ => .pure trivial) fun _ => .fresh (.pure trivial)

theorem resolves_listOf (cs : List Computed) : Resolves (listOf cs) n := by
  cases cs with
  | nil => exact .throw rfl
  | cons first rest =>
    rw [listOf]
    refine .unlessStopped rfl fun _ => (resolves_allAlike _).bind fun _ as _ => ?_
    exact resolves_allOptions.bind fun _ bs _ => .unlessStopped rfl fun _ => .fresh (.pure trivial)

/-! ### Projections -/

/-- What is evaluated on a value comes to no missing shape. -/
abbrev ResolvesOn (f : Body) : Prop := ∀ b n, Resolves (f b) n

variable {body : Option Body} {f : Body}

theorem resolves_apply (hf : ResolvesOn f) (left : Computed) : Resolves (apply f left) n := by
  rw [apply]
  split
  · exact .fresh ((hf _ _).bind fun _ r _ => .fresh (.pure trivial))
  · exact (hf _ _).bind fun _ r _ => .pure trivial

theorem resolves_elements (left : Computed) : Resolves (elements left) n := by
  rw [elements]
  split
  · exact .pure trivial
  · exact .throw rfl

theorem resolves_projection (hbody : ∀ f ∈ body, ResolvesOn f) (left : Computed) :
    Resolves (projection body left) n := by
  refine (resolves_elements left).bind fun _ x _ => ?_
  cases body with
  | none => exact .pure trivial
  | some f => exact .fresh ((hbody f rfl _ _).bind fun _ r _ => .fresh (.pure trivial))

theorem resolves_filtered (query : Expr) (hcondition : ResolvesOn f) (hbody : ∀ f ∈ body, ResolvesOn f)
    (left : Computed) : Resolves (filtered query f body left) n := by
  refine (resolves_elements left).bind fun _ x _ => .fresh ((hcondition _ _).bind fun _ c _ => ?_)
  refine .unlessStopped rfl fun _ => (yields_dereference c).bind fun _ c _ => ?_
  cases body with
  | none => exact .pure_bind (.fresh (.pure trivial))
  | some f => exact (hbody f rfl _ _).bind fun _ r _ => .fresh (.pure trivial)

theorem resolves_valueProjection (hclosed : schema.IsClosed) (hbody : ∀ f ∈ body, ResolvesOn f) (left : Computed) :
    Resolves (valueProjection schema body left) n := by
  refine .ofExcept_bind (fun id hid => ?_) fun _ he => ?_
  · refine (resolves_referenceTo hclosed (isSome_of_valueShape hclosed hid)).bind fun _ x _ => .fresh ?_
    cases body with
    | none => exact .pure trivial
    | some f => exact .fresh ((hbody f rfl _ _).bind fun _ r _ => .pure trivial)
  · rw [valueShape] at he
    split at he <;> cases he <;> rfl

theorem resolves_flattened (left : Computed) : Resolves (flattened left) n := by
  refine (resolves_elements left).bind fun _ x _ => ?_
  dsimp only
  split
  · exact .fresh (.pure trivial)
  · exact .pure trivial

/-! ### Queries -/

namespace Settings

variable {s : Settings} {observe : Observer}

private theorem resolves_observed (hobserve : ∀ e c n, Resolves (observe e c) n) {e : Expr} {m : Naming Computed}
    (hm : Resolves m n) : Resolves (do let c ← m; observe e c; return s.remark e c) n :=
  hm.bind fun _ c _ => (hobserve e c _).bind fun _ _ _ => .pure trivial

mutual

/-- No query comes to a shape that is missing, whatever is in scope. -/
theorem resolves_compileWith (hclosed : s.schema.IsClosed) (hobserve : ∀ e c n, Resolves (observe e c) n) :
    (e : Expr) → {depth : Nat} → {retain : Bool} → {scope : Scope} → {n : Namer} →
    Resolves (s.compileWith observe scope depth retain e) n
  | .field name, depth, retain, scope, n => by
    rw [compileWith]
    exact .unlessStopped rfl fun _ => resolves_observed hobserve (resolves_field hclosed name)
  | .sub l r, depth, retain, scope, n => by
    rw [compileWith]
    refine .unlessStopped rfl fun _ => (resolves_compileWith hclosed hobserve l).bind fun _ left _ => ?_
    exact resolves_observed hobserve (resolves_apply (fun _ _ => resolves_compileWith hclosed hobserve r) left)
  | .pipe l r, depth, retain, scope, n => by
    rw [compileWith]
    refine .unlessStopped rfl fun _ => (resolves_compileWith hclosed hobserve l).bind fun _ left _ => ?_
    refine (resolves_unwrap left).bind fun _ left _ => ?_
    exact resolves_observed hobserve (resolves_apply (fun _ _ => resolves_compileWith hclosed hobserve r) left)
  | .compare op l r, depth, retain, scope, n => by
    rw [compileWith]
    refine .unlessStopped rfl fun _ => (resolves_compileWith hclosed hobserve l).bind fun _ left _ => ?_
    refine (resolves_compileWith hclosed hobserve r).bind fun _ right _ => ?_
    exact resolves_observed hobserve (resolves_comparison op left right)
  | .and l r, depth, retain, scope, n | .or l r, depth, retain, scope, n => by
    rw [compileWith]
    refine .unlessStopped rfl fun _ => (resolves_compileWith hclosed hobserve l).bind fun _ left _ => ?_
    refine (resolves_condition _ left).bind fun _ left _ => ?_
    refine (resolves_compileWith hclosed hobserve r).bind fun _ right _ => ?_
    refine (resolves_condition _ right).bind fun _ right _ => ?_
    exact resolves_observed hobserve (yields_connective _ left right).resolves
  | .not e, depth, retain, scope, n => by
    rw [compileWith]
    refine .unlessStopped rfl fun _ => (resolves_compileWith hclosed hobserve e).bind fun _ c _ => ?_
    exact resolves_observed hobserve (resolves_negation c)
  | .literal l, depth, retain, scope, n => by
    rw [compileWith]
    exact .unlessStopped rfl fun _ => resolves_observed hobserve (resolves_literal l)
  | .list es, depth, retain, scope, n => by
    rw [compileWith]
    refine .unlessStopped rfl fun _ => (resolves_compileAllWith hclosed hobserve es).bind fun _ cs _ => ?_
    exact resolves_observed hobserve (resolves_listOf cs)
  | .call name args, depth, retain, scope, n => by
    rw [compileWith]
    refine .unlessStopped rfl fun _ => ?_
    dsimp only
    cases Builtin.ofName? name with
    | none => exact resolves_observed hobserve (.throw rfl)
    | some f =>
      refine .ite (fun _ => resolves_observed hobserve (.throw rfl)) fun _ => ?_
      refine (resolves_compileAllWith hclosed hobserve args).bind fun _ cs _ => ?_
      exact resolves_observed hobserve (resolves_call f name cs)
  | .project l r, depth, retain, scope, n => by
    rw [compileWith]
    refine .unlessStopped rfl fun _ => (resolves_compileWith hclosed hobserve l).bind fun _ left _ => ?_
    refine resolves_observed hobserve (resolves_projection (forall_unless fun _ _ => ?_) left)
    exact resolves_compileWith hclosed hobserve r
  | .filter l r c, depth, retain, scope, n => by
    rw [compileWith]
    refine .unlessStopped rfl fun _ => (resolves_compileWith hclosed hobserve l).bind fun _ left _ => ?_
    refine resolves_observed hobserve (resolves_filtered c (fun _ _ => ?_) (forall_unless fun _ _ => ?_) left)
    · exact resolves_compileWith hclosed hobserve c
    · exact resolves_compileWith hclosed hobserve r
  | .projectValues l r, depth, retain, scope, n => by
    rw [compileWith]
    refine .unlessStopped rfl fun _ => (resolves_compileWith hclosed hobserve l).bind fun _ left _ => ?_
    refine resolves_observed hobserve (resolves_valueProjection hclosed (forall_unless fun _ _ => ?_) left)
    exact resolves_compileWith hclosed hobserve r
  | .flatten e, depth, retain, scope, n => by
    rw [compileWith]
    refine .unlessStopped rfl fun _ => (resolves_compileWith hclosed hobserve e).bind fun _ left _ => ?_
    exact resolves_observed hobserve (resolves_flattened left)
  | .current, depth, retain, scope, n => by
    rw [compileWith]
    exact .unlessStopped rfl fun _ => resolves_observed hobserve resolves_current
  | .index _ _, depth, retain, scope, n | .slice _ _ _ _, depth, retain, scope, n | .hash _, depth, retain, scope, n
  | .reference _, depth, retain, scope, n => by
    rw [compileWith]
    exact .unlessStopped rfl fun _ => resolves_observed hobserve (.throw rfl)

theorem resolves_compileAllWith (hclosed : s.schema.IsClosed) (hobserve : ∀ e c n, Resolves (observe e c) n) :
    (es : List Expr) → {depth : Nat} → {retain : Bool} → {scope : Scope} → {n : Namer} →
    Resolves (s.compileAllWith observe scope depth retain es) n
  | [], depth, retain, scope, n => by
    rw [compileAllWith]
    exact .pure trivial
  | e :: es, depth, retain, scope, n => by
    rw [compileAllWith]
    refine (resolves_compileWith hclosed hobserve e).bind fun _ c _ => ?_
    exact (resolves_compileAllWith hclosed hobserve es).bind fun _ cs _ => .pure trivial

end

end Settings

/-! ### Objects -/

/-- Whether there is a structure or a map behind every object, also inside arrays. -/
def ValueShape.isFounded (schema : Schema) : ValueShape → Bool
  | array _ m => m.isFounded schema
  | object id =>
    match id.bind schema.get? with
    | some (.record _) | some (.map _) => true
    | _ => false
  | _ => true

theorem Coherent.isFounded {shape : ValueShape} (h : Coherent schema shape t) : shape.isFounded schema = true := by
  induction shape generalizing t with
  | array id m ih =>
    obtain ⟨u, -, h⟩ := h
    exact ih h
  | object id =>
    -- only structures and maps have types of objects
    have ht : id.bind (objectType? schema) = some t.bare := h
    obtain ⟨id, rfl, hobject⟩ := Option.bind_eq_some_iff.1 ht
    rw [objectType?] at hobject
    rw [ValueShape.isFounded, Option.bind_some]
    cases hs : schema.get? id with
    | none =>
      rw [hs] at hobject
      cases hobject
    | some s =>
      rw [hs] at hobject
      cases s with
      | record ms | map v => rfl
      | _ => cases hobject
  | _ => rfl

/-- The cause is neither that a shape is missing, nor that the object of a member access is no structure and no map. -/
structure Cause.IsGrounded (cause : Cause) : Prop where
  known : cause.isUnknownShape = false
  object : cause ≠ .mismatch .object

theorem referenceTo_isGrounded (hclosed : schema.IsClosed) (hid : (schema.get? id).isSome = true)
    (h : referenceTo schema id = .error cause) : cause.IsGrounded := by
  refine ⟨referenceTo_resolves hclosed hid h, ?_⟩
  have hF : Pardons (· ≠ .mismatch .object) := fun c hc heq => by
    rw [heq] at hc
    cases hc
  have hyields : Yields (MonadExcept.ofExcept (referenceTo schema id)) ⟨0⟩ (fun _ x => x.2.Held)
      (· ≠ .mismatch .object) := yields_referenceTo hF id
  rwa [h] at hyields

variable {earlier : Scope} {root : Root} {roots : List Root}

theorem nameable_isGrounded (h : nameable t = .error cause) : cause.IsGrounded := by
  rw [nameable] at h
  split at h <;> cases h
  exact ⟨rfl, fun h => by cases h⟩

theorem parameter_isGrounded (hclosed : schema.IsClosed) (hroot : (schema.get? root.shape).isSome = true)
    (h : parameter schema earlier root = .error cause) : cause.IsGrounded := by
  have hchecked {ident : Ident} (h : (do
      let b ← Binding.ofShape schema root.name ident root.shape
      let _ ← nameable b.ty
      return b) = .error cause) : cause.IsGrounded := by
    obtain h | ⟨b, -, h⟩ := exists_of_bind_error h
    · obtain h | ⟨x, -, h⟩ := exists_of_bind_error h
      · exact referenceTo_isGrounded hclosed hroot h
      · cases h
    obtain h | ⟨_, -, h⟩ := exists_of_bind_error h
    · exact nameable_isGrounded h
    · cases h
  rw [parameter] at h
  split at h
  · split at h
    · cases h
      exact ⟨rfl, fun h => by cases h⟩
    · exact hchecked h
  · split at h
    · exact hchecked h
    · cases h
      exact ⟨rfl, fun h => by cases h⟩

theorem parametersFrom_isGrounded (hclosed : schema.IsClosed)
    (hroots : ∀ r ∈ roots, (schema.get? r.shape).isSome = true)
    (h : parametersFrom schema earlier roots = .error cause) : cause.IsGrounded := by
  induction roots generalizing earlier with
  | nil => cases h
  | cons r rs ih =>
    obtain ⟨hr, hrs⟩ := List.forall_mem_cons.1 hroots
    rw [parametersFrom] at h
    obtain h | ⟨b, -, h⟩ := exists_of_bind_error h
    · exact parameter_isGrounded hclosed hr h
    · exact ih hrs h

namespace Settings

variable {s : Settings} {scope : Scope} {e : Expr} {f : Failure}

/-- The marking of values with an object behind which there is neither a structure nor a map. -/
def unfounded (schema : Schema) : Mark := fun _ shape _ => !shape.isFounded schema

theorem isQuiet_unfounded (hscope : ∀ b ∈ scope, b.IsSound s.schema) (e : Expr) :
    s.IsQuiet (unfounded s.schema) scope e := by
  intro alarm
  have hsame : SameOn s.schema (stopAt (unfounded s.schema) alarm) fun _ _ => return := by
    intro e c hc
    rw [stopAt, unfounded, hc.isFounded]
    rfl
  rw [run, runWith, runWith, (agree_compileWith hsame e fun b hb => (hscope b hb).coherent).eq]

theorem run_isGrounded (hclosed : s.schema.IsClosed) (hscope : ∀ b ∈ scope, b.IsSound s.schema)
    (h : s.run scope e = .error f) : f.cause.IsGrounded := by
  constructor
  · have hresolves : Resolves (s.compileWith (fun _ _ => return) scope 0 false e) ⟨0⟩ :=
      resolves_compileWith hclosed (fun _ _ _ => .pure trivial) e
    exact cause_of_runWith hresolves h
  · let nothing : Mark := fun _ _ _ => false
    have hF : Pardons (· ≠ .mismatch .object) := fun c hc heq => by
      rw [heq] at hc
      cases hc
    have halarm : MayRaise nothing (· ≠ .mismatch .object) (.mismatch .reference) := fun _ _ _ _ _ => nofun
    have hyields : Yields (s.compileWith (stopAt nothing (.mismatch .reference)) scope 0 false e) ⟨0⟩
        (fun _ => IsPassed nothing false e) (· ≠ .mismatch .object) :=
      yields_compileWith hF halarm e (fun _ _ _ _ _ _ _ _ _ => nofun) (fun _ _ => nofun) hscope
    exact cause_of_runWith hyields h

theorem function_isGrounded {name : String} (hclosed : s.schema.IsClosed)
    (hroots : ∀ r ∈ roots, (s.schema.get? r.shape).isSome = true) (h : s.function name e roots = .error f) :
    f.cause.IsGrounded := by
  rw [function] at h
  obtain h | ⟨ident, -, h⟩ := exists_of_bind_error h
  · obtain ⟨cause, hcause, rfl⟩ := exists_of_mapError_error h
    split at hcause <;> cases hcause
    exact ⟨rfl, fun h => by cases h⟩
  obtain h | ⟨params, hparams, h⟩ := exists_of_bind_error h
  · obtain ⟨cause, hcause, rfl⟩ := exists_of_mapError_error h
    exact parametersFrom_isGrounded hclosed hroots hcause
  obtain h | ⟨c, -, h⟩ := exists_of_bind_error h
  · refine run_isGrounded hclosed (Binding.forall_isSound_of_ofShape ?_) h
    refine forall_of_parametersFrom (fun earlier root b hb => ?_) (fun b hb => absurd hb List.not_mem_nil)
      (ok_of_mapError_ok hparams)
    exact ⟨root.name, b.ident, root.shape, (ofShape_of_parameter hb).2⟩
  obtain h | ⟨t, -, h⟩ := exists_of_bind_error h
  · obtain ⟨cause, hcause, rfl⟩ := exists_of_mapError_error h
    exact nameable_isGrounded hcause
  · cases h

/-- With a schema that is loaded, nothing fails because a shape is missing: not classifying or typing a shape of the
schema, not compiling a query on values of the schema, and not making a function for one.  Each value that comes up has
a structure or a map behind each object, so that there is a way to its members. -/
theorem founded_of_ofText {text : String} (h : Schema.ofText text = .ok s.schema) :
    (∀ id cause, (s.schema.get? id).isSome = true →
      classify s.schema id = .error cause ∨ typeOf s.schema id = .error cause → cause.isUnknownShape = false) ∧
    (∀ scope e, (∀ b ∈ scope, ∃ name ident id, Binding.ofShape s.schema name ident id = .ok b) →
      (∀ f, s.run scope e = .error f → f.cause.IsGrounded) ∧
      (∀ c, s.run scope e = .ok c → c.shape.isFounded s.schema = true) ∧ s.IsQuiet (unfounded s.schema) scope e) ∧
    ∀ name e roots f, (∀ r ∈ roots, (s.schema.get? r.shape).isSome = true) → s.function name e roots = .error f →
      f.cause.IsGrounded := by
  have hclosed := Schema.isClosed_of_ofText h
  refine ⟨fun id cause hid => ?_, fun scope e hscope => ?_, fun name e roots f hroots => ?_⟩
  · rintro (h | h)
    · exact (blames_isUnknownShape hclosed).classifyWithin hid h
    · exact (blames_isUnknownShape hclosed).typeWithin hid h
  · have hsound := Binding.forall_isSound_of_ofShape hscope
    exact ⟨fun f => run_isGrounded hclosed hsound, fun c hc => (held_of_run hsound hc).2.isFounded,
      isQuiet_unfounded hsound e⟩
  · exact function_isGrounded hclosed hroots

end Settings

/-- Titles of a library, and photos, which queries cannot select. -/
private def libraries : Schema where
  shapes := [(⟨"Library"⟩, .map ⟨"Title"⟩), (⟨"Title"⟩, .string), (⟨"Photo"⟩, .blob)]

/-- A reference to a library. -/
private def library : Binding := ⟨none, ⟨"root", false⟩, .object (some ⟨"Library"⟩), .ref (.map .string .string)⟩

theorem founded_of_ofText_library : Schema.ofText libraries.write = .ok libraries ∧
    (∃ cause, classify libraries ⟨"Photo"⟩ = .error cause ∧ cause.isUnknownShape = false) ∧
    (∀ b ∈ [library], ∃ name ident id, Binding.ofShape libraries name ident id = .ok b) ∧
    (∃ f, (Settings.ofSchema libraries).run [library] (.flatten .current) = .error f ∧ f.cause.IsGrounded) ∧
    (∃ c, (Settings.ofSchema libraries).run [library] .current = .ok c ∧ c.shape.isFounded libraries = true) ∧
    ∃ f, (Settings.ofSchema libraries).function "f" .current [⟨none, ⟨"Photo"⟩⟩] = .error f ∧ f.cause.IsGrounded := by
  have hloaded : Schema.ofText libraries.write = .ok libraries := by cbv
  have hphoto : (classify libraries ⟨"Photo"⟩).isOk = false := by decide +kernel
  have hscope : ∀ b ∈ [library], ∃ name ident id, Binding.ofShape libraries name ident id = .ok b :=
    List.forall_mem_singleton.2 ⟨none, ⟨"root", false⟩, ⟨"Library"⟩, rfl⟩
  have hflatten : ((Settings.ofSchema libraries).run [library] (.flatten .current)).isOk = false := by decide +kernel
  have hcurrent : ((Settings.ofSchema libraries).run [library] .current).isOk = true := by decide +kernel
  have hroot : ((Settings.ofSchema libraries).function "f" .current [⟨none, ⟨"Photo"⟩⟩]).isOk = false := by
    decide +kernel
  obtain ⟨cause, hcause⟩ := exists_of_not_isOk hphoto
  obtain ⟨f, hf⟩ := exists_of_not_isOk hflatten
  obtain ⟨c, hc⟩ := exists_of_isOk hcurrent
  obtain ⟨f', hf'⟩ := exists_of_not_isOk hroot
  obtain ⟨hshapes, hqueries, hfunctions⟩ := Settings.founded_of_ofText (s := .ofSchema libraries) hloaded
  refine ⟨hloaded, ⟨cause, hcause, ?_⟩, hscope, ⟨f, hf, ?_⟩, ⟨c, hc, ?_⟩, f', hf', ?_⟩
  · exact hshapes _ _ (by decide) (.inl hcause)
  · exact (hqueries _ _ hscope).1 f hf
  · exact (hqueries _ _ hscope).2.1 c hc
  · exact hfunctions _ _ _ f' (List.forall_mem_singleton.2 (by decide)) hf'

/-- In a schema that would not be loaded, what is missing is come upon. -/
example : (classify ⟨[(⟨"Titles"⟩, .list ⟨"Title"⟩)]⟩ ⟨"Titles"⟩).mapError Cause.isUnknownShape = .error true := by
  decide +kernel

end Traversal

end Signpost
