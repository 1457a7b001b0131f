import Signpost.Proofs.Except
import Signpost.Proofs.Query.Parts
import Signpost.Proofs.Traversal.Yielding
import Signpost.Samples.Inventory

/-!
# What compiled queries consist of

Traversals support some kinds of queries only (`Expr.isSupported`).  A query that is compiled has no other query
inside it, at any depth and in any place (`isSupported_of_run`): whatever an operation does with its parts, it gives
something only after all of them are compiled.
-/

namespace Signpost.Query

/-- Whether the literal is a scalar with a value. -/
def Literal.isScalar : Literal → Bool
  | .bool _ | .int _ | .string _ => true
  | .float x => x.isFinite
  | .null | .array _ | .object _ => false

namespace Expr

/-- The functions that a query may call, with the numbers of their arguments. -/
def callable : List (String × Nat) := [("length", 1), ("keys", 1), ("contains", 2)]

/-- Whether traversals support a query of this kind, whatever is inside it. -/
def isSupported : Expr → Bool
  | .index _ _ | .slice _ _ _ _ | .hash _ | .reference _ => false
  | .list es => !es.isEmpty
  | .literal l => l.isScalar
  | .call name args => (name, args.length) ∈ callable
  | .field _ | .sub _ _ | .pipe _ _ | .project _ _ | .filter _ _ _ | .projectValues _ _ | .flatten _
  | .compare _ _ _ | .and _ _ | .or _ _ | .not _ | .current => true

end Expr

end Signpost.Query

namespace Signpost.Traversal

open Query (Expr)

variable {P : Prop} {left : Computed} {body : Option Body}

/-! ### Parts that are evaluated

An operation on values succeeds only if what is evaluated on them does. -/

/-- What holds if the body succeeds on some value; it holds in any case if there is no body. -/
def Needs (body : Option Body) (P : Prop) : Prop :=
  match body with
  | none => P
  | some f => ∀ b, Ensures (f b) fun _ => P

theorem ensures_apply {right : Body} (h : ∀ b, Ensures (right b) fun _ => P) :
    Ensures (apply right left) fun _ => P := by
  unfold apply
  split
  · exact .after fun item => (h _).bind fun r hr => .after fun name => .pure hr
  · exact (h _).bind fun r hr => .pure hr

theorem ensures_projection (h : Needs body P) : Ensures (projection body left) fun _ => P := by
  refine .after fun x => ?_
  cases body with
  | none => exact .pure h
  | some f => exact .after fun item => (h _).bind fun r hr => .after fun name => .pure hr

theorem ensures_filtered {Q : Prop} {condition : Body} (e : Expr) (hc : ∀ b, Ensures (condition b) fun _ => Q)
    (h : Needs body P) : Ensures (filtered e condition body left) fun _ => Q ∧ P := by
  refine .after fun x => .after fun item => (hc _).bind fun c hq => .unlessStopped fun _ => .after fun c => ?_
  cases body with
  | none => exact .pure_bind (.after fun name => .pure ⟨hq, h⟩)
  | some f => exact (h _).bind fun r hr => .after fun name => .pure ⟨hq, hr⟩

theorem ensures_valueProjection {schema : Schema} (h : Needs body P) :
    Ensures (valueProjection schema body left) fun _ => P := by
  refine .after fun id => .after fun x => .after fun name => ?_
  cases body with
  | none => exact .pure h
  | some f => exact .after fun item => (h _).bind fun r hr => .pure hr

private theorem scalar_of_literal (l : Query.Literal) : Ensures (literal l) fun _ => l.isScalar = true := by
  unfold literal constant?
  cases l with
  | null | array _ | object _ => exact .throw _
  | float x =>
    cases x with
    | finite negative m => exact .after fun name => .pure rfl
    | _ => exact .throw _
  | _ => exact .after fun name => .pure rfl

private theorem nonempty_of_listOf (cs : List Computed) : Ensures (listOf cs) fun _ => cs ≠ [] := by
  cases cs with
  | nil => exact .throw _
  | cons c cs => exact ⟨fun _ => List.cons_ne_nil c cs⟩

private theorem mem_callable {name : String} {f : Builtin} (h : Builtin.ofName? name = some f) :
    (name, f.arity) ∈ Expr.callable := by
  unfold Builtin.ofName? at h
  split at h <;> cases h <;> decide

namespace Settings

variable {s : Settings} {observe : Observer}

/-- Observing a value and remarking on it changes nothing of what has been evaluated. -/
theorem ensures_observed {e : Expr} {m : Naming Computed} (hm : Ensures m fun _ => P) :
    Ensures (do let c ← m; observe e c; return s.remark e c) fun _ => P :=
  hm.bind fun _ h => .after fun _ => .pure h

/-- Nothing but the current value is not evaluated on the elements of a collection. -/
private theorem needs_right {f : Body} {r : Expr} (h : ∀ b, Ensures (f b) fun _ => ∀ x ∈ r.parts, x.isSupported = true) :
    Needs (if r.isCurrent then none else some f) (∀ x ∈ r.parts, x.isSupported = true) := by
  cases r with
  | current =>
    intro x hx
    rw [List.mem_singleton.1 hx]
    rfl
  | _ => exact h

mutual

theorem supported_compileWith : (e : Expr) → {scope : Scope} → {depth : Nat} → {retain : Bool} →
    Ensures (s.compileWith observe scope depth retain e) fun _ => ∀ x ∈ e.parts, x.isSupported = true
  | .field _, scope, depth, retain | .current, scope, depth, retain => by
    rw [compileWith]
    refine .unlessStopped fun _ => ensures_observed ⟨fun _ => ?_⟩
    simp [Expr.parts, Expr.isSupported]
  | .sub l r, scope, depth, retain => by
    rw [compileWith]
    refine .unlessStopped fun _ => (supported_compileWith l).bind fun left hl => ensures_observed ?_
    refine (ensures_apply fun b => supported_compileWith r).mono fun _ hr => ?_
    simpa [Expr.parts, Expr.isSupported, or_imp, forall_and] using ⟨hl, hr⟩
  | .pipe l r, scope, depth, retain => by
    rw [compileWith]
    refine .unlessStopped fun _ => (supported_compileWith l).bind fun left hl => .after fun left => ensures_observed ?_
    refine (ensures_apply fun b => supported_compileWith r).mono fun _ hr => ?_
    simpa [Expr.parts, Expr.isSupported, or_imp, forall_and] using ⟨hl, hr⟩
  | .compare op l r, scope, depth, retain => by
    rw [compileWith]
    refine .unlessStopped fun _ => (supported_compileWith l).bind fun left hl => ?_
    refine (supported_compileWith r).bind fun right hr => ensures_observed ⟨fun _ => ?_⟩
    simpa [Expr.parts, Expr.isSupported, or_imp, forall_and] using ⟨hl, hr⟩
  | .and l r, scope, depth, retain | .or l r, scope, depth, retain => by
    rw [compileWith]
    refine .unlessStopped fun _ => (supported_compileWith l).bind fun left hl => .after fun left => ?_
    refine (supported_compileWith r).bind fun right hr => .after fun right => ?_
    refine ensures_observed ⟨fun _ => ?_⟩
    simpa [Expr.parts, Expr.isSupported, or_imp, forall_and] using ⟨hl, hr⟩
  | .not e, scope, depth, retain | .flatten e, scope, depth, retain => by
    rw [compileWith]
    refine .unlessStopped fun _ => (supported_compileWith e).bind fun c he => ?_
    refine ensures_observed ⟨fun _ => ?_⟩
    simpa [Expr.parts, Expr.isSupported] using he
  | .literal l, scope, depth, retain => by
    rw [compileWith]
    refine .unlessStopped fun _ => ensures_observed ((scalar_of_literal l).mono fun _ hl => ?_)
    simpa [Expr.parts, Expr.isSupported] using hl
  | .list es, scope, depth, retain => by
    rw [compileWith]
    refine .unlessStopped fun _ => (supported_compileAllWith es).bind fun cs hes => ?_
    refine ensures_observed ((nonempty_of_listOf cs).mono fun _ hcs => ?_)
    have hne : es ≠ [] := by
      rintro rfl
      exact hcs (List.length_eq_zero_iff.1 hes.1)
    simpa [Expr.parts, Expr.isSupported, hne] using hes.2
  | .call name args, scope, depth, retain => by
    rw [compileWith]
    refine .unlessStopped fun _ => ?_
    dsimp only
    cases hf : Builtin.ofName? name with
    | none => exact ensures_observed (.throw _)
    | some f =>
      refine .ite (fun _ => ensures_observed (.throw _)) fun hlen => ?_
      refine (supported_compileAllWith args).bind fun cs hargs => ?_
      refine ensures_observed ⟨fun _ => ?_⟩
      have hmem : (name, args.length) ∈ Expr.callable := by
        rw [Decidable.not_not.1 hlen]
        exact mem_callable hf
      simpa [Expr.parts, Expr.isSupported, hmem] using hargs.2
  | .project l r, scope, depth, retain => by
    rw [compileWith]
    refine .unlessStopped fun _ => (supported_compileWith l).bind fun left hl => ensures_observed ?_
    refine (ensures_projection (needs_right fun b => supported_compileWith r)).mono fun _ hr => ?_
    simpa [Expr.parts, Expr.isSupported, or_imp, forall_and] using ⟨hl, hr⟩
  | .filter l r c, scope, depth, retain => by
    rw [compileWith]
    refine .unlessStopped fun _ => (supported_compileWith l).bind fun left hl => ensures_observed ?_
    refine (ensures_filtered c (fun b => supported_compileWith c)
      (needs_right fun b => supported_compileWith r)).mono fun _ hcr => ?_
    simpa [Expr.parts, Expr.isSupported, or_imp, forall_and] using ⟨hl, hcr.2, hcr.1⟩
  | .projectValues l r, scope, depth, retain => by
    rw [compileWith]
    refine .unlessStopped fun _ => (supported_compileWith l).bind fun left hl => ensures_observed ?_
    refine (ensures_valueProjection (needs_right fun b => supported_compileWith r)).mono fun _ hr => ?_
    simpa [Expr.parts, Expr.isSupported, or_imp, forall_and] using ⟨hl, hr⟩
  | .index _ _, scope, depth, retain | .slice _ _ _ _, scope, depth, retain | .hash _, scope, depth, retain
  | .reference _, scope, depth, retain => by
    rw [compileWith]
    exact .unlessStopped fun _ => ensures_observed (.throw _)

theorem supported_compileAllWith : (es : List Expr) → {scope : Scope} → {depth : Nat} → {retain : Bool} →
    Ensures (s.compileAllWith observe scope depth retain es) fun cs =>
      cs.length = es.length ∧ ∀ x ∈ Expr.partsOf es, x.isSupported = true
  | [], scope, depth, retain => by
    rw [compileAllWith]
    exact .pure ⟨rfl, fun x hx => absurd hx List.not_mem_nil⟩
  | e :: es, scope, depth, retain => by
    rw [compileAllWith]
    refine (supported_compileWith e).bind fun c he => (supported_compileAllWith es).bind fun cs hes => .pure ⟨?_, ?_⟩
    · rw [List.length_cons, List.length_cons, hes.1]
    · simpa [Expr.partsOf, or_imp, forall_and] using ⟨he, hes.2⟩

end

/-- Whatever the schema, the scope and the limit are, nothing inside a query that is compiled is of a kind that
traversals do not support. -/
theorem isSupported_of_run {scope : Scope} {e : Expr} {c : Computed} (h : s.run scope e = .ok c) :
    ∀ x ∈ e.parts, x.isSupported = true := by
  obtain ⟨n, hrun⟩ := exists_of_runWith_ok h
  exact (supported_compileWith e).post hrun

end Settings

open Samples (inventory output)

/-- The names of the items that are tagged as new. -/
def newNames : Expr :=
  .filter (.field "items") (.list [.field "name"]) (.call "contains" [.field "tags", .literal (.string "new")])

theorem isSupported_of_run_newNames : ∃ c, (Settings.ofSchema inventory).run [output] newNames = .ok c ∧
    ∀ x ∈ newNames.parts, x.isSupported = true := by
  have hok : ((Settings.ofSchema inventory).run [output] newNames).isOk = true := by decide +kernel
  obtain ⟨c, hc⟩ := exists_of_isOk hok
  exact ⟨c, hc, Settings.isSupported_of_run hc⟩

end Signpost.Traversal
