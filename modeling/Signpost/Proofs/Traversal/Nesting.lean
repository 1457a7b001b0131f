import Mathlib.Order.Filter.AtTopBot.Basic
import Signpost.Proofs.Traversal.Supported

/-!
# Queries inside queries

How deep a query stands inside others is all the same for what it is compiled to, as long as there is room for the
queries inside it (`sameWithin`).  A query that is compiled had that room (`within_compileWith`).  So the limit on
nesting decides only whether a query is compiled, and admits exactly those that are at most so high
(`run_limited_ok_iff`).
-/

namespace Signpost.Traversal.Settings

open Query (Expr)

/-- The settings with another limit on nesting. -/
def limited (s : Settings) (limit : Nat) : Settings := { s with maxDepth := limit }

variable {s : Settings} {observe : Observer} {m m' : Nat}

@[simp] theorem maxDepth_limited : (s.limited m).maxDepth = m := rfl

@[simp] theorem schema_limited : (s.limited m).schema = s.schema := rfl

@[simp] theorem remark_limited {e : Expr} {c : Computed} : (s.limited m).remark e c = s.remark e c := rfl

/-- A query comes to the same at both depths, whatever is in scope. -/
abbrev SameAt (s : Settings) (observe : Observer) (d d' : Nat) (e : Expr) : Prop :=
  ∀ scope retain, s.compileWith observe scope d retain e = s.compileWith observe scope d' retain e

/-- A query comes to the same at a depth under a limit as at another depth under another limit. -/
abbrev SameWithin (s : Settings) (observe : Observer) (d m d' m' : Nat) (e : Expr) : Prop :=
  ∀ scope retain,
    (s.limited m).compileWith observe scope d retain e = (s.limited m').compileWith observe scope d' retain e

/-- Each of the queries comes to the same. -/
abbrev AllSameWithin (s : Settings) (observe : Observer) (d m d' m' : Nat) (es : List Expr) : Prop :=
  ∀ scope retain,
    (s.limited m).compileAllWith observe scope d retain es = (s.limited m').compileAllWith observe scope d' retain es

/-- What a projection applies comes to the same if it applies anything. -/
private theorem body_eq {d d' : Nat} {r : Expr} (h : r.isCurrent = false → s.SameWithin observe d m d' m' r) :
    (if r.isCurrent then none else some fun b => (s.limited m).compileWith observe [b] d true r) =
      if r.isCurrent then none else some fun b => (s.limited m').compileWith observe [b] d' true r := by
  split
  · rfl
  · rename_i hr
    simp only [h (Bool.eq_false_iff.2 hr)]

mutual

theorem sameWithin : (e : Expr) → {d m d' m' : Nat} → d + e.height ≤ m → d' + e.height ≤ m' →
    s.SameWithin observe d m d' m' e
  | .sub l r, d, m, d', m', h, h' | .pipe l r, d, m, d', m', h, h' | .compare _ l r, d, m, d', m', h, h'
  | .and l r, d, m, d', m', h, h' | .or l r, d, m, d', m', h, h' => by
    rw [Expr.height] at h h'
    have hl : s.SameWithin observe (d + 1) m (d' + 1) m' l := sameWithin l (by omega) (by omega)
    have hr : s.SameWithin observe (d + 1) m (d' + 1) m' r := sameWithin r (by omega) (by omega)
    intro scope retain
    rw [compileWith, compileWith, maxDepth_limited, maxDepth_limited, if_neg (by omega), if_neg (by omega)]
    simp only [hl, hr, remark_limited]
  | .project l r, d, m, d', m', h, h' | .projectValues l r, d, m, d', m', h, h' => by
    rw [Expr.height] at h h'
    have hl : s.SameWithin observe (d + 1) m (d' + 1) m' l := sameWithin l (by omega) (by omega)
    have hr : r.isCurrent = false → s.SameWithin observe (d + 1) m (d' + 1) m' r := by
      intro hr
      rw [hr, if_neg Bool.false_ne_true] at h h'
      exact sameWithin r (by omega) (by omega)
    intro scope retain
    rw [compileWith, compileWith, maxDepth_limited, maxDepth_limited, if_neg (by omega), if_neg (by omega)]
    simp only [hl, body_eq hr, remark_limited, schema_limited]
  | .filter l r c, d, m, d', m', h, h' => by
    rw [Expr.height] at h h'
    have hl : s.SameWithin observe (d + 1) m (d' + 1) m' l := sameWithin l (by omega) (by omega)
    have hc : s.SameWithin observe (d + 1) m (d' + 1) m' c := sameWithin c (by omega) (by omega)
    have hr : r.isCurrent = false → s.SameWithin observe (d + 1) m (d' + 1) m' r := by
      intro hr
      rw [hr, if_neg Bool.false_ne_true] at h h'
      exact sameWithin r (by omega) (by omega)
    intro scope retain
    rw [compileWith, compileWith, maxDepth_limited, maxDepth_limited, if_neg (by omega), if_neg (by omega)]
    simp only [hl, hc, body_eq hr, remark_limited]
  | .not e, d, m, d', m', h, h' | .flatten e, d, m, d', m', h, h' => by
    rw [Expr.height] at h h'
    have he : s.SameWithin observe (d + 1) m (d' + 1) m' e := sameWithin e (by omega) (by omega)
    intro scope retain
    rw [compileWith, compileWith, maxDepth_limited, maxDepth_limited, if_neg (by omega), if_neg (by omega)]
    simp only [he, remark_limited]
  | .list es, d, m, d', m', h, h' | .call _ es, d, m, d', m', h, h' => by
    rw [Expr.height] at h h'
    have hes : s.AllSameWithin observe (d + 1) m (d' + 1) m' es := allSameWithin es (by omega) (by omega)
    intro scope retain
    rw [compileWith, compileWith, maxDepth_limited, maxDepth_limited, if_neg (by omega), if_neg (by omega)]
    simp only [hes, remark_limited, schema_limited]
  | .field _, _, _, _, _, h, h' | .literal _, _, _, _, _, h, h' | .current, _, _, _, _, h, h'
  | .index _ _, _, _, _, _, h, h' | .slice _ _ _ _, _, _, _, _, h, h' | .hash _, _, _, _, _, h, h'
  | .reference _, _, _, _, _, h, h' => by
    rw [Expr.height] at h h'
    intro scope retain
    rw [compileWith, compileWith, maxDepth_limited, maxDepth_limited, if_neg (by omega), if_neg (by omega)]
    simp only [remark_limited, schema_limited]

theorem allSameWithin : (es : List Expr) → {d m d' m' : Nat} → d + Expr.heightOf es ≤ m →
    d' + Expr.heightOf es ≤ m' → s.AllSameWithin observe d m d' m' es
  | [], _, _, _, _, _, _ => fun _ _ => by rw [compileAllWith, compileAllWith]
  | e :: es, d, m, d', m', h, h' => by
    rw [Expr.heightOf] at h h'
    have he : s.SameWithin observe d m d' m' e := sameWithin e (by omega) (by omega)
    have hes : s.AllSameWithin observe d m d' m' es := allSameWithin es (by omega) (by omega)
    intro scope retain
    rw [compileAllWith, compileAllWith, he, hes]

end

theorem sameAt (e : Expr) {d d' : Nat} (h : d + e.nesting ≤ s.maxDepth) (h' : d' + e.nesting ≤ s.maxDepth) :
    s.SameAt observe d d' e := by
  have hheight := e.height_le_nesting
  have hsame : s.SameWithin observe d s.maxDepth d' s.maxDepth e := sameWithin e (by omega) (by omega)
  exact hsame

/-! ### Room for the queries inside -/

/-- What is applied needs room, if anything is. -/
private theorem needs_room {f : Body} {d : Nat} {r : Expr} (hd : d ≤ s.maxDepth)
    (h : ∀ b, Ensures (f b) fun _ => d + r.height ≤ s.maxDepth) :
    Needs (if r.isCurrent then none else some f) (d + (if r.isCurrent then 0 else r.height) ≤ s.maxDepth) := by
  split
  · exact hd
  · exact h

mutual

/-- A query is compiled only if there is room for all that is inside it. -/
theorem within_compileWith : (e : Expr) → {scope : Scope} → {d : Nat} → {retain : Bool} →
    Ensures (s.compileWith observe scope d retain e) fun _ => d + e.height ≤ s.maxDepth
  | .field _, scope, d, retain | .literal _, scope, d, retain | .current, scope, d, retain => by
    rw [compileWith, Expr.height]
    exact .unlessStopped fun hd => ensures_observed ⟨fun _ => by omega⟩
  | .sub l r, scope, d, retain => by
    rw [compileWith, Expr.height]
    refine .unlessStopped fun _ => (within_compileWith l).bind fun left hl => ensures_observed ?_
    exact (ensures_apply fun b => within_compileWith r).mono fun _ hr => by omega
  | .pipe l r, scope, d, retain => by
    rw [compileWith, Expr.height]
    refine .unlessStopped fun _ => (within_compileWith l).bind fun left hl => .after fun left => ensures_observed ?_
    exact (ensures_apply fun b => within_compileWith r).mono fun _ hr => by omega
  | .compare op l r, scope, d, retain => by
    rw [compileWith, Expr.height]
    refine .unlessStopped fun _ => (within_compileWith l).bind fun left hl => ?_
    exact (within_compileWith r).bind fun right hr => ensures_observed ⟨fun _ => by omega⟩
  | .and l r, scope, d, retain | .or l r, scope, d, retain => by
    rw [compileWith, Expr.height]
    refine .unlessStopped fun _ => (within_compileWith l).bind fun left hl => .after fun left => ?_
    refine (within_compileWith r).bind fun right hr => .after fun right => ?_
    exact ensures_observed ⟨fun _ => by omega⟩
  | .not e, scope, d, retain | .flatten e, scope, d, retain => by
    rw [compileWith, Expr.height]
    refine .unlessStopped fun _ => (within_compileWith e).bind fun c he => ?_
    exact ensures_observed ⟨fun _ => by omega⟩
  | .list es, scope, d, retain => by
    rw [compileWith, Expr.height]
    refine .unlessStopped fun hd => (within_compileAllWith es (by omega)).bind fun cs hes => ?_
    exact ensures_observed ⟨fun _ => by omega⟩
  | .call name args, scope, d, retain => by
    rw [compileWith, Expr.height]
    refine .unlessStopped fun hd => ?_
    dsimp only
    cases Builtin.ofName? name with
    | none => exact ensures_observed (.throw _)
    | some f =>
      refine .ite (fun _ => ensures_observed (.throw _)) fun _ => ?_
      refine (within_compileAllWith args (by omega)).bind fun cs hargs => ?_
      exact ensures_observed ⟨fun _ => by omega⟩
  | .project l r, scope, d, retain => by
    rw [compileWith, Expr.height]
    refine .unlessStopped fun hd => (within_compileWith l).bind fun left hl => ensures_observed ?_
    refine (ensures_projection (needs_room (d := d + 1) (by omega) fun b => within_compileWith r)).mono fun _ hr => ?_
    omega
  | .filter l r c, scope, d, retain => by
    rw [compileWith, Expr.height]
    refine .unlessStopped fun hd => (within_compileWith l).bind fun left hl => ensures_observed ?_
    refine (ensures_filtered c (fun b => within_compileWith c)
      (needs_room (d := d + 1) (by omega) fun b => within_compileWith r)).mono fun _ hcr => ?_
    omega
  | .projectValues l r, scope, d, retain => by
    rw [compileWith, Expr.height]
    refine .unlessStopped fun hd => (within_compileWith l).bind fun left hl => ensures_observed ?_
    refine (ensures_valueProjection
      (needs_room (d := d + 1) (by omega) fun b => within_compileWith r)).mono fun _ hr => ?_
    omega
  | .index _ _, scope, d, retain | .slice _ _ _ _, scope, d, retain | .hash _, scope, d, retain
  | .reference _, scope, d, retain => by
    rw [compileWith]
    exact .unlessStopped fun _ => ensures_observed (.throw _)

theorem within_compileAllWith : (es : List Expr) → {scope : Scope} → {d : Nat} → {retain : Bool} →
    d ≤ s.maxDepth → Ensures (s.compileAllWith observe scope d retain es) fun _ => d + Expr.heightOf es ≤ s.maxDepth
  | [], scope, d, retain, hd => by
    rw [compileAllWith]
    exact .pure hd
  | e :: es, scope, d, retain, hd => by
    rw [compileAllWith, Expr.heightOf]
    refine (within_compileWith e).bind fun c he => (within_compileAllWith es hd).bind fun cs hes => .pure ?_
    omega

end

/-- The limit on nesting admits exactly the queries that are at most so high, and has no other effect: they come to
what they come to under any limit that is great enough. -/
theorem run_limited_ok_iff (s : Settings) (scope : Scope) (e : Expr) (limit : Nat) (c : Computed) :
    (s.limited limit).run scope e = .ok c ↔
      e.height ≤ limit ∧ ∀ᶠ m in Filter.atTop, (s.limited m).run scope e = .ok c := by
  have hsame : ∀ {m m' : Nat}, e.height ≤ m → e.height ≤ m' →
      (s.limited m).run scope e = (s.limited m').run scope e := by
    intro m m' hm hm'
    have hcompile : s.SameWithin (fun _ _ => return) 0 m 0 m' e := sameWithin e (by omega) (by omega)
    rw [run, runWith, run, runWith, hcompile]
  rw [Filter.eventually_atTop]
  constructor
  · intro h
    have hheight : 0 + e.height ≤ limit := post_of_runWith (within_compileWith e) h
    have hlimit : e.height ≤ limit := by omega
    exact ⟨hlimit, e.height, fun m hm => (hsame hm hlimit).trans h⟩
  · rintro ⟨hlimit, bound, h⟩
    have hmax := h (max bound e.height) (Nat.le_max_left _ _)
    exact (hsame hlimit (Nat.le_max_right _ _)).trans hmax

end Signpost.Traversal.Settings
