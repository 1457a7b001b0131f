import Signpost.Proofs.Traversal.Remarks
import Signpost.Proofs.Traversal.SingleAssignment

/-!
# Annotated code

Annotating only adds remarks.  Each operation does the same with a value whether there are remarks in its steps or not
(`Follows`), so that an annotated query is compiled to the value that it is compiled to otherwise, with remarks in the
steps (`follows_compileWith`), and fails for the same cause.  The code that is emitted is the same up to the remarks
(`run_annotated`).
-/

namespace Signpost.Traversal

open Code (Token Ident)
open Query (Expr)

variable {α β γ δ : Type} {f : α → β} {g : γ → δ} {m : Naming α} {m' : Naming β}

/-! ### Computations that give the same up to a map -/

/-- The second computation takes the same names as the first one and fails for the same causes; what it gives is the
image of what the first one gives. -/
def Follows (f : α → β) (m : Naming α) (m' : Naming β) : Prop := m' = f <$> m

namespace Follows

theorem pure {a : α} {b : β} (h : f a = b) : Follows f (pure a) (pure b) := by
  rw [Follows, map_pure, h]

theorem throw {c : Cause} : Follows f (throw c) (throw c) := rfl

theorem bind {k : α → Naming γ} {k' : β → Naming δ} (hm : Follows f m m') (hk : ∀ a, Follows g (k a) (k' (f a))) :
    Follows g (m >>= k) (m' >>= k') := by
  rw [Follows] at hm ⊢
  rw [hm, map_bind, bind_map_left]
  congr 1
  funext a
  exact hk a

theorem pure_bind {a : α} {k : α → Naming γ} {k' : α → Naming δ} (hk : Follows g (k a) (k' a)) :
    Follows g (Pure.pure a >>= k) (Pure.pure a >>= k') := hk

/-- What is done before is the same. -/
theorem after {k : α → Naming γ} {k' : α → Naming δ} (hk : ∀ a, Follows g (k a) (k' a)) :
    Follows g (m >>= k) (m >>= k') := by
  rw [Follows, map_bind]
  congr 1
  funext a
  exact hk a

theorem ofExcept_bind {x : Except Cause α} {k : α → Naming γ} {k' : α → Naming δ}
    (hk : ∀ a, x = .ok a → Follows g (k a) (k' a)) :
    Follows g (MonadExcept.ofExcept x >>= k) (MonadExcept.ofExcept x >>= k') := by
  cases x with
  | error c => rfl
  | ok a => exact hk a rfl

theorem ite {p : Prop} [Decidable p] {k : Naming α} {k' : Naming β} (hm : Follows f m m') (hk : Follows f k k') :
    Follows f (if p then m else k) (if p then m' else k') := by
  split
  · exact hm
  · exact hk

theorem unlessStopped {p : Prop} [Decidable p] {c : Cause} {k : Unit → Naming γ} {k' : Unit → Naming δ}
    (hk : Follows g (k ()) (k' ())) :
    Follows g (if p then MonadExcept.throw c >>= k else k ()) (if p then MonadExcept.throw c >>= k' else k' ()) :=
  ite rfl hk

theorem mapM {h : α → Naming γ} {h' : β → Naming δ} {as : List α} (hh : ∀ a, Follows g (h a) (h' (f a))) :
    Follows (List.map g) (as.mapM h) ((as.map f).mapM h') := by
  induction as with
  | nil => exact .pure rfl
  | cons a as ih =>
    rw [List.map_cons, List.mapM_cons, List.mapM_cons]
    exact (hh a).bind fun b => ih.bind fun bs => .pure rfl

theorem run (h : Follows f m m') (n : Namer) : m'.run n = ((m.run n).1.map f, (m.run n).2) := by
  rw [Follows] at h
  subst h
  change (m >>= fun a => Pure.pure (f a)).run n = _
  rw [run_bind]
  rcases m.run n with ⟨_ | _, n'⟩ <;> rfl

end Follows

/-! ### Values without remarks -/

namespace Computed

/-- The value without the remarks in its steps. -/
def unremarked (c : Computed) : Computed := { c with steps := Step.allUnremarked c.steps }

variable {c : Computed} {name : Ident} {shape : ValueShape} {t : Ty} {op : Operation} {steps : List Step}

@[simp] theorem name_unremarked : c.unremarked.name = c.name := rfl

@[simp] theorem shape_unremarked : c.unremarked.shape = c.shape := rfl

@[simp] theorem ty_unremarked : c.unremarked.ty = c.ty := rfl

@[simp] theorem steps_unremarked : c.unremarked.steps = Step.allUnremarked c.steps := rfl

@[simp] theorem asCurrent_unremarked : c.unremarked.asCurrent = c.asCurrent := rfl

@[simp] theorem asOption_unremarked : c.unremarked.asOption = c.asOption := rfl

@[simp] theorem unremarked_mk :
    unremarked ⟨name, shape, t, steps⟩ = ⟨name, shape, t, Step.allUnremarked steps⟩ := rfl

@[simp] theorem unremarked_bind : (c.bind name t op).unremarked = c.unremarked.bind name t op.unremarked := by
  simp [Computed.bind, unremarked]

end Computed

/-- The second computation gives the value of the first one without remarks. -/
abbrev Unremarks (m m' : Naming Computed) : Prop := Follows Computed.unremarked m m'

variable {c a b left : Computed} {cs : List Computed} {schema : Schema} {scope : Scope} {retain : Bool}
  {name : String} {t : Ty} {k k' : Body} {body body' : Option Body}

/-! ### Operations on values without remarks -/

theorem unremarks_lift : Unremarks c.lift c.unremarked.lift := .after fun _ => .pure (by simp)

private theorem unremarks_dereferenceFrom : Unremarks (c.dereferenceFrom t) (c.unremarked.dereferenceFrom t) := by
  induction t generalizing c with
  | ref t ih =>
    rw [Computed.dereferenceFrom, Computed.dereferenceFrom]
    refine .ite (.after fun name => ?_) (.pure rfl)
    simpa using ih (c := c.bind name t (.deref c.name))
  | option t =>
    cases t with
    | ref t =>
      rw [Computed.dereferenceFrom, Computed.dereferenceFrom]
      exact .ite (.after fun _ => .pure (by simp)) (.pure rfl)
    | _ => exact .pure rfl
  | _ => exact .pure rfl

theorem unremarks_dereference : Unremarks c.dereference c.unremarked.dereference := unremarks_dereferenceFrom

private theorem unremarks_toTextFrom : Unremarks (c.toTextFrom t) (c.unremarked.toTextFrom t) := by
  induction t generalizing c with
  | ref t ih =>
    cases t with
    | str => exact .pure rfl
    | string | model => exact .after fun _ => .pure (by simp)
    | ref t =>
      rw [Computed.toTextFrom, Computed.toTextFrom]
      refine .after fun name => ?_
      simpa using ih (c := c.bind name (.ref t) (.deref c.name))
    | _ => exact .throw
  | option t =>
    cases t with
    | ref t =>
      cases t with
      | str => exact .pure rfl
      | string | model => exact .after fun _ => .after fun _ => .pure (by simp)
      | _ => exact .throw
    | _ => exact .throw
  | _ => exact .throw

theorem unremarks_toText : Unremarks c.toText c.unremarked.toText := unremarks_toTextFrom

theorem unremarks_toNumber (target : Ty) : Unremarks (c.toNumber target) (c.unremarked.toNumber target) := by
  refine .bind unremarks_dereference fun c => .ite (.pure rfl) ?_
  simp only [Computed.ty_unremarked]
  split
  · exact .after fun _ => .pure (by simp)
  · exact .after fun _ => .pure (by simp)
  · exact .ite .throw (.ite (.pure rfl) (.after fun _ => .after fun _ => .pure (by simp)))
  · exact .throw

theorem unremarks_unwrap : Unremarks c.unwrap c.unremarked.unwrap := by
  simp only [Computed.unwrap, Computed.ty_unremarked]
  split
  · exact .after fun _ => .pure (by simp)
  · exact .pure rfl

theorem unremarks_condition (operator : String) :
    Unremarks (condition operator c) (condition operator c.unremarked) :=
  .ite unremarks_dereference .throw

/-! ### Operators -/

private theorem follows_alike :
    Follows (Prod.map Computed.unremarked Computed.unremarked) (alike a b) (alike a.unremarked b.unremarked) := by
  refine .ite ?_ (.ite ?_ ?_)
  · exact .bind unremarks_toText fun a => .bind unremarks_toText fun b => .pure rfl
  · exact .bind (unremarks_toNumber _) fun a => .bind (unremarks_toNumber _) fun b => .pure rfl
  · exact .bind unremarks_dereference fun a => .bind unremarks_dereference fun b => .pure rfl

theorem unremarks_comparison (op : Query.Comparison) :
    Unremarks (comparison op a b) (comparison op a.unremarked b.unremarked) := by
  simp only [comparison, Computed.shape_unremarked]
  split
  · exact .throw
  · exact .bind follows_alike fun p => .after fun name => .pure (by simp)

theorem unremarks_negation : Unremarks (negation c) (negation c.unremarked) :=
  .bind (unremarks_condition _) fun c => .after fun _ => .pure (by simp)

theorem unremarks_connective (isAnd : Bool) :
    Unremarks (connective isAnd a b) (connective isAnd a.unremarked b.unremarked) := by
  refine .after fun name => .pure ?_
  cases isAnd <;> simp

theorem unremarks_literal (l : Query.Literal) : Unremarks (literal l) (literal l) := by
  simp only [literal]
  split
  · exact .throw
  · exact .after fun _ => .pure rfl

/-! ### Functions -/

/-- One more step with a new name, where the shape becomes another. -/
private theorem unremarks_made {stem : String} {op : Operation} {shape : ValueShape} (hop : op.unremarked = op) :
    Unremarks (do return { c.bind (← fresh stem) t op with shape })
      (do return { c.unremarked.bind (← fresh stem) t op with shape }) := by
  refine .after fun name => .pure ?_
  have hbind : (c.bind name t op).unremarked = c.unremarked.bind name t op.unremarked := Computed.unremarked_bind
  rw [hop] at hbind
  exact congrArg (fun d : Computed => { d with shape }) hbind

theorem unremarks_lengthOf : Unremarks (lengthOf c) (lengthOf c.unremarked) := by
  simp only [lengthOf, Computed.shape_unremarked]
  split
  · exact .pure_bind (unremarks_made rfl)
  · exact .pure_bind (unremarks_made rfl)
  · exact .throw

theorem unremarks_keysOf : Unremarks (keysOf schema c) (keysOf schema c.unremarked) := by
  simp only [keysOf, Computed.shape_unremarked]
  split
  · exact .pure_bind (unremarks_made rfl)
  · exact .after fun _ => .pure_bind (unremarks_made rfl)
  · exact .throw

theorem unremarks_containsIn : Unremarks (containsIn a b) (containsIn a.unremarked b.unremarked) := by
  simp only [containsIn, Computed.shape_unremarked, Computed.ty_unremarked]
  refine .unlessStopped (.after fun name => ?_)
  split
  · refine .unlessStopped (.bind unremarks_toText fun a => .bind unremarks_toText fun b => .pure ?_)
    simp
  · refine .unlessStopped ?_
    split
    · refine .pure_bind (.after fun v => .bind (follows_alike (a := ⟨v, _, _, []⟩)) fun p => .pure ?_)
      simp
    · exact .throw
  · exact .throw

theorem unremarks_call (f : Builtin) (name : String) (args : List Computed) :
    Unremarks (f.call schema name args) (f.call schema name (args.map Computed.unremarked)) := by
  have harity : Unremarks (throw (.invalid (.arity name f.arity args.length)))
      (throw (.invalid (.arity name f.arity (args.map Computed.unremarked).length))) := by
    rw [List.length_map]
    exact .throw
  rcases f with _ | _ | _ <;> rcases args with _ | ⟨a, _ | ⟨b, _ | ⟨c, args⟩⟩⟩
  case length.cons.nil => exact unremarks_lengthOf
  case keys.cons.nil => exact unremarks_keysOf
  case contains.cons.cons.nil => exact unremarks_containsIn
  all_goals exact harity

/-! ### Lists -/

private theorem follows_allAlike (shape : ValueShape) :
    Follows (List.map Computed.unremarked) (allAlike shape cs) (allAlike shape (cs.map Computed.unremarked)) := by
  have htarget : (cs.map Computed.unremarked).foldl (fun t c => Ty.commonNumber t c.ty) (.int 64) =
      cs.foldl (fun t c => Ty.commonNumber t c.ty) (.int 64) := by
    rw [List.foldl_map]
    rfl
  rw [allAlike, allAlike, htarget]
  refine .ite ?_ (.ite ?_ (.ite ?_ (.pure rfl)))
  · exact .mapM fun c => unremarks_toText
  · exact .mapM fun c => unremarks_toNumber _
  · exact .mapM fun c => unremarks_dereference

private theorem follows_allOptions :
    Follows (List.map Computed.unremarked) (allOptions cs) (allOptions (cs.map Computed.unremarked)) := by
  rw [allOptions, allOptions, List.any_map]
  exact .ite (.mapM fun c => .ite (.pure rfl) unremarks_lift) (.pure rfl)

private theorem allUnremarked_flatMap :
    Step.allUnremarked (cs.flatMap (·.steps)) = (cs.map Computed.unremarked).flatMap (·.steps) := by
  induction cs with
  | nil => rfl
  | cons c cs ih => simp [ih]

theorem unremarks_listOf (items : List Computed) :
    Unremarks (listOf items) (listOf (items.map Computed.unremarked)) := by
  cases items with
  | nil => exact .throw
  | cons first items =>
    rw [List.map_cons, listOf, listOf, ← List.map_cons, List.all_map]
    refine .unlessStopped (.bind (follows_allAlike _) fun cs => .bind follows_allOptions fun cs => ?_)
    have hhead : (cs.map Computed.unremarked).head?.map (·.ty) = cs.head?.map (·.ty) := by
      rw [List.head?_map, Option.map_map]
      rfl
    simp only [hhead, List.all_map]
    refine .unlessStopped (.after fun name => .pure ?_)
    simp [allUnremarked_flatMap]

/-! ### Values in scope -/

/-- To reach a member takes no block of steps. -/
private theorem unremarked_of_access {id : ShapeId} {src : Ident} {a : Access}
    (h : access schema id src name retain = .ok a) : a.operation.unremarked = a.operation := by
  rw [access] at h
  split at h
  · split at h
    · cases h
    · split at h <;> cases h
      dsimp only
      split <;> rfl
  · cases h
    rfl
  · cases h

theorem unremarks_member : Unremarks (c.member schema retain name) (c.unremarked.member schema retain name) := by
  simp only [Computed.member, Computed.shape_unremarked]
  split
  · exact .ofExcept_bind fun a ha => .after fun x => unremarks_made (unremarked_of_access ha)
  · exact .throw

theorem unremarks_field : Unremarks (scope.field schema retain name) (scope.field schema retain name) := by
  refine .ite .throw ?_
  split
  · exact .ite (.pure rfl) .throw
  · exact unremarks_member
  · exact .throw

theorem unremarks_current : Unremarks (scope.current retain) (scope.current retain) := by
  refine .ite .throw ?_
  split
  · exact .throw
  · exact .ite (.pure rfl) unremarks_unwrap

/-! ### Projections -/

/-- The second body gives what the first one gives without remarks. -/
def UnremarksOn (k k' : Body) : Prop := ∀ b, Unremarks (k b) (k' b)

theorem unremarks_apply (hk : UnremarksOn k k') (left : Computed) :
    Unremarks (apply k left) (apply k' left.unremarked) := by
  simp only [apply, Computed.ty_unremarked]
  split
  · exact .after fun item => .bind (hk _) fun r => .after fun name => .pure (by simp)
  · exact .bind (hk _) fun r => .pure (by simp [Computed.unremarked])

theorem unremarks_projection (hbody : Option.Rel UnremarksOn body body') (left : Computed) :
    Unremarks (projection body left) (projection body' left.unremarked) := by
  refine .after fun x => ?_
  cases hbody with
  | none => exact .pure rfl
  | some hk => exact .after fun item => .bind (hk _) fun r => .after fun name => .pure (by simp)

theorem unremarks_filtered (query : Expr) (hk : UnremarksOn k k') (hbody : Option.Rel UnremarksOn body body')
    (left : Computed) : Unremarks (filtered query k body left) (filtered query k' body' left.unremarked) := by
  refine .after fun x => .after fun item => .bind (hk _) fun c => .unlessStopped ?_
  refine .bind unremarks_dereference fun c => ?_
  cases hbody with
  | none => exact .pure_bind (.after fun name => .pure (by simp [Binding.value]))
  | some hk => exact .bind (hk _) fun r => .after fun name => .pure (by simp)

theorem unremarks_valueProjection (hbody : Option.Rel UnremarksOn body body') (left : Computed) :
    Unremarks (valueProjection schema body left) (valueProjection schema body' left.unremarked) := by
  refine .after fun id => .after fun x => .after fun name => ?_
  cases hbody with
  | none => exact .pure (by simp)
  | some hk => exact .after fun item => .bind (hk _) fun r => .pure (by simp)

theorem unremarks_flattened : Unremarks (flattened left) (flattened left.unremarked) := by
  refine .after fun x => ?_
  dsimp only
  split
  · exact unremarks_made rfl
  · exact .pure rfl

/-! ### Queries -/

namespace Settings

/-- The settings with or without remarks. -/
def annotated (s : Settings) (annotate : Bool) : Settings := { s with annotate }

variable {s : Settings}

private theorem unremarks_observed {e : Expr} {m m' : Naming Computed} (hm : Unremarks m m') :
    Unremarks (do let c ← m; silent e c; return (s.annotated true).remark e c)
      (do let c ← m'; silent e c; return (s.annotated false).remark e c) := by
  refine .bind hm fun c => .pure ?_
  simp [remark, annotated, Computed.unremarked, Step.allUnremarked, Step.unremarked]

mutual

theorem unremarks_compileWith : (e : Expr) → {depth : Nat} → {retain : Bool} → {scope : Scope} →
    Unremarks ((s.annotated true).compileWith silent scope depth retain e)
      ((s.annotated false).compileWith silent scope depth retain e)
  | .field name, depth, retain, scope => by
    rw [compileWith, compileWith]
    exact .unlessStopped (unremarks_observed unremarks_field)
  | .sub l r, depth, retain, scope => by
    rw [compileWith, compileWith]
    refine .unlessStopped (.bind (unremarks_compileWith l) fun left => unremarks_observed ?_)
    exact unremarks_apply (fun b => unremarks_compileWith r) left
  | .pipe l r, depth, retain, scope => by
    rw [compileWith, compileWith]
    refine .unlessStopped (.bind (unremarks_compileWith l) fun left => .bind unremarks_unwrap fun left => ?_)
    exact unremarks_observed (unremarks_apply (fun b => unremarks_compileWith r) left)
  | .compare op l r, depth, retain, scope => by
    rw [compileWith, compileWith]
    refine .unlessStopped (.bind (unremarks_compileWith l) fun left => .bind (unremarks_compileWith r) fun right => ?_)
    exact unremarks_observed (unremarks_comparison op)
  | .and l r, depth, retain, scope | .or l r, depth, retain, scope => by
    rw [compileWith, compileWith]
    refine .unlessStopped (.bind (unremarks_compileWith l) fun left => .bind (unremarks_condition _) fun left => ?_)
    refine .bind (unremarks_compileWith r) fun right => .bind (unremarks_condition _) fun right => ?_
    exact unremarks_observed (unremarks_connective _)
  | .not e, depth, retain, scope => by
    rw [compileWith, compileWith]
    exact .unlessStopped (.bind (unremarks_compileWith e) fun c => unremarks_observed unremarks_negation)
  | .literal l, depth, retain, scope => by
    rw [compileWith, compileWith]
    exact .unlessStopped (unremarks_observed (unremarks_literal l))
  | .list es, depth, retain, scope => by
    rw [compileWith, compileWith]
    exact .unlessStopped (.bind (follows_compileAllWith es) fun cs => unremarks_observed (unremarks_listOf cs))
  | .call name args, depth, retain, scope => by
    rw [compileWith, compileWith]
    refine .unlessStopped ?_
    dsimp only
    cases Builtin.ofName? name with
    | none => exact unremarks_observed .throw
    | some f =>
      refine .ite (unremarks_observed .throw) (.bind (follows_compileAllWith args) fun cs => ?_)
      exact unremarks_observed (unremarks_call f name cs)
  | .project l r, depth, retain, scope => by
    rw [compileWith, compileWith]
    refine .unlessStopped (.bind (unremarks_compileWith l) fun left => unremarks_observed ?_)
    exact unremarks_projection (rel_unless fun b => unremarks_compileWith r) left
  | .filter l r c, depth, retain, scope => by
    rw [compileWith, compileWith]
    refine .unlessStopped (.bind (unremarks_compileWith l) fun left => unremarks_observed ?_)
    exact unremarks_filtered c (fun b => unremarks_compileWith c) (rel_unless fun b => unremarks_compileWith r) left
  | .projectValues l r, depth, retain, scope => by
    rw [compileWith, compileWith]
    refine .unlessStopped (.bind (unremarks_compileWith l) fun left => unremarks_observed ?_)
    exact unremarks_valueProjection (rel_unless fun b => unremarks_compileWith r) left
  | .flatten e, depth, retain, scope => by
    rw [compileWith, compileWith]
    exact .unlessStopped (.bind (unremarks_compileWith e) fun left => unremarks_observed unremarks_flattened)
  | .current, depth, retain, scope => by
    rw [compileWith, compileWith]
    exact .unlessStopped (unremarks_observed unremarks_current)
  | .index _ _, depth, retain, scope | .slice _ _ _ _, depth, retain, scope | .hash _, depth, retain, scope
  | .reference _, depth, retain, scope => by
    rw [compileWith, compileWith]
    exact .unlessStopped (unremarks_observed .throw)

theorem follows_compileAllWith : (es : List Expr) → {depth : Nat} → {retain : Bool} → {scope : Scope} →
    Follows (List.map Computed.unremarked) ((s.annotated true).compileAllWith silent scope depth retain es)
      ((s.annotated false).compileAllWith silent scope depth retain es)
  | [], depth, retain, scope => by
    rw [compileAllWith, compileAllWith]
    exact .pure rfl
  | e :: es, depth, retain, scope => by
    rw [compileAllWith, compileAllWith]
    exact .bind (unremarks_compileWith e) fun c => .bind (follows_compileAllWith es) fun cs => .pure rfl

end

/-- No local that is bound is named like a remark. -/
private theorem text_ne_of_run {e : Expr} (h : s.run scope e = .ok c) :
    ∀ i ∈ Step.bindersOf c.steps, i.text ≠ "_" := by
  obtain ⟨n, hrun⟩ := exists_of_runWith_ok h
  have hmade : Gives (s.compileWith silent scope 0 false e) ⟨0⟩ fun n => Computed.IsMade scope.Supplies ⟨0⟩ n :=
    isMade_compileWith e
  rw [Gives, Yields, hrun] at hmade
  intro i hi
  obtain ⟨stem, -, k, -, -, rfl⟩ := hmade.fresh.drawn i hi
  intro htext
  -- there is another underscore before the number
  have hlist := (toList_localName stem k).symm.trans (congrArg String.toList htext)
  have hlength := congrArg List.length hlist
  simp at hlength

/-- Whether code is annotated or not, a query is compiled to the same value, or fails for the same cause.  The emitted
code is the same but for the remarks in it, which are left out at every level. -/
theorem run_annotated (s : Settings) (scope : Scope) (e : Expr) :
    (∃ f, (s.annotated true).run scope e = .error f ∧ (s.annotated false).run scope e = .error f) ∨
      ∃ c c', (s.annotated true).run scope e = .ok c ∧ (s.annotated false).run scope e = .ok c' ∧
        c'.name = c.name ∧ c'.shape = c.shape ∧ c'.ty = c.ty ∧
        allUnremarked (Step.tokensOf c.steps) = Step.tokensOf c'.steps := by
  have hfollows : Unremarks ((s.annotated true).compileWith silent scope 0 false e)
      ((s.annotated false).compileWith silent scope 0 false e) := unremarks_compileWith e
  have hplain : (s.annotated false).run scope e = Computed.unremarked <$> (s.annotated true).run scope e := by
    rw [run, run, runWith, runWith, hfollows.run]
    rcases ((s.annotated true).compileWith silent scope 0 false e).run ⟨0⟩ with ⟨_ | _, n⟩ <;> rfl
  cases h : (s.annotated true).run scope e with
  | error f =>
    rw [h] at hplain
    exact .inl ⟨f, rfl, hplain⟩
  | ok c =>
    rw [h] at hplain
    refine .inr ⟨c, c.unremarked, rfl, hplain, rfl, rfl, rfl, ?_⟩
    have htokens : allUnremarked (Step.tokensOf c.steps ++ []) = Step.tokensOf (Step.allUnremarked c.steps) ++ [] :=
      allUnremarked_tokensOf c.steps (text_ne_of_run h)
    rwa [List.append_nil, List.append_nil] at htokens

end Settings

end Signpost.Traversal
