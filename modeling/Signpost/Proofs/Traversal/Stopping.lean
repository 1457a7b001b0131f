import Signpost.Proofs.Traversal.Agreeing
import Signpost.Traversal.Compile

/-!
# Looking out for values

To tell whether values of some kind come up while a query is compiled, the run is stopped at them (`stopAt`).  A run
that is not stopped goes as if nobody had looked (`runWith_stopAt`); if none of the values comes up, then the run is
the same (`IsQuiet`).
-/

namespace Signpost.Traversal

open Query (Expr)

variable {α β : Type} {m : Naming α} {m' : Cause → Naming α}

/-- The computations do what the first one does, unless each of them fails with its alarm. -/
def Stops (m : Naming α) (m' : Cause → Naming α) : Prop :=
  ∀ n, (∀ alarm, (m' alarm).run n = m.run n) ∨ ∃ n', ∀ alarm, (m' alarm).run n = (.error alarm, n')

namespace Stops

theorem refl : Stops m fun _ => m := fun _ => .inl fun _ => rfl

theorem congr {k' : Cause → Naming α} (h : ∀ alarm, m' alarm = k' alarm) (hk : Stops m k') : Stops m m' :=
  funext h ▸ hk

theorem bind {f : α → Naming β} {f' : Cause → α → Naming β} (hm : Stops m m')
    (hf : ∀ a, Stops (f a) fun alarm => f' alarm a) : Stops (m >>= f) fun alarm => m' alarm >>= f' alarm := by
  intro n
  simp only [run_bind]
  rcases hm n with h | ⟨n', h⟩
  · simp only [h]
    rcases m.run n with ⟨c | a, n'⟩
    · exact .inl fun _ => rfl
    · exact hf a n'
  · simp only [h]
    exact .inr ⟨n', fun _ => rfl⟩

/-- What is done before is the same. -/
theorem after {f : α → Naming β} {f' : Cause → α → Naming β} (hf : ∀ a, Stops (f a) fun alarm => f' alarm a) :
    Stops (m >>= f) fun alarm => m >>= f' alarm :=
  bind refl hf

theorem ite {p : Prop} [Decidable p] {k : Naming α} {k' : Cause → Naming α} (hm : p → Stops m m')
    (hk : ¬ p → Stops k k') : Stops (if p then m else k) fun alarm => if p then m' alarm else k' alarm := by
  by_cases h : p
  · simp only [if_pos h]
    exact hm h
  · simp only [if_neg h]
    exact hk h

theorem unlessStopped {p : Prop} [Decidable p] {c : Cause} {f : Unit → Naming β} {f' : Cause → Unit → Naming β}
    (hf : Stops (f ()) fun alarm => f' alarm ()) :
    Stops (if p then throw c >>= f else f ()) fun alarm => if p then throw c >>= f' alarm else f' alarm () :=
  ite (fun _ _ => .inl fun _ => rfl) fun _ => hf

end Stops

/-! ### Operations on what may stop -/

/-- The bodies may stop, on whatever value. -/
def StopsOn (f : Body) (f' : Cause → Body) : Prop := ∀ b, Stops (f b) fun alarm => f' alarm b

/-- There is no body, or bodies that may stop. -/
inductive BodyStops : Option Body → (Cause → Option Body) → Prop
  | none : BodyStops none fun _ => none
  | some {f : Body} {f' : Cause → Body} (hf : StopsOn f f') : BodyStops (some f) fun alarm => some (f' alarm)

variable {f : Body} {f' : Cause → Body} {body : Option Body} {body' : Cause → Option Body}

theorem stops_apply (hf : StopsOn f f') (left : Computed) :
    Stops (apply f left) fun alarm => apply (f' alarm) left := by
  simp only [apply]
  split
  · exact .after fun _ => (hf _).bind fun _ => .refl
  · exact (hf _).bind fun _ => .refl

theorem stops_projection (hbody : BodyStops body body') (left : Computed) :
    Stops (projection body left) fun alarm => projection (body' alarm) left := by
  refine .after fun x => ?_
  cases hbody with
  | none => exact .refl
  | some hf => exact .after fun _ => (hf _).bind fun _ => .refl

theorem stops_filtered (query : Expr) (hf : StopsOn f f') (hbody : BodyStops body body') (left : Computed) :
    Stops (filtered query f body left) fun alarm => filtered query (f' alarm) (body' alarm) left := by
  refine .after fun x => .after fun _ => (hf _).bind fun _ => .unlessStopped (.after fun _ => ?_)
  cases hbody with
  | none => exact .refl
  | some hf => exact (hf _).bind fun _ => .refl

theorem stops_valueProjection {schema : Schema} (hbody : BodyStops body body') (left : Computed) :
    Stops (valueProjection schema body left) fun alarm => valueProjection schema (body' alarm) left := by
  refine .after fun _ => .after fun _ => .after fun _ => ?_
  cases hbody with
  | none => exact .refl
  | some hf => exact .after fun _ => (hf _).bind fun _ => .refl

/-! ### Queries -/

namespace Settings

/-- Values that are looked out for, by their query, shape and type. -/
abbrev Mark := Expr → ValueShape → Ty → Bool

/-- The observer that stops at marked values. -/
def stopAt (marked : Mark) (alarm : Cause) : Observer :=
  fun e c => if marked e c.shape c.ty then throw alarm else return

/-- No marked value comes up while the query is compiled: nothing changes if the run is stopped there. -/
def IsQuiet (s : Settings) (marked : Mark) (scope : Scope) (e : Expr) : Prop :=
  ∀ alarm, s.runWith (stopAt marked alarm) scope e = s.run scope e

variable {s : Settings} {marked : Mark} {scope : Scope}

private theorem stops_observed {e : Expr} {m : Naming Computed} {m' : Cause → Naming Computed} (hm : Stops m m') :
    Stops (do let c ← m; (fun _ _ => return : Observer) e c; return s.remark e c)
      fun alarm => do let c ← m' alarm; stopAt marked alarm e c; return s.remark e c := by
  refine hm.bind fun c => .bind (fun n => ?_) fun _ => .refl
  simp only [stopAt]
  split
  · exact .inr ⟨n, fun _ => rfl⟩
  · exact .inl fun _ => rfl

/-- Projections that apply nothing have no body. -/
private theorem stops_body {r : Expr} (hf : StopsOn f f') :
    BodyStops (if r.isCurrent then none else some f) fun alarm => if r.isCurrent then none else some (f' alarm) := by
  split
  · exact .none
  · exact .some hf

mutual

theorem stops_compileWith : (e : Expr) → {depth : Nat} → {retain : Bool} → {scope : Scope} →
    Stops (s.compile scope depth retain e) fun alarm => s.compileWith (stopAt marked alarm) scope depth retain e
  | .field name, depth, retain, scope => by
    rw [compile, compileWith]
    refine .congr (fun _ => by rw [compileWith]) ?_
    exact .unlessStopped (stops_observed .refl)
  | .sub l r, depth, retain, scope => by
    rw [compile, compileWith]
    refine .congr (fun _ => by rw [compileWith]) ?_
    refine .unlessStopped ((stops_compileWith l).bind fun left => stops_observed ?_)
    exact stops_apply (fun _ => stops_compileWith r) left
  | .pipe l r, depth, retain, scope => by
    rw [compile, compileWith]
    refine .congr (fun _ => by rw [compileWith]) ?_
    refine .unlessStopped ((stops_compileWith l).bind fun left => .after fun left => stops_observed ?_)
    exact stops_apply (fun _ => stops_compileWith r) left
  | .compare op l r, depth, retain, scope => by
    rw [compile, compileWith]
    refine .congr (fun _ => by rw [compileWith]) ?_
    refine .unlessStopped ((stops_compileWith l).bind fun _ => (stops_compileWith r).bind fun _ => ?_)
    exact stops_observed .refl
  | .and l r, depth, retain, scope | .or l r, depth, retain, scope => by
    rw [compile, compileWith]
    refine .congr (fun _ => by rw [compileWith]) ?_
    refine .unlessStopped ((stops_compileWith l).bind fun _ => .after fun _ => ?_)
    exact (stops_compileWith r).bind fun _ => .after fun _ => stops_observed .refl
  | .not e, depth, retain, scope | .flatten e, depth, retain, scope => by
    rw [compile, compileWith]
    refine .congr (fun _ => by rw [compileWith]) ?_
    exact .unlessStopped ((stops_compileWith e).bind fun _ => stops_observed .refl)
  | .literal l, depth, retain, scope => by
    rw [compile, compileWith]
    refine .congr (fun _ => by rw [compileWith]) ?_
    exact .unlessStopped (stops_observed .refl)
  | .list es, depth, retain, scope => by
    rw [compile, compileWith]
    refine .congr (fun _ => by rw [compileWith]) ?_
    exact .unlessStopped ((stops_compileAllWith es).bind fun _ => stops_observed .refl)
  | .call name args, depth, retain, scope => by
    rw [compile, compileWith]
    refine .congr (fun _ => by rw [compileWith]) ?_
    refine .unlessStopped ?_
    dsimp only
    cases Builtin.ofName? name with
    | none => exact stops_observed .refl
    | some f =>
      exact .ite (fun _ => stops_observed .refl) fun _ =>
        (stops_compileAllWith args).bind fun _ => stops_observed .refl
  | .project l r, depth, retain, scope => by
    rw [compile, compileWith]
    refine .congr (fun _ => by rw [compileWith]) ?_
    refine .unlessStopped ((stops_compileWith l).bind fun left => stops_observed ?_)
    exact stops_projection (stops_body fun _ => stops_compileWith r) left
  | .filter l r c, depth, retain, scope => by
    rw [compile, compileWith]
    refine .congr (fun _ => by rw [compileWith]) ?_
    refine .unlessStopped ((stops_compileWith l).bind fun left => stops_observed ?_)
    exact stops_filtered c (fun _ => stops_compileWith c) (stops_body fun _ => stops_compileWith r) left
  | .projectValues l r, depth, retain, scope => by
    rw [compile, compileWith]
    refine .congr (fun _ => by rw [compileWith]) ?_
    refine .unlessStopped ((stops_compileWith l).bind fun left => stops_observed ?_)
    exact stops_valueProjection (stops_body fun _ => stops_compileWith r) left
  | .current, depth, retain, scope | .index _ _, depth, retain, scope | .slice _ _ _ _, depth, retain, scope
  | .hash _, depth, retain, scope | .reference _, depth, retain, scope => by
    rw [compile, compileWith]
    refine .congr (fun _ => by rw [compileWith]) ?_
    exact .unlessStopped (stops_observed .refl)

theorem stops_compileAllWith : (es : List Expr) → {depth : Nat} → {retain : Bool} → {scope : Scope} →
    Stops (s.compileAllWith (fun _ _ => return) scope depth retain es)
      fun alarm => s.compileAllWith (stopAt marked alarm) scope depth retain es
  | [], depth, retain, scope => by
    simp only [compileAllWith]
    exact .refl
  | e :: es, depth, retain, scope => by
    simp only [compileAllWith]
    exact (stops_compileWith e).bind fun _ => (stops_compileAllWith es).bind fun _ => .refl

end

/-- Either nobody notices that the run may be stopped, or each alarm goes off. -/
theorem isQuiet_or (s : Settings) (marked : Mark) (scope : Scope) (e : Expr) :
    s.IsQuiet marked scope e ∨
      ∀ alarm, s.runWith (stopAt marked alarm) scope e = .error ⟨alarm, some e.render⟩ := by
  have hstops : Stops (s.compileWith (fun _ _ => return) scope 0 false e)
      fun alarm => s.compileWith (stopAt marked alarm) scope 0 false e := stops_compileWith e
  rcases hstops ⟨0⟩ with h | ⟨n, h⟩
  · refine .inl fun alarm => ?_
    rw [run, runWith, runWith, h]
  · refine .inr fun alarm => ?_
    rw [runWith, h]

/-- Whether a run fails for a defect. -/
def meetsDefect : Except Failure Computed → Bool
  | .ok _ => false
  | .error f => f.cause.isDefect

/-- To run with one alarm is enough to know, if the alarm can be told from other failures. -/
theorem isQuiet_of_meetsDefect {e : Expr} (name : String)
    (h : meetsDefect (s.runWith (stopAt marked (.missingBinding name)) scope e) = false) :
    s.IsQuiet marked scope e := by
  refine (isQuiet_or s marked scope e).resolve_right fun halarm => ?_
  rw [halarm] at h
  cases h

end Settings

end Signpost.Traversal
