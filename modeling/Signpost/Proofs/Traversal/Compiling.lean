import Signpost.Proofs.Traversal.Operations
import Signpost.Traversal.Compile

/-!
# Compiled values are coherent

On coherent values in scope a query is compiled to a coherent value, and so is each query inside it: an observer may
do anything with values that are not coherent, for it is never shown one (`agree_compileWith`).
-/

namespace Signpost.Traversal

open Code (Ident)
open Query (Expr)

variable {s : Settings} {observe observe' : Settings.Observer} {scope : Scope}

namespace Settings

/-- Observers that do the same with coherent values. -/
abbrev SameOn (schema : Schema) (observe observe' : Observer) : Prop :=
  ∀ e c, c.IsCoherent schema → observe e c = observe' e c

/-- The observer that stops at a value whose shape and type do not belong together. -/
def watch (s : Settings) (alarm : Cause) : Observer :=
  fun _ c => if c.IsCoherent s.schema then return else throw alarm

theorem isCoherent_remark {e : Expr} {c : Computed} (h : c.IsCoherent s.schema) :
    (s.remark e c).IsCoherent s.schema := by
  rw [remark]
  split <;> exact h

/-- Observing a coherent value and remarking on it leaves it coherent. -/
private theorem agree_observed (hsame : SameOn s.schema observe observe') {e : Expr} {m m' : Naming Computed}
    (hm : Agree m m' (Computed.IsCoherent s.schema)) :
    Agree (do let c ← m; observe e c; return s.remark e c) (do let c ← m'; observe' e c; return s.remark e c)
      (Computed.IsCoherent s.schema) := by
  refine hm.bind fun c hc => ?_
  rw [hsame e c hc]
  exact .after fun _ => (Ensures.pure (isCoherent_remark hc)).agree

private theorem agreeOn_right {depth : Nat} {retain : Bool} {r : Expr}
    (hr : ∀ {scope : Scope}, (∀ b ∈ scope, b.IsCoherent s.schema) →
      Agree (s.compileWith observe scope depth retain r) (s.compileWith observe' scope depth retain r)
        (Computed.IsCoherent s.schema)) :
    AgreeOn s.schema (fun b => s.compileWith observe [b] depth retain r)
      (fun b => s.compileWith observe' [b] depth retain r) :=
  fun _ hb => hr (List.forall_mem_singleton.2 hb)

mutual

theorem agree_compileWith (hsame : SameOn s.schema observe observe') :
    (e : Expr) → {depth : Nat} → {retain : Bool} → {scope : Scope} → (∀ b ∈ scope, b.IsCoherent s.schema) →
    Agree (s.compileWith observe scope depth retain e) (s.compileWith observe' scope depth retain e)
      (Computed.IsCoherent s.schema)
  | .field name, depth, retain, scope, h => by
    rw [compileWith, compileWith]
    refine .unlessStopped fun _ => ?_
    exact agree_observed hsame (ensures_field h name).agree
  | .sub l r, depth, retain, scope, h => by
    rw [compileWith, compileWith]
    refine .unlessStopped fun _ => (agree_compileWith hsame l h).bind fun left hleft => ?_
    exact agree_observed hsame (agree_apply (agreeOn_right (agree_compileWith hsame r)) hleft)
  | .pipe l r, depth, retain, scope, h => by
    rw [compileWith, compileWith]
    refine .unlessStopped fun _ => (agree_compileWith hsame l h).bind fun left hleft => ?_
    refine (ensures_unwrap hleft).agree.bind fun left hleft => ?_
    exact agree_observed hsame (agree_apply (agreeOn_right (agree_compileWith hsame r)) hleft)
  | .compare op l r, depth, retain, scope, h => by
    rw [compileWith, compileWith]
    refine .unlessStopped fun _ => (agree_compileWith hsame l h).bind fun left _ => ?_
    refine (agree_compileWith hsame r h).bind fun right _ => ?_
    exact agree_observed hsame (ensures_comparison op left right).agree
  | .and l r, depth, retain, scope, h => by
    rw [compileWith, compileWith]
    refine .unlessStopped fun _ => (agree_compileWith hsame l h).bind fun left hleft => ?_
    refine (ensures_condition _ hleft).agree.bind fun left hleft => ?_
    refine (agree_compileWith hsame r h).bind fun right hright => ?_
    refine (ensures_condition _ hright).agree.bind fun right _ => ?_
    exact agree_observed hsame (ensures_connective true right hleft.1).agree
  | .or l r, depth, retain, scope, h => by
    rw [compileWith, compileWith]
    refine .unlessStopped fun _ => (agree_compileWith hsame l h).bind fun left hleft => ?_
    refine (ensures_condition _ hleft).agree.bind fun left hleft => ?_
    refine (agree_compileWith hsame r h).bind fun right hright => ?_
    refine (ensures_condition _ hright).agree.bind fun right _ => ?_
    exact agree_observed hsame (ensures_connective false right hleft.1).agree
  | .not e, depth, retain, scope, h => by
    rw [compileWith, compileWith]
    refine .unlessStopped fun _ => (agree_compileWith hsame e h).bind fun c hc => ?_
    exact agree_observed hsame (ensures_negation hc).agree
  | .literal l, depth, retain, scope, h => by
    rw [compileWith, compileWith]
    refine .unlessStopped fun _ => ?_
    exact agree_observed hsame (ensures_literal l).agree
  | .list es, depth, retain, scope, h => by
    rw [compileWith, compileWith]
    refine .unlessStopped fun _ => (agree_compileAllWith hsame es h).bind fun cs hcs => ?_
    exact agree_observed hsame (ensures_listOf hcs).agree
  | .call name args, depth, retain, scope, h => by
    rw [compileWith, compileWith]
    refine .unlessStopped fun _ => ?_
    -- what a function gives is coherent whatever its arguments are
    dsimp only
    cases Builtin.ofName? name with
    | none => exact agree_observed hsame (Ensures.throw _).agree
    | some f =>
      refine .ite (fun _ => agree_observed hsame (Ensures.throw _).agree) (fun _ => ?_)
      refine (agree_compileAllWith hsame args h).bind fun cs _ => ?_
      exact agree_observed hsame (ensures_call f name cs).agree
  | .project l r, depth, retain, scope, h => by
    rw [compileWith, compileWith]
    refine .unlessStopped fun _ => (agree_compileWith hsame l h).bind fun left hleft => ?_
    exact agree_observed hsame (agree_projection (rel_unless (agreeOn_right (agree_compileWith hsame r))) hleft)
  | .filter l r c, depth, retain, scope, h => by
    rw [compileWith, compileWith]
    refine .unlessStopped fun _ => (agree_compileWith hsame l h).bind fun left hleft => ?_
    refine agree_observed hsame (agree_filtered c ?_ ?_ hleft)
    · exact agreeOn_right (agree_compileWith hsame c)
    · exact rel_unless (agreeOn_right (agree_compileWith hsame r))
  | .projectValues l r, depth, retain, scope, h => by
    rw [compileWith, compileWith]
    refine .unlessStopped fun _ => (agree_compileWith hsame l h).bind fun left _ => ?_
    exact agree_observed hsame (agree_valueProjection (rel_unless (agreeOn_right (agree_compileWith hsame r))))
  | .flatten e, depth, retain, scope, h => by
    rw [compileWith, compileWith]
    refine .unlessStopped fun _ => (agree_compileWith hsame e h).bind fun left hleft => ?_
    exact agree_observed hsame (ensures_flattened hleft).agree
  | .current, depth, retain, scope, h => by
    rw [compileWith, compileWith]
    refine .unlessStopped fun _ => ?_
    exact agree_observed hsame (ensures_current h).agree
  | .index _ _, depth, retain, scope, h | .slice _ _ _ _, depth, retain, scope, h | .hash _, depth, retain, scope, h
  | .reference _, depth, retain, scope, h => by
    rw [compileWith, compileWith]
    refine .unlessStopped fun _ => ?_
    exact agree_observed hsame (Ensures.throw _).agree

theorem agree_compileAllWith (hsame : SameOn s.schema observe observe') :
    (es : List Expr) → {depth : Nat} → {retain : Bool} → {scope : Scope} → (∀ b ∈ scope, b.IsCoherent s.schema) →
    Agree (s.compileAllWith observe scope depth retain es) (s.compileAllWith observe' scope depth retain es)
      (∀ c ∈ ·, c.IsCoherent s.schema)
  | [], depth, retain, scope, h => by
    rw [compileAllWith, compileAllWith]
    exact (Ensures.pure fun c hc => absurd hc List.not_mem_nil).agree
  | e :: es, depth, retain, scope, h => by
    rw [compileAllWith, compileAllWith]
    refine (agree_compileWith hsame e h).bind fun c hc => (agree_compileAllWith hsame es h).bind fun cs hcs => ?_
    exact (Ensures.pure (List.forall_mem_cons.2 ⟨hc, hcs⟩)).agree

end

/-- Where what is in scope comes from the schema, the shape and the type of what a query is compiled to belong
together, and so do those of every value that is compiled on the way: none of them sets off an alarm. -/
theorem coherent_of_run (hscope : ∀ b ∈ scope, ∃ name ident id, Binding.ofShape s.schema name ident id = .ok b)
    (e : Expr) :
    (∀ c, s.run scope e = .ok c → Coherent s.schema c.shape c.ty) ∧
      ∀ alarm, s.runWith (s.watch alarm) scope e = s.run scope e := by
  have h : ∀ b ∈ scope, b.IsCoherent s.schema := by
    intro b hb
    obtain ⟨name, ident, id, hid⟩ := hscope b hb
    exact Binding.isCoherent_of_ofShape hid
  constructor
  · intro c hc
    have hsame : SameOn s.schema (fun _ _ => return) (fun _ _ => return) := fun _ _ _ => rfl
    rw [run, runWith] at hc
    rcases hrun : (s.compileWith (fun _ _ => return) scope 0 false e).run ⟨0⟩ with ⟨_ | d, n⟩
    · rw [hrun] at hc
      cases hc
    · rw [hrun] at hc
      cases hc
      exact (agree_compileWith hsame e h).ensures.post hrun
  · intro alarm
    have hsame : SameOn s.schema (s.watch alarm) fun _ _ => return := fun _ _ hc => if_pos hc
    rw [run, runWith, runWith, (agree_compileWith hsame e h).eq]

end Settings

/-- How many there are of what is in stock, in each place. -/
def stockSchema : Schema where
  shapes := [(⟨"Stock"⟩, .map ⟨"Counts"⟩), (⟨"Counts"⟩, .list ⟨"Count"⟩), (⟨"Count"⟩, .integer)]

/-- The counts of eggs above five. -/
def manyEggs : Expr := .filter (.field "eggs") .current (.compare .greater .current (.literal (.int 5)))

/-- A reference to the stock. -/
def stock : Binding := ⟨none, ⟨"root", false⟩, .object (some ⟨"Stock"⟩), .ref (.map .string (.vec (.int 32)))⟩

theorem coherent_of_run_manyEggs : Binding.ofShape stockSchema none ⟨"root", false⟩ ⟨"Stock"⟩ = .ok stock ∧
    ∃ c, (Settings.ofSchema stockSchema).run [stock] manyEggs = .ok c ∧ Coherent stockSchema c.shape c.ty ∧
      ∀ alarm,
        (Settings.ofSchema stockSchema).runWith ((Settings.ofSchema stockSchema).watch alarm) [stock] manyEggs =
          .ok c := by
  have hstock : Binding.ofShape stockSchema none ⟨"root", false⟩ ⟨"Stock"⟩ = .ok stock := rfl
  have hok : ((Settings.ofSchema stockSchema).run [stock] manyEggs).isOk = true := by decide +kernel
  obtain ⟨c, hc⟩ := exists_of_isOk hok
  have hscope : ∀ b ∈ [stock], ∃ name ident id, Binding.ofShape stockSchema name ident id = .ok b :=
    List.forall_mem_singleton.2 ⟨none, _, _, hstock⟩
  obtain ⟨hcoherent, hwatch⟩ := Settings.coherent_of_run (s := .ofSchema stockSchema) hscope manyEggs
  refine ⟨hstock, c, hc, hcoherent c hc, fun alarm => ?_⟩
  rw [hwatch alarm, hc]

end Signpost.Traversal
