import Signpost.Proofs.Traversal.Defects
import Signpost.Proofs.Traversal.Emitting

/-!
# Compiled queries are well typed

The steps that a query on data of the schema is compiled to are well typed (`isTyped_of_run`): members are taken of
structures and maps only, and what is compared has one type.  There is one condition.  Where the elements of a list are
options, `contains` must not search it, and no projection may ask its elements for members; such lists are looked out
for, and none must come up (`IsQuiet`).
-/

namespace Signpost.Traversal

open Code (Ident)
open Query (Expr)

namespace Settings

variable {s : Settings} {marked : Mark} {alarm : Cause}

/-- All lists of options are marked of which the query takes bare elements. -/
def MarksOptions (marked : Mark) (e : Expr) : Prop :=
  ∀ a, e.searched = some a ∨ e.entered = some a → ∀ shape t, t.listsOptions = true → marked a shape t = true

private theorem typed_observed {Γ : Types} {e : Expr} {m : Naming Computed}
    (hm : Ensures m (Computed.IsTyped s.schema Γ)) :
    Ensures (do let c ← m; stopAt marked alarm e c; return s.remark e c) (Computed.IsTyped s.schema Γ) := by
  refine hm.bind fun c hc => .after fun _ => .pure ?_
  rw [remark]
  split
  · obtain ⟨Δ, hsteps, hmem⟩ := hc
    exact ⟨Δ, hsteps.append (.note .nil), hmem⟩
  · exact hc

/-- A list that passed is no list of options, if it would have been marked. -/
private theorem listsOptions_eq_false {retain : Bool} {e : Expr} {c : Computed} (hpassed : IsPassed marked retain e c)
    (hmarked : ∀ shape t, t.listsOptions = true → marked e shape t = true) : c.ty.listsOptions = false := by
  cases hlists : c.ty.listsOptions with
  | false => rfl
  | true => exact absurd (hmarked c.shape c.ty hlists) (by simp [hpassed.2])

/-- The elements of a list of options are not asked for members, if the list would have been marked then. -/
private theorem opens_eq_false {opens : Bool} {e l : Expr} {c : Computed} (hpassed : IsPassed marked false l c)
    (hentered : e.entered = if opens then some l else none) (hmarked : MarksOptions marked e)
    (hlists : c.ty.listsOptions = true) : opens = false := by
  cases opens with
  | false => rfl
  | true =>
    rw [listsOptions_eq_false hpassed (hmarked l (.inr hentered))] at hlists
    cases hlists

mutual

theorem typed_compileWith : (e : Expr) → (∀ x ∈ e.parts, MarksOptions marked x) →
    {depth : Nat} → {retain : Bool} → {scope : Scope} → (∀ b ∈ scope, b.IsSound s.schema) →
    (e.opens = true → ∀ b ∈ scope, b.ty.Held) →
    Ensures (s.compileWith (stopAt marked alarm) scope depth retain e) (Computed.IsTyped s.schema scope.types)
  | .field name, hp, depth, retain, scope, h, ho => by
    rw [compileWith]
    refine .unlessStopped fun _ => ?_
    exact typed_observed (typed_field (fun b hb => ⟨h b hb, ho rfl b hb⟩) name)
  | .sub l r, hp, depth, retain, scope, h, ho => by
    simp only [Expr.parts, List.forall_mem_cons, List.forall_mem_append] at hp
    obtain ⟨-, hl, hr⟩ := hp
    rw [compileWith]
    refine .unlessStopped fun _ => ?_
    refine ((typed_compileWith l hl h ho).and (ensures_passed l h)).bind fun left hleft => ?_
    exact typed_observed (typed_apply (typedOn_right r hr) hleft.1 hleft.2.1.1 hleft.2.2)
  | .pipe l r, hp, depth, retain, scope, h, ho => by
    simp only [Expr.parts, List.forall_mem_cons, List.forall_mem_append] at hp
    obtain ⟨-, hl, hr⟩ := hp
    rw [compileWith]
    refine .unlessStopped fun _ => ?_
    refine ((typed_compileWith l hl h ho).and (ensures_passed l h)).bind fun left hleft => ?_
    have hheld : Ensures left.unwrap (·.ty.Held) :=
      Yields.ensures (F := fun _ => True) fun n => yields_unwrap hleft.2.1.1
    refine ((typed_unwrap hleft.1).and (hheld.and (ensures_unwrap hleft.2.2))).bind fun left hleft => ?_
    exact typed_observed (typed_apply (typedOn_right r hr) hleft.1 (.held hleft.2.1) hleft.2.2)
  | .compare op l r, hp, depth, retain, scope, h, ho => by
    simp only [Expr.parts, List.forall_mem_cons, List.forall_mem_append] at hp
    simp only [Expr.opens, Bool.or_eq_true] at ho
    obtain ⟨-, hl, hr⟩ := hp
    rw [compileWith]
    refine .unlessStopped fun _ => ?_
    refine ((typed_compileWith l hl h fun hl => ho (.inl hl)).and (ensures_passed l h)).bind fun left hleft => ?_
    refine ((typed_compileWith r hr h fun hr => ho (.inr hr)).and (ensures_passed r h)).bind fun right hright => ?_
    obtain ⟨hleft, hlt, hlc⟩ := hleft
    obtain ⟨hright, hrt, hrc⟩ := hright
    exact typed_observed (typed_comparison op hleft hright hlt.1.toHeld hrt.1.toHeld hlc hrc)
  | .and l r, hp, depth, retain, scope, h, ho | .or l r, hp, depth, retain, scope, h, ho => by
    simp only [Expr.parts, List.forall_mem_cons, List.forall_mem_append] at hp
    simp only [Expr.opens, Bool.or_eq_true] at ho
    obtain ⟨-, hl, hr⟩ := hp
    have hbool : ∀ {operator : String} {e : Expr} {c : Computed}, IsPassed marked false e c ∧ c.IsCoherent s.schema →
        Ensures (condition operator c) (·.ty = .bool) := fun hc =>
      Yields.ensures (F := fun _ => True) fun n => yields_condition (fun _ _ => trivial) _ hc.1.1.toHeld hc.2
    rw [compileWith]
    refine .unlessStopped fun _ => ?_
    refine ((typed_compileWith l hl h fun hl => ho (.inl hl)).and (ensures_passed l h)).bind fun left hleft => ?_
    refine ((typed_condition _ hleft.1).and (hbool hleft.2)).bind fun left hleft => ?_
    refine ((typed_compileWith r hr h fun hr => ho (.inr hr)).and (ensures_passed r h)).bind fun right hright => ?_
    refine ((typed_condition _ hright.1).and (hbool hright.2)).bind fun right hright => ?_
    exact typed_observed (typed_connective _ hleft.1 hright.1 hleft.2 hright.2)
  | .not e, hp, depth, retain, scope, h, ho => by
    simp only [Expr.parts, List.forall_mem_cons] at hp
    rw [compileWith]
    refine .unlessStopped fun _ => ?_
    refine ((typed_compileWith e hp.2 h ho).and (ensures_passed e h)).bind fun c hc => ?_
    exact typed_observed (typed_negation hc.1 hc.2.1.1.toHeld hc.2.2)
  | .literal l, hp, depth, retain, scope, h, ho => by
    rw [compileWith]
    refine .unlessStopped fun _ => ?_
    exact typed_observed (typed_literal l)
  | .list es, hp, depth, retain, scope, h, ho => by
    simp only [Expr.parts, List.forall_mem_cons] at hp
    rw [compileWith]
    refine .unlessStopped fun _ => (typed_compileAllWith es hp.2 h ho).bind fun cs hcs => ?_
    exact typed_observed (typed_listOf hcs)
  | .call name args, hp, depth, retain, scope, h, ho => by
    simp only [Expr.parts, List.forall_mem_cons] at hp
    obtain ⟨hcall, hargs⟩ := hp
    rw [compileWith]
    refine .unlessStopped fun _ => ?_
    dsimp only
    cases hf : Builtin.ofName? name with
    | none => exact typed_observed (.throw _)
    | some f =>
      refine .ite (fun _ => typed_observed (.throw _)) fun _ => ?_
      have hpassed : Ensures (s.compileAllWith (stopAt marked alarm) scope (depth + 1) false args) fun cs =>
          (∀ c ∈ cs, c.ty.Kept false ∧ c.IsCoherent s.schema) ∧ cs.length = args.length ∧
            ∀ e ∈ args.head?, ∀ c ∈ cs.head?, marked e c.shape c.ty = false :=
        Yields.ensures (F := fun _ => True) fun n => yields_compileAllWith (fun _ _ => trivial)
          (fun _ _ _ _ _ => trivial) args (fun _ _ _ _ _ _ _ _ _ => trivial) (fun _ _ => trivial) h
      refine ((typed_compileAllWith args hargs h ho).and hpassed).bind fun cs hcs => ?_
      obtain ⟨htyped, hsound, hlength, hhead⟩ := hcs
      refine typed_observed (typed_call f name (fun c hc => ?_) fun c hc hcontains => ?_)
      · exact ⟨htyped c hc, (hsound c hc).1.toHeld, (hsound c hc).2⟩
      · subst hcontains
        rw [eq_of_ofName? hf] at hcall
        cases args with
        | nil =>
          obtain rfl := List.length_eq_zero_iff.1 hlength
          cases hc
        | cons a args =>
          have hkept := (hsound c (List.mem_of_mem_head? hc)).1
          exact listsOptions_eq_false ⟨hkept, hhead a rfl c hc⟩ (hcall a (.inl rfl))
  | .project l r, hp, depth, retain, scope, h, ho => by
    simp only [Expr.parts, List.forall_mem_cons, List.forall_mem_append] at hp
    obtain ⟨hproject, hl, hr⟩ := hp
    rw [compileWith]
    refine .unlessStopped fun _ => ?_
    refine ((typed_compileWith l hl h ho).and (ensures_passed l h)).bind fun left hleft => ?_
    obtain ⟨hleft, hpassed, hc⟩ := hleft
    refine typed_observed (typed_projection (forall_unless (typedOn_right r hr)) hleft hpassed.1.toHeld hc ?_)
    exact opens_eq_false hpassed rfl hproject
  | .filter l r c, hp, depth, retain, scope, h, ho => by
    simp only [Expr.parts, List.forall_mem_cons, List.forall_mem_append] at hp
    obtain ⟨hfilter, ⟨hl, hr⟩, hcond⟩ := hp
    rw [compileWith]
    refine .unlessStopped fun _ => ?_
    refine ((typed_compileWith l hl h ho).and (ensures_passed l h)).bind fun left hleft => ?_
    obtain ⟨hleft, hpassed, hc⟩ := hleft
    have hcondition : TypedOn s.schema (r.opens || c.opens) false fun b =>
        s.compileWith (stopAt marked alarm) [b] (depth + 1) false c :=
      (typedOn_right c hcond).mono fun h => by simp [h]
    have hbody : TypedOn s.schema (r.opens || c.opens) true fun b =>
        s.compileWith (stopAt marked alarm) [b] (depth + 1) true r :=
      (typedOn_right r hr).mono fun h => by simp [h]
    refine typed_observed (typed_filtered c hcondition (forall_unless hbody) hleft hpassed.1.toHeld hc ?_)
    exact opens_eq_false hpassed rfl hfilter
  | .projectValues l r, hp, depth, retain, scope, h, ho => by
    simp only [Expr.parts, List.forall_mem_cons, List.forall_mem_append] at hp
    obtain ⟨-, hl, hr⟩ := hp
    rw [compileWith]
    refine .unlessStopped fun _ => ?_
    refine ((typed_compileWith l hl h ho).and (ensures_passed l h)).bind fun left hleft => ?_
    obtain ⟨hleft, hpassed, hc⟩ := hleft
    exact typed_observed (typed_valueProjection (forall_unless (typedOn_right r hr)) hleft hpassed.1.toHeld hc)
  | .flatten e, hp, depth, retain, scope, h, ho => by
    simp only [Expr.parts, List.forall_mem_cons] at hp
    rw [compileWith]
    refine .unlessStopped fun _ => (typed_compileWith e hp.2 h ho).bind fun left hleft => ?_
    exact typed_observed (typed_flattened hleft)
  | .current, hp, depth, retain, scope, h, ho => by
    rw [compileWith]
    refine .unlessStopped fun _ => ?_
    exact typed_observed typed_current
  | .index _ _, hp, depth, retain, scope, h, ho | .slice _ _ _ _, hp, depth, retain, scope, h, ho
  | .hash _, hp, depth, retain, scope, h, ho | .reference _, hp, depth, retain, scope, h, ho => by
    rw [compileWith]
    refine .unlessStopped fun _ => ?_
    exact typed_observed (.throw _)

private theorem typedOn_right (r : Expr) (hr : ∀ x ∈ r.parts, MarksOptions marked x) {depth : Nat} {retain : Bool} :
    TypedOn s.schema r.opens retain fun b => s.compileWith (stopAt marked alarm) [b] depth retain r := by
  intro b hb hheld
  have hsound := List.forall_mem_singleton.2 hb
  refine (typed_compileWith r hr hsound fun hopens => List.forall_mem_singleton.2 (hheld hopens)).and ?_
  exact (ensures_passed r hsound).mono fun c hc => ⟨hc.1.1, hc.2⟩

theorem typed_compileAllWith : (es : List Expr) → (∀ x ∈ Expr.partsOf es, MarksOptions marked x) →
    {depth : Nat} → {retain : Bool} → {scope : Scope} → (∀ b ∈ scope, b.IsSound s.schema) →
    (Expr.opensAny es = true → ∀ b ∈ scope, b.ty.Held) →
    Ensures (s.compileAllWith (stopAt marked alarm) scope depth retain es)
      fun cs => ∀ c ∈ cs, c.IsTyped s.schema scope.types
  | [], hp, depth, retain, scope, h, ho => by
    rw [compileAllWith]
    exact .pure fun c hc => absurd hc List.not_mem_nil
  | e :: es, hp, depth, retain, scope, h, ho => by
    simp only [Expr.partsOf, List.forall_mem_append] at hp
    simp only [Expr.opensAny, Bool.or_eq_true] at ho
    rw [compileAllWith]
    refine (typed_compileWith e hp.1 h fun he => ho (.inl he)).bind fun c hc => ?_
    refine (typed_compileAllWith es hp.2 h fun hes => ho (.inr hes)).bind fun cs hcs => .pure ?_
    exact List.forall_mem_cons.2 ⟨hc, hcs⟩

end

/-- The steps of a query on values of the schema are well typed and give a local of the type of the query, if no list of
options comes up of which the query takes bare elements. -/
theorem isTyped_of_run {scope : Scope} {e : Expr} {c : Computed}
    (hscope : ∀ b ∈ scope, ∃ name ident id, Binding.ofShape s.schema name ident id = .ok b)
    (hmarked : ∀ x ∈ e.parts, MarksOptions marked x) (hquiet : s.IsQuiet marked scope e) (hc : s.run scope e = .ok c) :
    ∃ Δ, StepsExtend s.schema scope.types c.steps Δ ∧ (c.name, c.ty) ∈ Δ := by
  have hsound := Binding.forall_isSound_of_ofShape hscope
  have hheld : e.opens = true → ∀ b ∈ scope, b.ty.Held := by
    intro _ b hb
    obtain ⟨name, ident, id, hid⟩ := hscope b hb
    exact Binding.held_of_ofShape hid
  exact post_of_runWith (typed_compileWith e hmarked hsound hheld) ((hquiet (.invalid .noCurrent)).trans hc)

end Settings

open Samples (inventory output)

/-- Whether one of the items has this name. -/
def isNamedWheel : Expr :=
  .call "contains" [.project (.flatten (.field "items")) (.field "name"), .literal (.string "wheel")]

/-- The marking of all lists with options as elements. -/
def listsOptional : Settings.Mark := fun _ _ t => t.listsOptions

theorem isTyped_of_run_isNamedWheel :
    (∀ b ∈ [output], ∃ name ident id, Binding.ofShape inventory name ident id = .ok b) ∧
    (∀ x ∈ isNamedWheel.parts, Settings.MarksOptions listsOptional x) ∧
    (Settings.ofSchema inventory).IsQuiet listsOptional [output] isNamedWheel ∧
    ∃ c Δ, (Settings.ofSchema inventory).run [output] isNamedWheel = .ok c ∧
      StepsExtend inventory [(⟨"root", false⟩, .ref (.model "Output"))] c.steps Δ ∧ (c.name, c.ty) ∈ Δ := by
  have hmarked : ∀ x ∈ isNamedWheel.parts, Settings.MarksOptions listsOptional x := fun _ _ _ _ _ _ h => h
  let alarmed := (Settings.ofSchema inventory).runWith (Settings.stopAt listsOptional (.missingBinding "")) [output]
    isNamedWheel
  have halarmed : Settings.meetsDefect alarmed = false ∧ alarmed.isOk = true := by decide +kernel
  have hquiet : (Settings.ofSchema inventory).IsQuiet listsOptional [output] isNamedWheel :=
    Settings.isQuiet_of_meetsDefect "" halarmed.1
  obtain ⟨c, hrun⟩ := exists_of_isOk halarmed.2
  have hc := (hquiet _).symm.trans hrun
  obtain ⟨Δ, hsteps, hmem⟩ := Settings.isTyped_of_run forall_ofShape_output hmarked hquiet hc
  exact ⟨forall_ofShape_output, hmarked, hquiet, c, Δ, hc, hsteps, hmem⟩

end Signpost.Traversal
