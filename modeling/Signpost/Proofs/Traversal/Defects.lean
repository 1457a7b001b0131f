import Signpost.Proofs.Query.Parts
import Signpost.Proofs.Traversal.Blame
import Signpost.Proofs.Traversal.Compiling
import Signpost.Proofs.Traversal.Stopping
import Signpost.Samples.Inventory

/-!
# Queries and defects

A query that is evaluated on data of the schema fails to be compiled only for a cause that lies with the query, with one
exception: `contains` searches for text in a list whose elements are options (`not_isDefect_of_run`).  Such lists are
selected inside projections, and flattened or filtered from there.  Where they are looked out for and none comes up
(`IsQuiet`), there is no defect.
-/

namespace Signpost.Traversal

open Code (Ident)
open Query (Expr)

namespace Settings

variable {s : Settings} {marked : Mark} {alarm : Cause} {F : Cause → Prop} {n : Namer}

/-- A compiled value has a type that values have there, and is not marked. -/
def IsPassed (marked : Mark) (retain : Bool) (e : Expr) (c : Computed) : Prop :=
  c.ty.Kept retain ∧ marked e c.shape c.ty = false

/-- The alarm may go off where values of the types that values have are marked. -/
def MayRaise (marked : Mark) (F : Cause → Prop) (alarm : Cause) : Prop :=
  ∀ e shape t, Ty.Kept true t → marked e shape t = true → F alarm

/-- Searching a list that is not marked is no defect, or may be one. -/
def Tolerates (marked : Mark) (F : Cause → Prop) (e : Expr) : Prop :=
  ∀ a ∈ e.searched, ∀ shape t, shape.listsText = true → t.listsOptions = true → marked a shape t = false →
    F (.mismatch .reference)

theorem ensures_coherent (observe : Observer) {scope : Scope} (h : ∀ b ∈ scope, b.IsSound s.schema) (depth : Nat)
    (retain : Bool) (e : Expr) :
    Ensures (s.compileWith observe scope depth retain e) (Computed.IsCoherent s.schema) :=
  have hsame : SameOn s.schema observe observe := fun _ _ _ => rfl
  (agree_compileWith hsame e fun b hb => (h b hb).coherent).ensures

private theorem yields_observed (halarm : MayRaise marked F alarm) {retain : Bool} {e : Expr} {m : Naming Computed}
    (hm : Yields m n (fun _ c => c.ty.Kept retain) F) :
    Yields (do let c ← m; stopAt marked alarm e c; return s.remark e c) n (fun _ => IsPassed marked retain e) F := by
  refine hm.bind fun _ c hc => ?_
  have halarm := halarm e c.shape c.ty hc.weaken
  refine .bind (P := fun _ _ => marked e c.shape c.ty = false) (.ite (fun h => .throw (halarm h)) fun h => .pure ?_)
    fun _ _ h => .pure ?_
  · simpa using h
  · rw [remark]
    split <;> exact ⟨hc, h⟩

theorem eq_of_ofName? {name : String} (h : Builtin.ofName? name = some .contains) : name = "contains" := by
  unfold Builtin.ofName? at h
  split at h <;> cases h
  rfl

mutual

theorem yields_compileWith (hF : Pardons F) (halarm : MayRaise marked F alarm) :
    (e : Expr) → (∀ x ∈ e.parts, Tolerates marked F x) →
    {depth : Nat} → {retain : Bool} → {scope : Scope} → {n : Namer} → PardonsEmpty scope F →
    (∀ b ∈ scope, b.IsSound s.schema) →
    Yields (s.compileWith (stopAt marked alarm) scope depth retain e) n (fun _ => IsPassed marked retain e) F
  | .field name, hp, depth, retain, scope, n, hvoid, h => by
    rw [compileWith]
    refine .unlessStopped (hF _ rfl) fun _ => ?_
    exact yields_observed halarm (yields_field hF hvoid h name)
  | .sub l r, hp, depth, retain, scope, n, hvoid, h => by
    simp only [Expr.parts, List.forall_mem_cons, List.forall_mem_append] at hp
    obtain ⟨-, hl, hr⟩ := hp
    rw [compileWith]
    refine .unlessStopped (hF _ rfl) fun _ => ?_
    refine ((yields_compileWith hF halarm l hl hvoid h).and (ensures_coherent _ h _ _ l)).bind fun _ left hleft => ?_
    exact yields_observed halarm (yields_apply (yieldsOn_right hF halarm r hr) hleft.1.1 hleft.2)
  | .pipe l r, hp, depth, retain, scope, n, hvoid, h => by
    simp only [Expr.parts, List.forall_mem_cons, List.forall_mem_append] at hp
    obtain ⟨-, hl, hr⟩ := hp
    rw [compileWith]
    refine .unlessStopped (hF _ rfl) fun _ => ?_
    refine ((yields_compileWith hF halarm l hl hvoid h).and (ensures_coherent _ h _ _ l)).bind fun _ left hleft => ?_
    refine ((yields_unwrap hleft.1.1).and (ensures_unwrap hleft.2)).bind fun _ left hleft => ?_
    exact yields_observed halarm (yields_apply (yieldsOn_right hF halarm r hr) (.held hleft.1) hleft.2)
  | .compare op l r, hp, depth, retain, scope, n, hvoid, h => by
    simp only [Expr.parts, List.forall_mem_cons, List.forall_mem_append] at hp
    obtain ⟨-, hl, hr⟩ := hp
    rw [compileWith]
    refine .unlessStopped (hF _ rfl) fun _ => ?_
    refine ((yields_compileWith hF halarm l hl hvoid h).and (ensures_coherent _ h _ _ l)).bind fun _ left hleft => ?_
    refine ((yields_compileWith hF halarm r hr hvoid h).and (ensures_coherent _ h _ _ r)).bind fun _ right hright => ?_
    refine yields_observed halarm ((yields_comparison hF op ?_ ?_ hleft.2 hright.2).mono fun _ _ => .held)
    · exact hleft.1.1.toHeld
    · exact hright.1.1.toHeld
  | .and l r, hp, depth, retain, scope, n, hvoid, h | .or l r, hp, depth, retain, scope, n, hvoid, h => by
    simp only [Expr.parts, List.forall_mem_cons, List.forall_mem_append] at hp
    obtain ⟨-, hl, hr⟩ := hp
    rw [compileWith]
    refine .unlessStopped (hF _ rfl) fun _ => ?_
    refine ((yields_compileWith hF halarm l hl hvoid h).and (ensures_coherent _ h _ _ l)).bind fun _ left hleft => ?_
    refine (yields_condition hF _ hleft.1.1.toHeld hleft.2).bind fun _ left _ => ?_
    refine ((yields_compileWith hF halarm r hr hvoid h).and (ensures_coherent _ h _ _ r)).bind fun _ right hright => ?_
    refine (yields_condition hF _ hright.1.1.toHeld hright.2).bind fun _ right _ => ?_
    exact yields_observed halarm ((yields_connective _ left right).mono fun _ _ => .held)
  | .not e, hp, depth, retain, scope, n, hvoid, h => by
    simp only [Expr.parts, List.forall_mem_cons] at hp
    rw [compileWith]
    refine .unlessStopped (hF _ rfl) fun _ => ?_
    refine ((yields_compileWith hF halarm e hp.2 hvoid h).and (ensures_coherent _ h _ _ e)).bind fun _ c hc => ?_
    exact yields_observed halarm ((yields_negation hF hc.1.1.toHeld hc.2).mono fun _ _ => .held)
  | .literal l, hp, depth, retain, scope, n, hvoid, h => by
    rw [compileWith]
    refine .unlessStopped (hF _ rfl) fun _ => ?_
    exact yields_observed halarm ((yields_literal hF l).mono fun _ _ => .held)
  | .list es, hp, depth, retain, scope, n, hvoid, h => by
    simp only [Expr.parts, List.forall_mem_cons] at hp
    rw [compileWith]
    refine .unlessStopped (hF _ rfl) fun _ => ?_
    refine (yields_compileAllWith hF halarm es hp.2 hvoid h).bind fun _ cs hcs => ?_
    exact yields_observed halarm ((yields_listOf hF hcs.1).mono fun _ _ => .held)
  | .call name args, hp, depth, retain, scope, n, hvoid, h => by
    simp only [Expr.parts, List.forall_mem_cons] at hp
    obtain ⟨hcall, hargs⟩ := hp
    rw [compileWith]
    refine .unlessStopped (hF _ rfl) fun _ => ?_
    dsimp only
    cases hf : Builtin.ofName? name with
    | none => exact yields_observed halarm (.throw (hF _ rfl))
    | some f =>
      refine .ite (fun _ => yields_observed halarm (.throw (hF _ rfl))) fun _ => ?_
      refine (yields_compileAllWith hF halarm args hargs hvoid h).bind fun _ cs hcs => ?_
      refine yields_observed halarm ((yields_call hF f name (fun c hc => ?_) fun c hc hcontains htext hlists => ?_).mono
        fun _ _ => .held)
      · exact ⟨(hcs.1 c hc).1.toHeld, (hcs.1 c hc).2⟩
      · subst hcontains
        rw [eq_of_ofName? hf] at hcall
        cases args with
        | nil =>
          obtain rfl := List.length_eq_zero_iff.1 hcs.2.1
          cases hc
        | cons a args => exact hcall a rfl c.shape c.ty htext hlists (hcs.2.2 a rfl c hc)
  | .project l r, hp, depth, retain, scope, n, hvoid, h => by
    simp only [Expr.parts, List.forall_mem_cons, List.forall_mem_append] at hp
    obtain ⟨-, hl, hr⟩ := hp
    rw [compileWith]
    refine .unlessStopped (hF _ rfl) fun _ => ?_
    refine ((yields_compileWith hF halarm l hl hvoid h).and (ensures_coherent _ h _ _ l)).bind fun _ left hleft => ?_
    refine yields_observed halarm ((yields_projection hF ?_ hleft.1.1.toHeld hleft.2).mono fun _ _ => .held)
    exact forall_unless (yieldsOn_right hF halarm r hr)
  | .filter l r c, hp, depth, retain, scope, n, hvoid, h => by
    simp only [Expr.parts, List.forall_mem_cons, List.forall_mem_append] at hp
    obtain ⟨-, ⟨hl, hr⟩, hcond⟩ := hp
    rw [compileWith]
    refine .unlessStopped (hF _ rfl) fun _ => ?_
    refine ((yields_compileWith hF halarm l hl hvoid h).and (ensures_coherent _ h _ _ l)).bind fun _ left hleft => ?_
    refine yields_observed halarm ((yields_filtered hF c ?_ ?_ hleft.1.1.toHeld hleft.2).mono fun _ _ => .held)
    · exact fun b hb n' => (yieldsOn_right hF halarm c hcond b hb n').mono fun _ _ _ => trivial
    · exact forall_unless (yieldsOn_right hF halarm r hr)
  | .projectValues l r, hp, depth, retain, scope, n, hvoid, h => by
    simp only [Expr.parts, List.forall_mem_cons, List.forall_mem_append] at hp
    obtain ⟨-, hl, hr⟩ := hp
    rw [compileWith]
    refine .unlessStopped (hF _ rfl) fun _ => ?_
    refine (yields_compileWith hF halarm l hl hvoid h).bind fun _ left _ => ?_
    refine yields_observed halarm ((yields_valueProjection hF ?_).mono fun _ _ => .held)
    exact forall_unless (yieldsOn_right hF halarm r hr)
  | .flatten e, hp, depth, retain, scope, n, hvoid, h => by
    simp only [Expr.parts, List.forall_mem_cons] at hp
    rw [compileWith]
    refine .unlessStopped (hF _ rfl) fun _ => ?_
    refine (yields_compileWith hF halarm e hp.2 hvoid h).bind fun _ left hleft => ?_
    exact yields_observed halarm ((yields_flattened hF hleft.1.toHeld).mono fun _ _ => .held)
  | .current, hp, depth, retain, scope, n, hvoid, h => by
    rw [compileWith]
    refine .unlessStopped (hF _ rfl) fun _ => ?_
    exact yields_observed halarm (yields_current hF hvoid h)
  | .index _ _, hp, depth, retain, scope, n, hvoid, h | .slice _ _ _ _, hp, depth, retain, scope, n, hvoid, h
  | .hash _, hp, depth, retain, scope, n, hvoid, h | .reference _, hp, depth, retain, scope, n, hvoid, h => by
    rw [compileWith]
    refine .unlessStopped (hF _ rfl) fun _ => ?_
    exact yields_observed halarm (.throw (hF _ rfl))

private theorem yieldsOn_right (hF : Pardons F) (halarm : MayRaise marked F alarm) (r : Expr)
    (hr : ∀ x ∈ r.parts, Tolerates marked F x) {depth : Nat} {retain : Bool} :
    YieldsOn s.schema (fun b => s.compileWith (stopAt marked alarm) [b] depth retain r) (·.ty.Kept retain) F :=
  fun _ hb _ =>
    (yields_compileWith hF halarm r hr (fun h => absurd h (List.cons_ne_nil _ _))
      (List.forall_mem_singleton.2 hb)).mono fun _ _ hc => hc.1

theorem yields_compileAllWith (hF : Pardons F) (halarm : MayRaise marked F alarm) :
    (es : List Expr) → (∀ x ∈ Expr.partsOf es, Tolerates marked F x) →
    {depth : Nat} → {retain : Bool} → {scope : Scope} → {n : Namer} → PardonsEmpty scope F →
    (∀ b ∈ scope, b.IsSound s.schema) →
    Yields (s.compileAllWith (stopAt marked alarm) scope depth retain es) n
      (fun _ cs => (∀ c ∈ cs, c.ty.Kept retain ∧ c.IsCoherent s.schema) ∧ cs.length = es.length ∧
        ∀ e ∈ es.head?, ∀ c ∈ cs.head?, marked e c.shape c.ty = false) F
  | [], hp, depth, retain, scope, n, hvoid, h => by
    rw [compileAllWith]
    exact .pure ⟨fun c hc => absurd hc List.not_mem_nil, rfl, fun e he => by cases he⟩
  | e :: es, hp, depth, retain, scope, n, hvoid, h => by
    simp only [Expr.partsOf, List.forall_mem_append] at hp
    rw [compileAllWith]
    refine ((yields_compileWith hF halarm e hp.1 hvoid h).and (ensures_coherent _ h _ _ e)).bind fun _ c hc => ?_
    refine (yields_compileAllWith hF halarm es hp.2 hvoid h).bind fun _ cs hcs => .pure ⟨?_, ?_, ?_⟩
    · exact List.forall_mem_cons.2 ⟨⟨hc.1.1, hc.2⟩, hcs.1⟩
    · rw [List.length_cons, List.length_cons, hcs.2.1]
    · rintro _ ⟨⟩ _ ⟨⟩
      exact hc.1.2

end

theorem ensures_passed (e : Expr) {depth : Nat} {retain : Bool} {scope : Scope}
    (h : ∀ b ∈ scope, b.IsSound s.schema) :
    Ensures (s.compileWith (stopAt marked alarm) scope depth retain e) fun c =>
      IsPassed marked retain e c ∧ c.IsCoherent s.schema := by
  refine Ensures.and ?_ (ensures_coherent _ h _ _ e)
  refine Yields.ensures (F := fun _ => True) fun n => ?_
  refine yields_compileWith (fun _ _ => trivial) (fun _ _ _ _ _ => trivial) e ?_ (fun _ _ => trivial) h
  exact fun _ _ _ _ _ _ _ _ _ => trivial

/-- What a query gives on values that may be worked with is there, and its shape and its type belong together. -/
theorem held_of_run {scope : Scope} {e : Expr} {c : Computed} (hscope : ∀ b ∈ scope, b.IsSound s.schema)
    (hc : s.run scope e = .ok c) : c.ty.Held ∧ c.IsCoherent s.schema := by
  let nothing : Mark := fun _ _ _ => false
  have h : Ensures (s.compileWith (stopAt nothing (.mismatch .object)) scope 0 false e) fun c =>
      IsPassed nothing false e c ∧ c.IsCoherent s.schema := ensures_passed e hscope
  obtain ⟨⟨hkept, -⟩, hcoherent⟩ := post_of_runWith h hc
  exact ⟨hkept.toHeld, hcoherent⟩

/-- On values of the schema, no query fails for a defect other than reading text from a reference to what is no text,
and none fails for a defect at all where no list of texts that is searched has options as elements. -/
theorem not_isDefect_of_run {scope : Scope} {e : Expr} {f : Failure} (hne : scope ≠ [])
    (hscope : ∀ b ∈ scope, ∃ name ident id, Binding.ofShape s.schema name ident id = .ok b)
    (hf : s.run scope e = .error f) :
    (f.cause.isDefect = true → f.cause = .mismatch .reference) ∧
      ∀ marked : Mark,
        (∀ x ∈ e.parts, ∀ a ∈ x.searched, ∀ shape t,
          shape.listsText = true → t.listsOptions = true → marked a shape t = true) →
        s.IsQuiet marked scope e → f.cause.isDefect = false := by
  have hsound := Binding.forall_isSound_of_ofShape hscope
  constructor
  · -- nothing is marked, so that the one defect is let through everywhere
    let F : Cause → Prop := fun c => c.isDefect = true → c = .mismatch .reference
    have hF : Pardons F := fun c hc hdefect => by rw [hc] at hdefect; cases hdefect
    let nothing : Mark := fun _ _ _ => false
    have hyields : Yields (s.compileWith (stopAt nothing (.mismatch .reference)) scope 0 false e) ⟨0⟩
        (fun _ => IsPassed nothing false e) F :=
      yields_compileWith hF (fun _ _ _ _ _ _ => rfl) e (fun _ _ _ _ _ _ _ _ _ _ => rfl) (absurd · hne) hsound
    exact cause_of_runWith hyields hf
  · intro marked hmarked hquiet
    have hF : Pardons fun c => c.isDefect = false := fun _ hc => hc
    have htolerates : ∀ x ∈ e.parts, Tolerates marked (fun c => c.isDefect = false) x := by
      intro x hx a ha shape t htext hlists hpassed
      rw [hmarked x hx a ha shape t htext hlists] at hpassed
      cases hpassed
    have hrun := (hquiet (.invalid .noCurrent)).trans hf
    exact cause_of_runWith (yields_compileWith hF (fun _ _ _ _ _ => rfl) e htolerates (absurd · hne) hsound) hrun

end Settings

open Samples (inventory output)

theorem forall_ofShape_output : ∀ b ∈ [output], ∃ name ident id, Binding.ofShape inventory name ident id = .ok b :=
  List.forall_mem_singleton.2 ⟨none, _, _, ofShape_output⟩

/-- Whether one of the items is named by a number. -/
def isNamedOne : Expr :=
  .call "contains" [.project (.flatten (.field "items")) (.field "name"), .literal (.int 1)]

/-- The marking of all lists of texts with options as elements. -/
def listsOptionalText : Settings.Mark := fun _ shape t => shape.listsText && t.listsOptions

theorem not_isDefect_of_run_isNamedOne : [output] ≠ [] ∧
    (∀ b ∈ [output], ∃ name ident id, Binding.ofShape inventory name ident id = .ok b) ∧
    (Settings.ofSchema inventory).IsQuiet listsOptionalText [output] isNamedOne ∧
    ∃ f, (Settings.ofSchema inventory).run [output] isNamedOne = .error f ∧ f.cause.isDefect = false := by
  let alarmed := (Settings.ofSchema inventory).runWith (Settings.stopAt listsOptionalText (.missingBinding "")) [output]
    isNamedOne
  have halarmed : Settings.meetsDefect alarmed = false ∧ alarmed.isOk = false := by decide +kernel
  have hquiet : (Settings.ofSchema inventory).IsQuiet listsOptionalText [output] isNamedOne :=
    Settings.isQuiet_of_meetsDefect "" halarmed.1
  obtain ⟨f, hrun⟩ := exists_of_not_isOk halarmed.2
  have hf := (hquiet _).symm.trans hrun
  obtain ⟨-, hquietly⟩ := Settings.not_isDefect_of_run (List.cons_ne_nil _ _) forall_ofShape_output hf
  refine ⟨List.cons_ne_nil _ _, forall_ofShape_output, hquiet, f, hf, hquietly listsOptionalText ?_ hquiet⟩
  intro _ _ _ _ shape t htext hlists
  rw [listsOptionalText, htext, hlists]
  rfl

/-- Whether one of the items has a name, where the names are selected as lists. -/
example :
    let selected : Expr := .project (.flatten (.project (.flatten (.field "items")) (.list [.field "name"]))) .current
    Settings.meetsDefect ((Settings.ofSchema inventory).run [output]
      (.call "contains" [selected, .literal (.string "x")])) = true := by decide +kernel

end Signpost.Traversal
