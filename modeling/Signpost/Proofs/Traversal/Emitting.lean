import Signpost.Proofs.Traversal.Blame
import Signpost.Proofs.Traversal.Typing

/-!
# Operations emit typed steps

One fact for each operation: applied to well-typed values of the types that values have, it emits well-typed steps.  The
exceptions are those where elements that are options are taken for what is inside: `contains` must not search a list of
options (`typed_containsIn`), and a body that asks for members must not be applied to the elements of one (`TypedOn`).
-/

namespace Signpost.Traversal

open Code (Ident)

variable {schema : Schema} {scope : Scope} {Γ Γ' : Types} {c left : Computed} {cs : List Computed} {retain : Bool}
  {t u : Ty} {id : ShapeId}

/-! ### Coercions -/

private theorem typed_dereferenceFrom (ht : c.ty = t) (h : c.IsTyped schema Γ) :
    Ensures (c.dereferenceFrom t) (Computed.IsTyped schema Γ) := by
  induction t generalizing c with
  | ref t ih =>
    rw [Computed.dereferenceFrom]
    refine .ite (fun hcopy => .after fun name => ih rfl (h.bind fun Δ hc => ?_)) fun _ => .pure h
    rw [ht] at hc
    exact .deref hc hcopy
  | option t =>
    cases t with
    | ref t =>
      rw [Computed.dereferenceFrom]
      refine .ite (fun hcopy => .after fun name => .pure (h.bind fun Δ hc => ?_)) fun _ => .pure h
      rw [ht] at hc
      exact .copied hc (Bool.and_eq_true _ _ ▸ hcopy).1
    | _ => exact .pure h
  | _ => exact .pure h

theorem typed_dereference (h : c.IsTyped schema Γ) : Ensures c.dereference (Computed.IsTyped schema Γ) :=
  typed_dereferenceFrom rfl h

private theorem typed_toTextFrom (ht : c.ty = t) (h : c.IsTyped schema Γ) :
    Ensures (c.toTextFrom t) (Computed.IsTyped schema Γ) := by
  induction t generalizing c with
  | ref t ih =>
    cases t with
    | str => exact .pure h
    | string | model =>
      refine .after fun name => .pure (h.bind fun Δ hc => ?_)
      rw [ht] at hc
      exact .text hc rfl
    | ref t =>
      rw [Computed.toTextFrom]
      refine .after fun name => ih rfl (h.bind fun Δ hc => ?_)
      rw [ht] at hc
      exact .deref hc rfl
    | _ => exact .throw _
  | option t =>
    cases t with
    | ref t =>
      cases t with
      | str => exact .pure h
      | string | model =>
        refine .after fun item => .after fun name => .pure (h.bind fun Δ hc => ?_)
        rw [ht] at hc
        exact .mapText hc rfl
      | _ => exact .throw _
    | _ => exact .throw _
  | _ => exact .throw _

theorem typed_toText (h : c.IsTyped schema Γ) : Ensures c.toText (Computed.IsTyped schema Γ) :=
  typed_toTextFrom rfl h

theorem typed_toNumber {target : Ty} (htarget : target.isNumeric = true) (h : c.IsTyped schema Γ) :
    Ensures (c.toNumber target) (Computed.IsTyped schema Γ) := by
  rw [Computed.toNumber]
  refine (typed_dereference h).bind fun d hd => .ite (fun _ => .pure hd) fun _ => ?_
  split
  · rename_i bits ht
    refine .after fun name => .pure (hd.bind fun Δ hc => ?_)
    rw [ht] at hc
    exact .cast hc rfl htarget
  · rename_i bits ht
    refine .after fun name => .pure (hd.bind fun Δ hc => ?_)
    rw [ht] at hc
    exact .cast hc rfl htarget
  · rename_i u ht
    refine .ite (fun _ => .throw _) fun hu => .ite (fun _ => .pure hd) fun _ => ?_
    refine .after fun item => .after fun name => .pure (hd.bind fun Δ hc => ?_)
    rw [ht] at hc
    exact .mapCast hc (by simpa using hu) htarget
  · exact .throw _

theorem typed_unwrap (h : c.IsTyped schema Γ) : Ensures c.unwrap (Computed.IsTyped schema Γ) := by
  rw [Computed.unwrap]
  split
  · rename_i t ht
    refine .after fun name => .pure (h.bind fun Δ hc => ?_)
    rw [ht] at hc
    exact .unwrap hc
  · exact .pure h

/-! ### Values in scope -/

/-- The values in scope with their types. -/
def Scope.types (scope : Scope) : Types := scope.map fun b => (b.ident, b.ty)

theorem Binding.isTyped_value {b : Binding} (h : b ∈ scope) : b.value.IsTyped schema scope.types :=
  Computed.isTyped_local (List.mem_map_of_mem h)

/-- A member is reached in the type of its object. -/
private theorem hasType_access {src : Ident} {name : String} {a : Access} {x : ValueShape × Ty}
    (ha : access schema id src name retain = .ok a) (hx : referenceTo schema a.target = .ok x) (hsrc : (src, t) ∈ Γ)
    (ht : t.Held) (hc : Coherent schema (.object (some id)) t) :
    a.operation.HasType schema Γ (if a.isOptional && retain then .option x.2 else x.2) := by
  have hobject : objectType? schema id = some t.referent := ht.referent ▸ hc
  obtain ⟨shape, -, hx⟩ := exists_of_bind_ok hx
  obtain ⟨u, hu, hx⟩ := exists_of_bind_ok hx
  cases hx
  rw [access] at ha
  rw [objectType?] at hobject
  split at ha
  · rename_i members hid
    rw [hid] at hobject
    split at ha
    · cases ha
    rename_i m hm
    split at ha
    · cases ha
    rename_i f hf
    cases ha
    have hfield : t.HasField schema f m := ⟨id, members, name, (Option.some.inj hobject).symm, hid, hm, hf⟩
    cases hrequired : m.required with
    | true => exact .field hsrc hfield hrequired hu
    | false =>
      have h : Operation.HasType schema Γ (.optionalField src f !retain) (.wrap (!!retain) (.ref u)) :=
        .optionalField hsrc hfield hrequired hu
      cases retain <;> exact h
  · rename_i v hid
    rw [hid] at hobject
    cases ha
    dsimp only at hobject hu
    rw [hu] at hobject
    have h : Operation.HasType schema Γ (.entry src name !retain) (.wrap (!!retain) (.ref u)) :=
      .entry hsrc (Option.some.inj hobject).symm
    cases retain <;> exact h
  · cases ha

theorem typed_member (hc : c.IsCoherent schema) (ht : c.ty.Held) (h : c.IsTyped schema Γ) (name : String) :
    Ensures (c.member schema retain name) (Computed.IsTyped schema Γ) := by
  rw [Computed.member]
  split
  · rename_i id hshape
    have hobject : Coherent schema (.object (some id)) c.ty := by rwa [Computed.IsCoherent, hshape] at hc
    refine .bind (P := fun a => access schema id c.name name retain = .ok a) (.ofExcept fun _ ha => ha) fun a ha => ?_
    refine .bind (P := fun x => referenceTo schema a.target = .ok x) (.ofExcept fun _ hx => hx) fun x hx => ?_
    refine .after fun ident => .pure (?_ : Computed.IsTyped schema Γ (c.bind ident _ a.operation))
    exact h.bind fun Δ hc => hasType_access ha hx hc ht hobject
  · exact .throw _

theorem typed_field (h : ∀ b ∈ scope, b.IsSound schema ∧ b.ty.Held) (name : String) :
    Ensures (scope.field schema retain name) (Computed.IsTyped schema scope.types) := by
  refine .ite (fun _ => .throw _) fun _ => ?_
  split
  · rename_i b hb
    exact .ite (fun _ => .pure (Binding.isTyped_value (List.mem_of_find?_eq_some hb))) fun _ => .throw _
  · rename_i b _ hb
    have hmem := List.mem_of_find?_eq_some hb
    have hc : b.value.IsCoherent schema := (h b hmem).1.coherent
    exact typed_member hc (h b hmem).2 (Binding.isTyped_value hmem) name
  · exact .throw _

theorem typed_current : Ensures (scope.current retain) (Computed.IsTyped schema scope.types) := by
  refine .ite (fun _ => .throw _) fun _ => ?_
  split
  · exact .throw _
  · rename_i b hb
    have h : b.value.IsTyped schema scope.types := Binding.isTyped_value (List.mem_of_find?_eq_some hb)
    exact .ite (fun _ => .pure h) fun _ => typed_unwrap h

/-! ### Operators -/

theorem typed_alike {a b : Computed} (ha : a.IsTyped schema Γ) (hb : b.IsTyped schema Γ') :
    Ensures (alike a b) fun p => p.1.IsTyped schema Γ ∧ p.2.IsTyped schema Γ' := by
  refine .ite (fun _ => ?_) fun _ => .ite (fun _ => ?_) fun _ => ?_
  · exact (typed_toText ha).bind fun a ha => (typed_toText hb).bind fun b hb => .pure ⟨ha, hb⟩
  · have htarget := isNumeric_commonNumber a.ty b.ty
    exact (typed_toNumber htarget ha).bind fun a ha => (typed_toNumber htarget hb).bind fun b hb => .pure ⟨ha, hb⟩
  · exact (typed_dereference ha).bind fun a ha => (typed_dereference hb).bind fun b hb => .pure ⟨ha, hb⟩

/-- Values that are there have one type when they are compared. -/
theorem typed_comparison (op : Query.Comparison) {a b : Computed} (ha : a.IsTyped schema Γ) (hb : b.IsTyped schema Γ)
    (hah : a.ty.Held) (hbh : b.ty.Held) (hac : a.IsCoherent schema) (hbc : b.IsCoherent schema) :
    Ensures (comparison op a b) (Computed.IsTyped schema Γ) := by
  rw [comparison]
  split
  · exact .throw _
  · rename_i hop
    have hcomp := isComparable_of_incomparable? hop
    have hty : Ensures (alike a b) fun p => false = false → p.1.ty = p.2.ty :=
      Yields.ensures (F := fun _ => True) fun n => yields_alike .none hah hbh hac hbc hcomp fun _ _ => trivial
    refine ((typed_alike ha hb).and hty).bind fun p hp => .after fun name => .pure ?_
    obtain ⟨⟨ha, hb⟩, hty⟩ := hp
    obtain ⟨Δ, hsteps, ha, hb⟩ := ha.append hb
    rw [← hty rfl] at hb
    exact Computed.isTyped_bind hsteps (.compare ha hb)

theorem typed_condition (operator : String) (h : c.IsTyped schema Γ) :
    Ensures (condition operator c) (Computed.IsTyped schema Γ) :=
  .ite (fun _ => typed_dereference h) fun _ => .throw _

theorem typed_negation (h : c.IsTyped schema Γ) (ht : c.ty.Held) (hc : c.IsCoherent schema) :
    Ensures (negation c) (Computed.IsTyped schema Γ) := by
  have hty : Ensures (condition "!" c) (·.ty = .bool) :=
    Yields.ensures (F := fun _ => True) fun n => yields_condition (fun _ _ => trivial) _ ht hc
  refine ((typed_condition _ h).and hty).bind fun d hd => .after fun name => .pure (hd.1.bind fun Δ hmem => ?_)
  rw [hd.2] at hmem
  exact .not hmem

theorem typed_connective (isAnd : Bool) {a b : Computed} (ha : a.IsTyped schema Γ) (hb : b.IsTyped schema Γ)
    (hat : a.ty = .bool) (hbt : b.ty = .bool) : Ensures (connective isAnd a b) (Computed.IsTyped schema Γ) := by
  refine .after fun name => .pure ?_
  obtain ⟨Δ, hsteps, ha⟩ := ha
  have hright := (hb.weaken hsteps.subset).plain
  rw [hat] at ha
  rw [hbt] at hright
  refine Computed.isTyped_bind hsteps ?_
  cases isAnd with
  | true => exact .both ha hright
  | false => exact .either ha hright

theorem typed_literal (l : Query.Literal) : Ensures (literal l) (Computed.IsTyped schema Γ) := by
  rw [literal]
  split
  · exact .throw _
  · rename_i shape t value h
    have hvalue : value.HasType t := by
      cases l with
      | bool b =>
        cases h
        exact .bool
      | int i =>
        cases h
        exact .int
      | float x =>
        cases x <;> cases h
        exact .float
      | string s =>
        cases h
        exact .string
      | _ => cases h
    exact .after fun name => .pure ⟨_, .const hvalue .nil, List.mem_cons_self⟩

/-! ### Functions -/

theorem typed_lengthOf (h : c.IsTyped schema Γ) (ht : c.ty.Held) (hc : c.IsCoherent schema) :
    Ensures (lengthOf c) (Computed.IsTyped schema Γ) := by
  rw [lengthOf]
  rw [Computed.IsCoherent] at hc
  split
  · rename_i id hshape
    rw [hshape] at hc
    refine .pure_bind (.after fun name => .pure ?_)
    exact h.bind fun Δ hmem => .charCount hmem (ht.referent ▸ hc)
  · rename_i id m hshape
    rw [hshape] at hc
    obtain ⟨u, hu, -⟩ := hc
    refine .pure_bind (.after fun name => .pure ?_)
    exact h.bind fun Δ hmem => .length hmem (ht.referent.trans hu)
  · exact .throw_bind _ _

/-- The type of a map. -/
private theorem exists_of_map {v : ShapeId} (hc : c.IsCoherent schema) (ht : c.ty.Held)
    (hid : c.shape.shapeId?.bind schema.get? = some (.map v)) (hobject : c.shape.isObject = true) :
    ∃ u, typeOf schema v = .ok u ∧ c.ty.referent = .map .string u := by
  rw [Computed.IsCoherent] at hc
  cases hshape : c.shape with
  | object id =>
    rw [hshape] at hc hid
    obtain ⟨id, rfl, hget⟩ := Option.bind_eq_some_iff.1 hid
    have hty : objectType? schema id = some c.ty.bare := hc
    rw [objectType?, hget] at hty
    dsimp only at hty
    obtain ⟨u, hu, hty⟩ := Option.map_eq_some_iff.1 hty
    refine ⟨u, ?_, ht.referent.trans hty.symm⟩
    cases hv : typeOf schema v with
    | ok w =>
      rw [hv] at hu
      exact congrArg Except.ok (Option.some.inj hu)
    | error e =>
      rw [hv] at hu
      cases hu
  | _ =>
    rw [hshape] at hobject
    cases hobject

theorem typed_keysOf (h : c.IsTyped schema Γ) (ht : c.ty.Held) (hc : c.IsCoherent schema) :
    Ensures (keysOf schema c) (Computed.IsTyped schema Γ) := by
  rw [keysOf]
  split
  · refine .pure_bind (.after fun name => .pure ?_)
    exact h.bind fun Δ hmem => .names
  · rename_i v hid hobject
    obtain ⟨u, -, hmap⟩ := exists_of_map hc ht hid hobject
    refine .after fun k => .pure_bind (.after fun name => .pure ?_)
    exact h.bind fun Δ hmem => .keys hmem hmap
  · exact .throw_bind _ _

/-- What `contains` compares with the elements of a list has their type, unless these are options. -/
theorem typed_containsIn {subject search : Computed} (h : subject.IsTyped schema Γ) (h' : search.IsTyped schema Γ)
    (ht : subject.ty.Held) (ht' : search.ty.Held) (hc : subject.IsCoherent schema) (hc' : search.IsCoherent schema)
    (hlists : subject.ty.listsOptions = false) : Ensures (containsIn subject search) (Computed.IsTyped schema Γ) := by
  rw [containsIn]
  refine .unlessStopped fun _ => .after fun name => ?_
  split
  · rename_i id hshape
    refine .unlessStopped fun htext => ?_
    have htext : search.shape.isTextual = true := by simpa using htext
    have hstext : subject.shape.isTextual = true := by
      rw [hshape]
      rfl
    have hty : Ensures subject.toText (·.ty = .strRef) :=
      Yields.ensures (F := fun _ => True) fun n => yields_toText (ht.textAs (hc.isText hstext))
    have hty' : Ensures search.toText (·.ty = .strRef) :=
      Yields.ensures (F := fun _ => True) fun n => yields_toText (ht'.textAs (hc'.isText htext))
    refine ((typed_toText h).and hty).bind fun a ha => ((typed_toText h').and hty').bind fun b hb => .pure ?_
    obtain ⟨Δ, hsteps, hmem, hmem'⟩ := ha.1.append hb.1
    rw [ha.2] at hmem
    rw [hb.2] at hmem'
    exact Computed.isTyped_bind hsteps (.containsText hmem hmem')
  · rename_i id member hshape
    refine .unlessStopped fun hcomp => ?_
    have hcomp : member.isComparable search.shape = true := by simpa using hcomp
    dsimp only
    split
    · rename_i item hitem
      obtain ⟨isOption, w, hwraps, hw, hoption⟩ := ht.element hitem
      have ho : isOption = false := by
        cases isOption with
        | false => rfl
        | true => exact absurd (hoption rfl) (by simp [hlists])
      rw [Computed.IsCoherent, hshape] at hc
      have hmember := hc.element ht hitem
      refine .pure_bind (.after fun v => ?_)
      have hty : Ensures (alike ⟨v, member, .ref item, []⟩ search) fun p => isOption = false → p.1.ty = p.2.ty :=
        Yields.ensures (F := fun _ => True) fun n => yields_alike hwraps hw ht' hmember hc' hcomp fun _ _ => trivial
      have helement : Computed.IsTyped schema [(v, .ref item)] ⟨v, member, .ref item, []⟩ :=
        Computed.isTyped_local List.mem_cons_self
      refine ((typed_alike helement h').and hty).bind fun p hp => .pure ?_
      obtain ⟨⟨helement, hsearch⟩, hty⟩ := hp
      -- the steps of the element run inside the closure, after those of what is searched for
      obtain ⟨Δ, hsteps, hsubject, hmem⟩ := h.append hsearch
      obtain ⟨Θ, hbody, hvalue⟩ := helement.weaken (List.cons_subset_cons _ (List.nil_subset Δ))
      rw [hty ho] at hvalue
      refine Computed.isTyped_bind hsteps (.any hsubject hitem (.intro hbody (.equal hvalue ?_)))
      exact hbody.subset (List.mem_cons_of_mem _ hmem)
    · exact .throw_bind _ _
  · exact .throw _

theorem typed_call (f : Builtin) (name : String) {args : List Computed}
    (hargs : ∀ c ∈ args, c.IsTyped schema Γ ∧ c.ty.Held ∧ c.IsCoherent schema)
    (hlists : ∀ c ∈ args.head?, f = .contains → c.ty.listsOptions = false) :
    Ensures (f.call schema name args) (Computed.IsTyped schema Γ) := by
  unfold Builtin.call
  split
  · rename_i c
    obtain ⟨h, ht, hc⟩ := hargs c List.mem_cons_self
    exact typed_lengthOf h ht hc
  · rename_i c
    obtain ⟨h, ht, hc⟩ := hargs c List.mem_cons_self
    exact typed_keysOf h ht hc
  · rename_i subject search
    obtain ⟨h, ht, hc⟩ := hargs subject (by simp)
    obtain ⟨h', ht', hc'⟩ := hargs search (by simp)
    exact typed_containsIn h h' ht ht' hc hc' (hlists subject rfl rfl)
  · exact .throw _

/-! ### Lists -/

theorem typed_allAlike {shape : ValueShape} (h : ∀ c ∈ cs, c.IsTyped schema Γ) :
    Ensures (allAlike shape cs) fun ds => ∀ d ∈ ds, d.IsTyped schema Γ := by
  refine .ite (fun _ => ?_) fun _ => .ite (fun _ => ?_) fun _ => .ite (fun _ => ?_) fun _ => ?_
  · exact .mapM fun c hc => typed_toText (h c hc)
  · exact .mapM fun c hc => typed_toNumber (isNumeric_foldl cs rfl) (h c hc)
  · exact .mapM fun c hc => typed_dereference (h c hc)
  · exact .pure h

theorem typed_allOptions (h : ∀ c ∈ cs, c.IsTyped schema Γ) :
    Ensures (allOptions cs) fun ds => ∀ d ∈ ds, d.IsTyped schema Γ := by
  refine .ite (fun _ => .mapM fun c hc => .ite (fun _ => .pure (h c hc)) fun _ => ?_) fun _ => .pure h
  exact .after fun name => .pure ((h c hc).bind fun Δ hmem => .wrap hmem)

theorem typed_listOf (h : ∀ c ∈ cs, c.IsTyped schema Γ) : Ensures (listOf cs) (Computed.IsTyped schema Γ) := by
  cases cs with
  | nil => exact .throw _
  | cons first rest =>
    rw [listOf]
    refine .unlessStopped fun _ => (typed_allAlike h).bind fun as has => (typed_allOptions has).bind fun bs hbs => ?_
    refine .unlessStopped fun hsame => .after fun name => .pure ?_
    simp only [Bool.not_eq_true', Bool.not_eq_false, List.all_eq_true, decide_eq_true_eq] at hsame
    obtain ⟨Δ, hsteps, hmem⟩ := Computed.extend_flatMap hbs
    refine Computed.isTyped_bind hsteps (.list fun i hi => ?_)
    obtain ⟨b, hb, rfl⟩ := List.mem_map.1 hi
    rw [← hsame b hb]
    exact hmem b hb

/-! ### Projections -/

variable {body : Option Body} {f : Body} {opens : Bool}

/-- The body emits typed steps for a value that may be worked with, which has to be there if the body asks for members
of it. -/
def TypedOn (schema : Schema) (opens retain : Bool) (f : Body) : Prop :=
  ∀ b, b.IsSound schema → (opens = true → b.ty.Held) →
    Ensures (f b) fun c => c.IsTyped schema [(b.ident, b.ty)] ∧ c.ty.Kept retain ∧ c.IsCoherent schema

theorem TypedOn.mono {opens' : Bool} (hf : TypedOn schema opens retain f) (h : opens = true → opens' = true) :
    TypedOn schema opens' retain f :=
  fun b hb hheld => hf b hb fun hopens => hheld (h hopens)

/-- Elements of a list are there, if the body needs them to be. -/
private theorem held_of_opens (ht : t.Kept isOption) (h : isOption = true → opens = false) : opens = true → t.Held := by
  intro hopens
  cases isOption with
  | false => exact ht.toHeld
  | true => exact absurd (h rfl) (by simp [hopens])

theorem typed_apply (hf : TypedOn schema opens retain f) (h : left.IsTyped schema Γ) (ht : left.ty.Kept retain)
    (hc : left.IsCoherent schema) : Ensures (apply f left) (Computed.IsTyped schema Γ) := by
  rw [apply]
  split
  · rename_i t hty
    rw [hty] at ht
    have hheld : t.Held := ht.unwrapOption
    refine .after fun item => ?_
    have hb : Binding.IsSound schema ⟨none, item, left.shape, t⟩ := ⟨hc.of_bare (by rw [hty]; rfl), .held hheld⟩
    refine (hf _ hb fun _ => hheld).bind fun r hr => .after fun name => .pure ?_
    obtain ⟨Δ, hsteps, hleft⟩ := h
    rw [hty] at hleft
    have hr := hr.1.weaken (List.cons_subset_cons _ (List.nil_subset Δ))
    exact Computed.isTyped_bind hsteps (.andThen hleft hr.asOption)
  · rename_i hno
    refine (hf left.asCurrent ⟨hc, ht.weaken⟩ fun _ => ht.held_of_not_option hno).bind fun r hr => .pure ?_
    obtain ⟨Δ, hsteps, hleft⟩ := h
    obtain ⟨Θ, hsteps', hr⟩ := hr.1.weaken (List.cons_subset.2 ⟨hleft, List.nil_subset Δ⟩)
    exact ⟨Θ, hsteps.append hsteps', hr⟩

private theorem ensures_element (ht : left.ty.Held) (hc : left.IsCoherent schema)
    (hopens : left.ty.listsOptions = true → opens = false) :
    Ensures (elements left) fun x =>
      left.ty.item? = some x.2 ∧ (∀ item, Binding.IsSound schema ⟨none, item, x.1, x.2⟩) ∧
        (opens = true → x.2.Held) := by
  rw [elements]
  split
  · rename_i member item hmember hitem
    have hkept := ht.item hitem
    exact .pure ⟨hitem, fun _ => ⟨hc.item hmember hitem, hkept.weaken⟩, held_of_opens hkept hopens⟩
  · exact .throw _

theorem typed_projection (hbody : ∀ f ∈ body, TypedOn schema opens true f) (h : left.IsTyped schema Γ)
    (ht : left.ty.Held) (hc : left.IsCoherent schema) (hopens : left.ty.listsOptions = true → opens = false) :
    Ensures (projection body left) (Computed.IsTyped schema Γ) := by
  refine (ensures_element ht hc hopens).bind fun x hx => ?_
  obtain ⟨hitem, hsound, hheld⟩ := hx
  cases body with
  | none => exact .pure h
  | some f =>
    refine .after fun item => (hbody f rfl _ (hsound item) hheld).bind fun r hr => .after fun name => .pure ?_
    obtain ⟨Δ, hsteps, hleft⟩ := h
    have hr := hr.1.weaken (List.cons_subset_cons _ (List.nil_subset Δ))
    exact Computed.isTyped_bind hsteps (.eachElement hleft hitem hr.asOption)

/-- The closure of a filter: its condition, and what is done with the elements that meet it. -/
private theorem blockHasType_guard {c r : Computed} (hc : c.IsTyped schema Γ) (hbool : c.ty = .bool)
    {value : Tail} (hr : BlockHasType schema Γ r.steps value t) :
    BlockHasType schema Γ (c.steps ++ .guard c.name :: r.steps) value t := by
  obtain ⟨Δ, hsteps, hmem⟩ := hc
  rw [hbool] at hmem
  cases hr.weaken hsteps.subset with
  | intro hsteps' hvalue => exact .intro (hsteps.append (.guard hmem hsteps')) hvalue

theorem typed_filtered (query : Query.Expr) (hf : TypedOn schema opens false f)
    (hbody : ∀ f ∈ body, TypedOn schema opens true f) (h : left.IsTyped schema Γ) (ht : left.ty.Held)
    (hc : left.IsCoherent schema) (hopens : left.ty.listsOptions = true → opens = false) :
    Ensures (filtered query f body left) (Computed.IsTyped schema Γ) := by
  refine (ensures_element ht hc hopens).bind fun x hx => .after fun item => ?_
  obtain ⟨hitem, hsound, hheld⟩ := hx
  refine (hf _ (hsound item) hheld).bind fun c hcond => .unlessStopped fun hs => ?_
  obtain ⟨hcond, hct, hcc⟩ := hcond
  have hs : c.shape.isBool = true := by simpa using hs
  have hbool : Ensures c.dereference (·.ty = .bool) :=
    Yields.ensures (F := fun _ => True) fun n => yields_dereference_bool hct.toHeld hcc hs
  refine ((typed_dereference hcond).and hbool).bind fun c hc => ?_
  obtain ⟨Δ, hsteps, hleft⟩ := h
  have hΔ : [(item, x.2)] ⊆ (item, x.2) :: Δ := List.cons_subset_cons _ (List.nil_subset Δ)
  cases body with
  | none =>
    refine .pure_bind (.after fun name => .pure ?_)
    have hvalue : BlockHasType schema [(item, x.2)] [] (.present item) (.option x.2) :=
      .intro .nil (.present List.mem_cons_self)
    exact Computed.isTyped_bind hsteps (.eachElement hleft hitem
      ((blockHasType_guard (r := Binding.value ⟨none, item, x.1, x.2⟩) hc.1 hc.2 hvalue).weaken hΔ))
  | some f =>
    refine (hbody f rfl _ (hsound item) hheld).bind fun r hr => .after fun name => .pure ?_
    have hblock := (blockHasType_guard hc.1 hc.2 hr.1.asOption).weaken hΔ
    exact Computed.isTyped_bind hsteps (.eachElement hleft hitem hblock)

theorem typed_valueProjection (hbody : ∀ f ∈ body, TypedOn schema opens true f) (h : left.IsTyped schema Γ)
    (ht : left.ty.Held) (hc : left.IsCoherent schema) :
    Ensures (valueProjection schema body left) (Computed.IsTyped schema Γ) := by
  refine .bind (P := fun v => ∃ u, typeOf schema v = .ok u ∧ left.ty.referent = .map .string u) (.ofExcept ?_)
    fun v hv => ?_
  · intro v hv
    rw [valueShape] at hv
    split at hv <;> cases hv
    exact exists_of_map hc ht ‹_› ‹_›
  obtain ⟨u, hu, hmap⟩ := hv
  refine .bind (P := fun x => x.2 = .ref u ∧ Coherent schema x.1 x.2) (.ofExcept ?_) fun x hx => ?_
  · intro x hx
    refine ⟨?_, coherent_of_referenceTo hx⟩
    obtain ⟨shape, -, hx⟩ := exists_of_bind_ok hx
    rw [hu] at hx
    cases hx
    rfl
  refine .after fun name => ?_
  obtain ⟨Δ, hsteps, hleft⟩ := h
  obtain ⟨shape, _⟩ := x
  obtain ⟨rfl, hxc⟩ := hx
  cases body with
  | none => exact .pure (Computed.isTyped_bind hsteps (.values hleft hmap))
  | some f =>
    have hheld : (Ty.ref u).Held := .data (isData_of_typeOf hu)
    refine .after fun item => ?_
    refine (hbody f rfl ⟨none, item, shape, .ref u⟩ ⟨hxc, .held hheld⟩ fun _ => hheld).bind fun r hr => .pure ?_
    have hr := hr.1.weaken (List.cons_subset_cons _ (List.nil_subset Δ))
    exact Computed.isTyped_bind hsteps (.eachValue hleft hmap hr.asOption)

theorem typed_flattened (h : left.IsTyped schema Γ) : Ensures (flattened left) (Computed.IsTyped schema Γ) := by
  refine .bind (P := fun x => left.ty.item? = some x.2) ?_ fun x hx => ?_
  · rw [elements]
    split
    · rename_i hitem
      exact .pure hitem
    · exact .throw _
  dsimp only
  split
  · rename_i hnested
    exact .after fun name => .pure (h.bind fun Δ hmem => .flatten hmem hx hnested)
  · exact .pure h

end Signpost.Traversal
