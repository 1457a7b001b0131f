import Signpost.Proofs.Traversal.Agreeing
import Signpost.Proofs.Traversal.Coherence
import Signpost.Traversal.Call
import Signpost.Traversal.Projection

/-!
# What steps do to shapes and types

One fact for each operation: coercions keep the shape and end in a type that differs only by references and options in
front of it or in the one asked for, and everything else gives a coherent value (`Computed.IsCoherent`) if it is
applied to coherent ones.  Evaluating inside an option or for each element gives one if what is evaluated there does;
two bodies that do the same on coherent values may stand for one another (`agree_apply`, `agree_projection`).
-/

namespace Signpost.Traversal

open Code (Ident)

/-- Whether the shape and the type of the value belong together. -/
def Computed.IsCoherent (schema : Schema) (c : Computed) : Prop := Coherent schema c.shape c.ty

instance (schema : Schema) (c : Computed) : Decidable (c.IsCoherent schema) :=
  inferInstanceAs (Decidable (Coherent _ _ _))

/-- Whether the shape and the type of the value in scope belong together. -/
def Binding.IsCoherent (schema : Schema) (b : Binding) : Prop := Coherent schema b.shape b.ty

variable {schema : Schema} {c left : Computed} {cs : List Computed} {scope : Scope} {retain : Bool}

/-! ### Coercions -/

private theorem ensures_dereferenceFrom {t : Ty} (h : c.ty = t) :
    Ensures (c.dereferenceFrom t) fun d => d.shape = c.shape ∧ d.ty.bare = c.ty.bare := by
  induction t generalizing c with
  | ref t ih =>
    rw [Computed.dereferenceFrom]
    refine .ite (fun _ => .after fun name => ?_) (fun _ => .pure ⟨rfl, rfl⟩)
    rw [h]
    exact ih rfl
  | option t =>
    cases t with
    | ref t =>
      rw [Computed.dereferenceFrom]
      refine .ite (fun _ => .after fun name => .pure ⟨rfl, ?_⟩) (fun _ => .pure ⟨rfl, rfl⟩)
      rw [h]
      rfl
    | _ => exact .pure ⟨rfl, rfl⟩
  | _ => exact .pure ⟨rfl, rfl⟩

theorem ensures_dereference (c : Computed) :
    Ensures c.dereference fun d => d.shape = c.shape ∧ d.ty.bare = c.ty.bare :=
  ensures_dereferenceFrom rfl

private theorem ensures_toTextFrom {t : Ty} (h : c.ty = t) :
    Ensures (c.toTextFrom t) fun d => d.shape = c.shape ∧ d.ty.bare = .str := by
  induction t generalizing c with
  | ref t ih =>
    cases t with
    | str =>
      refine .pure ⟨rfl, ?_⟩
      rw [h]
      rfl
    | string | model name => exact .after fun name => .pure ⟨rfl, rfl⟩
    | ref t =>
      -- one reference less, and on from there
      rw [Computed.toTextFrom]
      exact .after fun name => ih rfl
    | _ => exact .throw _
  | option t =>
    cases t with
    | ref t =>
      cases t with
      | str =>
        refine .pure ⟨rfl, ?_⟩
        rw [h]
        rfl
      | string | model name => exact .after fun item => .after fun name => .pure ⟨rfl, rfl⟩
      | _ => exact .throw _
    | _ => exact .throw _
  | _ => exact .throw _

theorem ensures_toText (c : Computed) : Ensures c.toText fun d => d.shape = c.shape ∧ d.ty.bare = .str :=
  ensures_toTextFrom rfl

theorem ensures_toNumber {target : Ty} (ht : target.isNumeric = true) (c : Computed) :
    Ensures (c.toNumber target) fun d => d.shape = c.shape ∧ d.ty.bare = target := by
  rw [Computed.toNumber]
  refine (ensures_dereference c).bind fun d hd => ?_
  have htarget : target.bare = target := Ty.bare_eq_of_isNumeric ht
  refine .ite (fun h => .pure ⟨hd.1, by rw [h, htarget]⟩) (fun _ => ?_)
  split
  · exact .after fun name => .pure ⟨hd.1, htarget⟩
  · exact .after fun name => .pure ⟨hd.1, htarget⟩
  · rename_i t h
    refine .ite (fun _ => .throw _) (fun _ => .ite (fun ht => .pure ⟨hd.1, ?_⟩) (fun _ => ?_))
    · rw [h, Ty.bare_option, ht, htarget]
    · exact .after fun item => .after fun name => .pure ⟨hd.1, htarget⟩
  · exact .throw _

theorem ensures_unwrap (h : c.IsCoherent schema) : Ensures c.unwrap (Computed.IsCoherent schema) := by
  rw [Computed.unwrap]
  split
  · rename_i t ht
    refine .after fun name => .pure (h.of_bare ?_)
    rw [ht]
    rfl
  · exact .pure h

/-! ### Values in scope -/

theorem coherent_of_referenceTo {id : ShapeId} {x : ValueShape × Ty} (h : referenceTo schema id = .ok x) :
    Coherent schema x.1 x.2 := by
  obtain ⟨shape, hshape, h⟩ := exists_of_bind_ok h
  obtain ⟨t, ht, h⟩ := exists_of_bind_ok h
  cases h
  exact (coherent_of_typeOf hshape ht).of_bare rfl

theorem Binding.isCoherent_of_ofShape {name : Option String} {ident : Ident} {id : ShapeId} {b : Binding}
    (h : ofShape schema name ident id = .ok b) : b.IsCoherent schema := by
  obtain ⟨x, hx, h⟩ := exists_of_bind_ok h
  cases h
  exact coherent_of_referenceTo hx

theorem ensures_member (c : Computed) (name : String) :
    Ensures (c.member schema retain name) (Computed.IsCoherent schema) := by
  rw [Computed.member]
  split
  · refine .after fun a => (Ensures.ofExcept fun x hx => coherent_of_referenceTo hx).bind fun x hx => ?_
    refine .after fun ident => .pure ?_
    -- one more option in front of the type, or none
    refine Coherent.of_bare hx ?_
    show (if a.isOptional && retain then Ty.option x.2 else x.2).bare = x.2.bare
    split <;> rfl
  · exact .throw _

theorem ensures_field (h : ∀ b ∈ scope, b.IsCoherent schema) (name : String) :
    Ensures (scope.field schema retain name) (Computed.IsCoherent schema) := by
  rw [Scope.field]
  refine .ite (fun _ => .throw _) (fun _ => ?_)
  split
  · rename_i b hb
    exact .ite (fun _ => .pure (h b (List.mem_of_find?_eq_some hb))) (fun _ => .throw _)
  · exact ensures_member _ _
  · exact .throw _

theorem ensures_current (h : ∀ b ∈ scope, b.IsCoherent schema) :
    Ensures (scope.current retain) (Computed.IsCoherent schema) := by
  rw [Scope.current]
  refine .ite (fun _ => .throw _) (fun _ => ?_)
  split
  · exact .throw _
  · rename_i b hb
    have hb : b.value.IsCoherent schema := h b (List.mem_of_find?_eq_some hb)
    exact .ite (fun _ => .pure hb) (fun _ => ensures_unwrap hb)

/-! ### Operators and functions -/

theorem ensures_comparison (op : Query.Comparison) (a b : Computed) :
    Ensures (comparison op a b) (Computed.IsCoherent schema) := by
  rw [comparison]
  split
  · exact .throw _
  · exact .after fun _ => .after fun _ => .pure rfl

theorem ensures_condition (operator : String) (h : c.IsCoherent schema) :
    Ensures (condition operator c) fun d => d.shape.isBool = true ∧ d.IsCoherent schema := by
  refine .ite (fun hs => ?_) (fun _ => .throw _)
  refine (ensures_dereference c).mono fun d hd => ⟨by rw [hd.1, hs], ?_⟩
  rw [Computed.IsCoherent, hd.1]
  exact h.of_bare hd.2

theorem ensures_negation (h : c.IsCoherent schema) : Ensures (negation c) (Computed.IsCoherent schema) :=
  (ensures_condition _ h).bind fun _ hd => .after fun _ => .pure (coherent_of_isBool hd.1 rfl)

theorem ensures_connective (isAnd : Bool) {a : Computed} (b : Computed) (ha : a.shape.isBool = true) :
    Ensures (connective isAnd a b) (Computed.IsCoherent schema) :=
  .after fun _ => .pure (coherent_of_isBool ha rfl)

theorem ensures_literal (l : Query.Literal) : Ensures (literal l) (Computed.IsCoherent schema) := by
  rw [literal]
  split
  · exact .throw _
  · rename_i shape t value h
    refine .after fun name => .pure ?_
    cases l with
    | bool b =>
      cases h
      rfl
    | int i =>
      cases h
      rfl
    | float x =>
      cases x <;> cases h
      rfl
    | string s =>
      cases h
      exact .inr rfl
    | _ => cases h

theorem ensures_lengthOf (c : Computed) : Ensures (lengthOf c) (Computed.IsCoherent schema) := by
  rw [lengthOf]
  split <;> exact .after fun op => .after fun name => .pure rfl

theorem ensures_keysOf (c : Computed) : Ensures (keysOf schema c) (Computed.IsCoherent schema) := by
  rw [keysOf]
  split
  · exact .after fun op => .after fun name => .pure ⟨.strRef, rfl, .inr rfl⟩
  · exact .after fun k => .after fun op => .after fun name => .pure ⟨.strRef, rfl, .inr rfl⟩
  · exact .after fun op => .after fun name => .pure ⟨.strRef, rfl, .inr rfl⟩

theorem ensures_containsIn (subject search : Computed) :
    Ensures (containsIn subject search) (Computed.IsCoherent schema) := by
  rw [containsIn]
  refine .unlessStopped fun _ => .after fun name => ?_
  split
  · exact .unlessStopped fun _ => .after fun subject => .after fun search => .pure rfl
  · refine .unlessStopped fun _ => ?_
    dsimp only
    split <;> exact .after fun item => .after fun v => .after fun pair => .pure rfl
  · exact .throw _

theorem ensures_call (f : Builtin) (name : String) (args : List Computed) :
    Ensures (f.call schema name args) (Computed.IsCoherent schema) := by
  unfold Builtin.call
  split
  · exact ensures_lengthOf _
  · exact ensures_keysOf _
  · exact ensures_containsIn _ _
  · exact .throw _

/-! ### Lists -/

theorem isNumeric_commonNumber (t u : Ty) : (Ty.commonNumber t u).isNumeric = true := by
  rw [Ty.commonNumber]
  split <;> rfl

theorem isNumeric_foldl (cs : List Computed) {t : Ty} (ht : t.isNumeric = true) :
    (cs.foldl (fun t c => Ty.commonNumber t c.ty) t).isNumeric = true := by
  induction cs generalizing t with
  | nil => exact ht
  | cons c cs ih => exact ih (isNumeric_commonNumber t c.ty)

/-- Values that can be compared, or are of one shape, are of one sort. -/
theorem ValueShape.sort_eq {a b : ValueShape} (h : a.isComparable b = true ∨ a = b) :
    a.isTextual = b.isTextual ∧ a.isNumber = b.isNumber ∧ a.isBool = b.isBool := by
  rcases h with h | rfl
  · cases a <;> cases b <;> first | exact ⟨rfl, rfl, rfl⟩ | cases h
  · exact ⟨rfl, rfl, rfl⟩

/-- Values in types in which they can be compared all go with the shape of the first of them. -/
private theorem ensures_allAlike {shape : ValueShape} (hc : ∀ c ∈ cs, c.IsCoherent schema)
    (hs : ∀ c ∈ cs, c.shape.isComparable shape = true ∨ c.shape = shape) :
    Ensures (allAlike shape cs) fun ds => ∀ d ∈ ds, Coherent schema shape d.ty := by
  refine .ite (fun htext => ?_) (fun htext => ?_)
  · exact .mapM fun c _ => (ensures_toText c).mono fun d hd => coherent_of_isTextual htext hd.2
  refine .ite (fun hnumber => ?_) (fun hnumber => ?_)
  · have htarget := isNumeric_foldl cs (t := .int 64) rfl
    exact .mapM fun c _ => (ensures_toNumber htarget c).mono fun d hd => coherent_of_isNumber hnumber (by rwa [hd.2])
  refine .ite (fun hbool => ?_) (fun hbool => ?_)
  · refine .mapM fun c hmem => (ensures_dereference c).mono fun d hd => coherent_of_isBool hbool ?_
    rw [hd.2]
    exact Coherent.bare_eq_bool (hc c hmem) ((ValueShape.sort_eq (hs c hmem)).2.2.trans hbool)
  · refine .pure fun c hmem => ?_
    rcases hs c hmem with h | h
    · -- other values cannot be compared
      simp [ValueShape.isComparable, htext, hnumber, hbool] at h
    · rw [← h]
      exact hc c hmem

private theorem ensures_allOptions {shape : ValueShape} (h : ∀ c ∈ cs, Coherent schema shape c.ty) :
    Ensures (allOptions cs) fun ds => ∀ d ∈ ds, Coherent schema shape d.ty := by
  refine .ite (fun _ => ?_) (fun _ => .pure h)
  refine .mapM fun c hmem => .ite (fun _ => .pure (h c hmem)) (fun _ => ?_)
  exact .after fun name => .pure ((h c hmem).of_bare rfl)

theorem ensures_listOf (h : ∀ c ∈ cs, c.IsCoherent schema) : Ensures (listOf cs) (Computed.IsCoherent schema) := by
  cases cs with
  | nil => exact .throw _
  | cons first rest =>
    rw [listOf]
    refine .unlessStopped fun hs => ?_
    simp only [Bool.not_eq_true', Bool.not_eq_false, List.all_eq_true, Bool.or_eq_true, decide_eq_true_eq] at hs
    refine (ensures_allAlike h hs).bind fun as has => (ensures_allOptions has).bind fun bs hbs => ?_
    refine .unlessStopped fun _ => .after fun name => .pure ⟨_, rfl, ?_⟩
    cases bs with
    | nil => exact h first List.mem_cons_self
    | cons b bs => exact hbs b List.mem_cons_self

/-! ### Projections -/

/-- The bodies do the same on coherent values, and give coherent values there. -/
def AgreeOn (schema : Schema) (f f' : Body) : Prop :=
  ∀ b, b.IsCoherent schema → Agree (f b) (f' b) (Computed.IsCoherent schema)

variable {body body' : Option Body} {f f' : Body}

theorem agree_apply (hf : AgreeOn schema f f') (h : left.IsCoherent schema) :
    Agree (apply f left) (apply f' left) (Computed.IsCoherent schema) := by
  rw [apply, apply]
  split
  · rename_i t ht
    refine .after fun item => ?_
    refine (hf ⟨none, item, left.shape, t⟩ (h.of_bare ?_)).bind fun r hr => (Ensures.after fun name => ?_).agree
    · rw [ht]
      rfl
    · exact .pure (Coherent.of_bare hr Ty.bare_unwrapOption)
  · refine (hf left.asCurrent h).bind fun r hr => (Ensures.pure ?_).agree
    exact hr

theorem ensures_elements (h : left.IsCoherent schema) :
    Ensures (elements left) fun x => Coherent schema x.1 x.2 := by
  rw [elements]
  split
  · exact .pure (h.item ‹_› ‹_›)
  · exact .throw _

/-- A list of what is coherent is coherent, with the options left out. -/
private theorem isCoherent_arrayOf {name : Ident} {steps : List Step} (h : c.IsCoherent schema) :
    Computed.IsCoherent schema ⟨name, .arrayOf c.shape, .vec c.ty.unwrapOption, steps⟩ :=
  ⟨_, rfl, Coherent.of_bare h Ty.bare_unwrapOption⟩

theorem agree_projection (hbody : Option.Rel (AgreeOn schema) body body') (h : left.IsCoherent schema) :
    Agree (projection body left) (projection body' left) (Computed.IsCoherent schema) := by
  refine (ensures_elements h).agree.bind fun x hx => ?_
  cases hbody with
  | none => exact (Ensures.pure h).agree
  | some hf =>
    refine .after fun item => ?_
    refine (hf ⟨none, item, x.1, x.2⟩ hx).bind fun r hr => ?_
    exact (Ensures.after fun name => .pure (isCoherent_arrayOf hr)).agree

theorem agree_filtered (query : Query.Expr) (hcondition : AgreeOn schema f f')
    (hbody : Option.Rel (AgreeOn schema) body body') (h : left.IsCoherent schema) :
    Agree (filtered query f body left) (filtered query f' body' left) (Computed.IsCoherent schema) := by
  refine (ensures_elements h).agree.bind fun x hx => .after fun item => ?_
  have hitem : Binding.IsCoherent schema ⟨none, item, x.1, x.2⟩ := hx
  refine (hcondition _ hitem).bind fun c _ => .unlessStopped fun _ => .after fun c => ?_
  cases hbody with
  | none =>
    -- without a body the elements themselves are listed
    have helement : Ensures (pure (Binding.value ⟨none, item, x.1, x.2⟩)) fun r => r.shape = x.1 := .pure rfl
    refine (helement.bind fun r hr => .after fun name => .pure ⟨_, rfl, ?_⟩).agree
    rw [hr]
    exact hx
  | some hf => exact (hf _ hitem).bind fun r hr => (Ensures.after fun name => .pure (isCoherent_arrayOf hr)).agree

theorem agree_valueProjection (hbody : Option.Rel (AgreeOn schema) body body') :
    Agree (valueProjection schema body left) (valueProjection schema body' left) (Computed.IsCoherent schema) := by
  refine .after fun id => (Ensures.ofExcept fun x hx => coherent_of_referenceTo hx).agree.bind fun x hx => ?_
  refine .after fun name => ?_
  cases hbody with
  | none => exact (Ensures.pure ⟨_, rfl, hx⟩).agree
  | some hf =>
    refine .after fun item => ?_
    exact (hf ⟨none, item, x.1, x.2⟩ hx).bind fun r hr => (Ensures.pure (isCoherent_arrayOf hr)).agree

theorem ensures_flattened (h : left.IsCoherent schema) : Ensures (flattened left) (Computed.IsCoherent schema) := by
  refine (ensures_elements h).bind fun x hx => ?_
  dsimp only
  split
  · exact .after fun name => .pure ⟨_, rfl, hx.item ‹_› ‹_›⟩
  · exact .pure h

end Signpost.Traversal
