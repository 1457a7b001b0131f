import Signpost.Proofs.Except
import Signpost.Proofs.Traversal.Drawing
import Signpost.Traversal.Call
import Signpost.Traversal.Projection

/-!
# Operations bind fresh names

One fact for each operation: the steps that it emits bind fresh names only, and use only what is known to the steps of
its operands, the values that these give, and what they bind themselves (`Computed.IsMade`).  Coercions add such steps
to those of a value (`Converts`).
-/

namespace Signpost.Traversal

open Code (Ident)

variable {α : Type} {lo n n' n'' : Namer} {known known' : Known} {names names' rest : List Ident}
  {a b c d left : Computed}
  {cs ds : List Computed} {t : Ty} {op : Operation} {stem : String}

/-- What the computation gives has the property, along with the names that are taken then. -/
abbrev Gives (m : Naming α) (n : Namer) (P : Namer → α → Prop) : Prop := Yields m n P fun _ => True

namespace Computed

/-- The names that the steps of the value bind anywhere. -/
def binders (c : Computed) : List Ident := Step.bindersOf c.steps

@[simp] theorem binders_mk {name : Ident} {shape : ValueShape} {steps : List Step} :
    binders ⟨name, shape, t, steps⟩ = Step.bindersOf steps := rfl

@[simp] theorem binders_bind {name : Ident} : (c.bind name t op).binders = c.binders ++ name :: op.binders := by
  simp [Computed.bind, binders]

/-- The steps use only what is known, and bind the local of the value, unless it is known. -/
def IsScoped (known : Known) (c : Computed) : Prop :=
  Step.AllScoped known c.steps ∧ known.with (Step.namesOf c.steps) c.name

/-- A value computed by steps that bind names drawn meanwhile. -/
structure IsMade (known : Known) (lo hi : Namer) (c : Computed) : Prop where
  fresh : Fresh lo hi c.binders
  isScoped : c.IsScoped known

theorem IsScoped.weaken (h : c.IsScoped known) (hk : ∀ i, known i → known' i) : c.IsScoped known' :=
  ⟨h.1.weaken hk, Known.with_mono hk h.2⟩

/-- A value that an operation gives on what steps have bound. -/
theorem isScoped_bind {name : Ident} {shape : ValueShape} {steps : List Step} (h : Step.AllScoped known steps)
    (hop : op.IsScoped (known.with (Step.namesOf steps))) :
    IsScoped known ⟨name, shape, t, steps ++ [.bind name op]⟩ := by
  refine ⟨Step.allScoped_append.2 ⟨h, ?_⟩, ?_⟩
  · rw [Step.AllScoped, Step.IsScoped]
    exact ⟨hop, trivial⟩
  · refine .inl ?_
    simp [Step.namesOf, Step.names]

/-- One more step, which makes something of the value. -/
theorem IsScoped.bind {name : Ident} (h : c.IsScoped known) (hop : ∀ known : Known, known c.name → op.IsScoped known) :
    (c.bind name t op).IsScoped known :=
  isScoped_bind h.1 (hop _ h.2)

end Computed

/-! ### Coercions -/

/-- The second value is made from the first one by more steps, which bind names drawn meanwhile. -/
structure Converts (n n' : Namer) (c d : Computed) : Prop where
  fresh : ∀ {lo} rest, Fresh lo n (rest ++ c.binders) → Fresh lo n' (rest ++ d.binders)
  isScoped : ∀ {known}, c.IsScoped known → d.IsScoped known

namespace Converts

theorem refl : Converts n n c c := ⟨fun _ => id, id⟩

theorem trans (h : Converts n n' a b) (h' : Converts n' n'' b c) : Converts n n'' a c :=
  ⟨fun rest hf => h'.fresh rest (h.fresh rest hf), fun hs => h'.isScoped (h.isScoped hs)⟩

theorem withShape {shape : ValueShape} (h : Converts n n' c d) : Converts n n' c { d with shape } :=
  ⟨h.fresh, h.isScoped⟩

/-- One more step with a new name. -/
theorem bind (hs : stem ∈ stems) (hb : op.binders = []) (hop : ∀ known : Known, known c.name → op.IsScoped known) :
    Converts n ⟨n.taken + 1⟩ c (c.bind (localName stem (n.taken + 1)) t op) := by
  refine ⟨fun rest h => ?_, fun h => h.bind hop⟩
  have hnames := h.snoc hs
  simpa [hb] using hnames

/-- One more step with a closure, whose parameter is drawn before the name of the step. -/
theorem bindMap {item : String} (hs : stem ∈ stems) (hi : item ∈ stems)
    (hb : op.binders = [localName item (n.taken + 1)]) (hop : ∀ known : Known, known c.name → op.IsScoped known) :
    Converts n ⟨n.taken + 1 + 1⟩ c (c.bind (localName stem (n.taken + 1 + 1)) t op) := by
  refine ⟨fun rest h => ?_, fun h => h.bind hop⟩
  have hnames := (h.snoc hi).snoc hs
  refine hnames.perm ?_
  simp only [Computed.binders_bind, hb]
  refine List.perm_iff_count.2 fun i => ?_
  simp only [List.count_append, List.count_cons, List.count_nil]
  omega

end Converts

private theorem converts_dereferenceFrom : Gives (c.dereferenceFrom t) n fun n' => Converts n n' c := by
  induction t generalizing c n with
  | ref t ih =>
    rw [Computed.dereferenceFrom]
    refine .ite (fun _ => .fresh ?_) fun _ => .pure .refl
    have hbind : Converts n ⟨n.taken + 1⟩ c (c.bind (localName "deref" (n.taken + 1)) t (.deref c.name)) :=
      .bind (by decide) rfl fun known h => by simpa using h
    exact ih.mono fun _ _ h => hbind.trans h
  | option t =>
    cases t with
    | ref t =>
      rw [Computed.dereferenceFrom]
      refine .ite (fun _ => .fresh (.pure ?_)) fun _ => .pure .refl
      exact .bind (by decide) rfl fun known h => by simpa using h
    | _ => exact .pure .refl
  | _ => exact .pure .refl

theorem converts_dereference (c : Computed) : Gives c.dereference n fun n' => Converts n n' c :=
  converts_dereferenceFrom

private theorem converts_toTextFrom : Gives (c.toTextFrom t) n fun n' => Converts n n' c := by
  induction t generalizing c n with
  | ref t ih =>
    cases t with
    | str => exact .pure .refl
    | string | model => exact .fresh (.pure (.bind (by decide) rfl fun known h => by simpa using h))
    | ref t =>
      rw [Computed.toTextFrom]
      refine .fresh (ih.mono fun _ _ h => Converts.trans ?_ h)
      exact .bind (by decide) rfl fun known h => by simpa using h
    | _ => exact .throw trivial
  | option t =>
    cases t with
    | ref t =>
      cases t with
      | str => exact .pure .refl
      | string | model =>
        exact .fresh (.fresh (.pure (.bindMap (by decide) (by decide) rfl fun known h => by simpa using h)))
      | _ => exact .throw trivial
    | _ => exact .throw trivial
  | _ => exact .throw trivial

theorem converts_toText (c : Computed) : Gives c.toText n fun n' => Converts n n' c := converts_toTextFrom

theorem converts_toNumber (target : Ty) (c : Computed) : Gives (c.toNumber target) n fun n' => Converts n n' c := by
  rw [Computed.toNumber]
  refine (converts_dereference c).bind fun n' d hd => .ite (fun _ => .pure hd) fun _ => ?_
  split
  · exact .fresh (.pure (hd.trans (.bind (by decide) rfl fun known h => by simpa using h)))
  · exact .fresh (.pure (hd.trans (.bind (by decide) rfl fun known h => by simpa using h)))
  · refine .ite (fun _ => .throw trivial) fun _ => .ite (fun _ => .pure hd) fun _ => .fresh (.fresh (.pure ?_))
    exact hd.trans (.bindMap (by decide) (by decide) rfl fun known h => by simpa using h)
  · exact .throw trivial

theorem converts_unwrap (c : Computed) : Gives c.unwrap n fun n' => Converts n n' c := by
  rw [Computed.unwrap]
  split
  · exact .fresh (.pure (.bind (by decide) rfl fun known h => by simpa using h))
  · exact .pure .refl

theorem converts_lift (c : Computed) : Gives c.lift n fun n' => Converts n n' c :=
  .fresh (.pure (.bind (by decide) rfl fun known h => by simpa using h))

theorem converts_condition (operator : String) (c : Computed) :
    Gives (condition operator c) n fun n' => Converts n n' c :=
  .ite (fun _ => converts_dereference c) fun _ => .throw trivial

/-! ### Values in scope -/

/-- What may be used where these values are in scope. -/
def Scope.Supplies (scope : Scope) : Known := fun i => i ∈ scope.map (·.ident)

variable {scope : Scope} {schema : Schema} {retain : Bool}

theorem Binding.isMade_value {b : Binding} (h : b ∈ scope) : b.value.IsMade scope.Supplies n n :=
  ⟨.nil, trivial, .inr (List.mem_map_of_mem h)⟩

theorem Converts.isMade (h : Converts n n' c d) (hc : c.IsMade known lo n) : d.IsMade known lo n' :=
  ⟨h.fresh [] hc.fresh, h.isScoped hc.isScoped⟩

theorem converts_member (name : String) (c : Computed) :
    Gives (c.member schema retain name) n fun n' => Converts n n' c := by
  rw [Computed.member]
  split
  · rename_i id _
    refine .ofExcept_bind (fun a ha => ?_) fun _ _ => trivial
    refine .ofExcept_bind (fun x _ => .fresh (.pure ?_)) fun _ _ => trivial
    have hs : "fld" ∈ stems := by decide
    have hop : a.operation.binders = [] ∧ ∀ known : Known, known c.name → a.operation.IsScoped known := by
      rw [access] at ha
      split at ha
      · split at ha
        · cases ha
        split at ha <;> cases ha
        dsimp only
        split <;> simp
      · cases ha
        simp
      · cases ha
    exact (Converts.bind hs hop.1 hop.2).withShape
  · exact .throw trivial

theorem isMade_field (name : String) :
    Gives (scope.field schema retain name) n fun n' => Computed.IsMade scope.Supplies n n' := by
  refine .ite (fun _ => .throw trivial) fun _ => ?_
  split
  · rename_i b hb
    exact .ite (fun _ => .pure (b.isMade_value (List.mem_of_find?_eq_some hb))) fun _ => .throw trivial
  · rename_i b _ hb
    have hmade : b.value.IsMade scope.Supplies n n := b.isMade_value (List.mem_of_find?_eq_some hb)
    exact (converts_member name b.value).mono fun _ _ h => h.isMade hmade
  · exact .throw trivial

theorem isMade_current : Gives (scope.current retain) n fun n' => Computed.IsMade scope.Supplies n n' := by
  refine .ite (fun _ => .throw trivial) fun _ => ?_
  split
  · exact .throw trivial
  · rename_i b hb
    have hmade : b.value.IsMade scope.Supplies n n := b.isMade_value (List.mem_of_find?_eq_some hb)
    exact .ite (fun _ => .pure hmade) fun _ => (converts_unwrap b.value).mono fun _ _ h => h.isMade hmade

/-! ### Operators -/

/-- Both values are made into others, the second one after the first. -/
structure ConvertsBoth (n n' : Namer) (a b : Computed) (p : Computed × Computed) : Prop where
  fresh : ∀ {lo} rest, Fresh lo n (rest ++ a.binders ++ b.binders) → Fresh lo n' (rest ++ p.1.binders ++ p.2.binders)
  left : ∀ {known}, a.IsScoped known → p.1.IsScoped known
  right : ∀ {known}, b.IsScoped known → p.2.IsScoped known

theorem Converts.both (ha : Converts n n' a c) (hb : Converts n' n'' b d) : ConvertsBoth n n'' a b (c, d) :=
  ⟨fun _ h => hb.fresh _ (ha.fresh _ h.swap).swap, ha.isScoped, hb.isScoped⟩

theorem converts_alike (a b : Computed) : Gives (alike a b) n fun n' => ConvertsBoth n n' a b := by
  refine .ite (fun _ => ?_) fun _ => .ite (fun _ => ?_) fun _ => ?_
  · exact (converts_toText a).bind fun _ _ ha => (converts_toText b).bind fun _ _ hb => .pure (ha.both hb)
  · exact (converts_toNumber _ a).bind fun _ _ ha => (converts_toNumber _ b).bind fun _ _ hb => .pure (ha.both hb)
  · exact (converts_dereference a).bind fun _ _ ha => (converts_dereference b).bind fun _ _ hb => .pure (ha.both hb)

/-- The steps of two values after one another. -/
theorem Computed.IsScoped.append (ha : a.IsScoped known) (hb : b.IsScoped known) :
    Step.AllScoped known (a.steps ++ b.steps) ∧ known.with (Step.namesOf (a.steps ++ b.steps)) a.name ∧
      known.with (Step.namesOf (a.steps ++ b.steps)) b.name := by
  have hb' : b.IsScoped (known.with (Step.namesOf a.steps)) := hb.weaken fun _ => Known.subset_with
  rw [Step.allScoped_append, Step.namesOf_append, Known.with_append]
  exact ⟨⟨ha.1, hb'.1⟩, Known.subset_with ha.2, hb'.2⟩

theorem isMade_comparison (op : Query.Comparison) (ha : a.IsScoped known) (hb : b.IsScoped known)
    (h : Fresh lo n (a.binders ++ b.binders)) :
    Gives (comparison op a b) n fun n' => Computed.IsMade known lo n' := by
  rw [comparison]
  split
  · exact .throw trivial
  · refine (converts_alike a b).bind fun n' p hp => .fresh (.pure ⟨?_, ?_⟩)
    · have hnames := (hp.fresh [] h).snoc (by decide : "cmp" ∈ stems)
      simpa [Computed.binders] using hnames
    · obtain ⟨hsteps, hleft, hright⟩ := (hp.left ha).append (hp.right hb)
      have h := And.intro hleft hright
      exact Computed.isScoped_bind hsteps (by simpa using h)

theorem isMade_negation (h : c.IsMade known lo n) : Gives (negation c) n fun n' => Computed.IsMade known lo n' := by
  refine (converts_condition _ c).bind fun n' d hd => .fresh (.pure (Converts.isMade ?_ h))
  exact hd.trans (.bind (by decide) rfl fun known h => by simpa using h)

theorem isMade_connective (isAnd : Bool) (ha : a.IsScoped known) (hb : b.IsScoped known)
    (h : Fresh lo n (a.binders ++ b.binders)) :
    Gives (connective isAnd a b) n fun n' => Computed.IsMade known lo n' := by
  have hb : b.IsScoped (known.with (Step.namesOf a.steps)) := hb.weaken fun _ => Known.subset_with
  refine .fresh (.pure ⟨?_, Computed.isScoped_bind ha.1 ?_⟩)
  · have hs : (if isAnd then "and" else "or") ∈ stems := by cases isAnd <;> decide
    refine (h.snoc hs).perm ?_
    rw [List.append_assoc, Computed.binders_bind]
    refine List.Perm.append_left _ ?_
    cases isAnd <;> exact List.perm_append_singleton _ _
  · cases isAnd <;> simpa [Tail.uses] using ⟨ha.2, hb.1, hb.2⟩

theorem isMade_literal (l : Query.Literal) : Gives (literal l) n fun n' => Computed.IsMade known n n' := by
  rw [literal]
  split
  · exact .throw trivial
  · refine .fresh (.pure ⟨?_, ?_, .inl List.mem_cons_self⟩)
    · exact Fresh.nil.snoc (by decide : "LIT" ∈ stems)
    · simp [Step.AllScoped, Step.IsScoped]

/-! ### Functions -/

theorem converts_lengthOf (c : Computed) : Gives (lengthOf c) n fun n' => Converts n n' c := by
  have hs : "len" ∈ stems := by decide
  rw [lengthOf]
  split
  · exact .pure_bind (.fresh (.pure (Converts.bind hs rfl fun known h => by simpa using h).withShape))
  · exact .pure_bind (.fresh (.pure (Converts.bind hs rfl fun known h => by simpa using h).withShape))
  · exact .throw_bind trivial

theorem converts_keysOf (c : Computed) : Gives (keysOf schema c) n fun n' => Converts n n' c := by
  have hs : "keys" ∈ stems := by decide
  have hk : "k" ∈ stems := by decide
  rw [keysOf]
  split
  · exact .pure_bind (.fresh (.pure (Converts.bind hs rfl fun known h => by simp).withShape))
  · refine .fresh (.pure_bind (.fresh (.pure (Converts.bindMap hs hk rfl fun known h => ?_).withShape)))
    simpa using h
  · exact .throw_bind trivial

theorem isMade_containsIn {subject search : Computed} (hsubject : subject.IsScoped known)
    (hsearch : search.IsScoped known) (h : Fresh lo n (subject.binders ++ search.binders)) :
    Gives (containsIn subject search) n fun n' => Computed.IsMade known lo n' := by
  have hname := h.snoc (by decide : "contains" ∈ stems)
  rw [containsIn]
  refine .unlessStopped trivial fun _ => .fresh ?_
  split
  · refine .unlessStopped trivial fun _ => (converts_toText subject).bind fun _ a ha => ?_
    refine (converts_toText search).bind fun _ b hb => .pure ?_
    have hboth := ha.both hb
    refine ⟨?_, ?_⟩
    · have hnames := hboth.fresh [localName "contains" (n.taken + 1)] (hname.perm List.perm_append_comm)
      refine hnames.perm ?_
      refine List.perm_iff_count.2 fun i => ?_
      simp only [Computed.binders, Step.bindersOf_append, Step.bindersOf_bind, Operation.binders, List.count_append,
        List.count_cons, List.count_nil]
      omega
    · obtain ⟨hsteps, hleft, hright⟩ := (hboth.left hsubject).append (hboth.right hsearch)
      have h := And.intro hleft hright
      exact Computed.isScoped_bind hsteps (by simpa using h)
  · refine .unlessStopped trivial fun _ => ?_
    dsimp only
    split
    · rename_i member _ item _
      refine .pure_bind (.fresh ((converts_alike _ search).bind fun n' p hp => .pure ⟨?_, ?_⟩))
      · have hv := hname.snoc (by decide : "v" ∈ stems)
        have hnames := hp.fresh
          (subject.binders ++ [localName "contains" (n.taken + 1), localName "v" (n.taken + 1 + 1)])
          (hv.perm ?_)
        · refine hnames.perm ?_
          refine List.perm_iff_count.2 fun i => ?_
          simp only [Computed.binders, Step.bindersOf_append, Step.bindersOf_bind, Operation.binders,
            List.count_append, List.count_cons, List.count_nil]
          omega
        · refine List.perm_iff_count.2 fun i => ?_
          simp only [Computed.binders_mk, Step.bindersOf, List.count_append, List.count_cons, List.count_nil]
          omega
      · obtain ⟨hsteps, hleft, hright⟩ := hsubject.append (hp.right hsearch)
        have helement : p.1.IsScoped ((known.with (Step.namesOf (subject.steps ++ p.2.steps))).with [_]) :=
          hp.left ⟨trivial, .inr (.inl List.mem_cons_self)⟩
        refine Computed.isScoped_bind hsteps ?_
        rw [Operation.IsScoped]
        refine ⟨hleft, helement.1, List.forall_mem_cons.2 ⟨helement.2, List.forall_mem_singleton.2 ?_⟩⟩
        exact Known.subset_with (Known.subset_with hright)
    · exact .throw_bind trivial
  · exact .throw trivial

/-- One value is made from each of the others, one after the other. -/
structure ConvertsAll (n n' : Namer) (cs ds : List Computed) : Prop where
  fresh : ∀ {lo} rest, Fresh lo n (rest ++ cs.flatMap Computed.binders) →
    Fresh lo n' (rest ++ ds.flatMap Computed.binders)
  isScoped : ∀ {known}, (∀ c ∈ cs, c.IsScoped known) → ∀ d ∈ ds, d.IsScoped known

theorem ConvertsAll.refl : ConvertsAll n n cs cs := ⟨fun _ => id, id⟩

theorem converts_mapM {f : Computed → Naming Computed} (hf : ∀ c ∈ cs, ∀ n, Gives (f c) n fun n' => Converts n n' c) :
    Gives (cs.mapM f) n fun n' => ConvertsAll n n' cs := by
  induction cs generalizing n with
  | nil => exact .pure .refl
  | cons c cs ih =>
    rw [List.mapM_cons]
    refine (hf c List.mem_cons_self n).bind fun n' d hd => ?_
    refine (ih fun c hc => hf c (List.mem_cons_of_mem _ hc)).bind fun n'' ds hds => ?_
    refine .pure ⟨fun rest h => ?_, fun h => ?_⟩
    · rw [List.flatMap_cons, ← List.append_assoc] at h ⊢
      exact hds.fresh _ (hd.fresh _ h.swap).swap
    · obtain ⟨hc, hcs⟩ := List.forall_mem_cons.1 h
      exact List.forall_mem_cons.2 ⟨hd.isScoped hc, hds.isScoped hcs⟩

theorem converts_allAlike (shape : ValueShape) (cs : List Computed) :
    Gives (allAlike shape cs) n fun n' => ConvertsAll n n' cs := by
  refine .ite (fun _ => ?_) fun _ => .ite (fun _ => ?_) fun _ => .ite (fun _ => ?_) fun _ => .pure .refl
  · exact converts_mapM fun c _ _ => converts_toText c
  · exact converts_mapM fun c _ _ => converts_toNumber _ c
  · exact converts_mapM fun c _ _ => converts_dereference c

theorem converts_allOptions (cs : List Computed) : Gives (allOptions cs) n fun n' => ConvertsAll n n' cs :=
  .ite (fun _ => converts_mapM fun c _ _ => .ite (fun _ => .pure .refl) fun _ => converts_lift c) fun _ => .pure .refl

/-- The steps of values after one another. -/
private theorem isScoped_flatMap (h : ∀ c ∈ cs, c.IsScoped known) :
    Step.AllScoped known (cs.flatMap (·.steps)) ∧
      ∀ c ∈ cs, known.with (Step.namesOf (cs.flatMap (·.steps))) c.name := by
  induction cs generalizing known with
  | nil => exact ⟨trivial, fun c hc => absurd hc List.not_mem_nil⟩
  | cons c cs ih =>
    obtain ⟨hc, hcs⟩ := List.forall_mem_cons.1 h
    have hcs : ∀ d ∈ cs, d.IsScoped (known.with (Step.namesOf c.steps)) := fun d hd =>
      (hcs d hd).weaken fun _ => Known.subset_with
    obtain ⟨hrest, hnames⟩ := ih hcs
    rw [List.flatMap_cons, Step.allScoped_append, Step.namesOf_append, Known.with_append]
    exact ⟨⟨hc.1, hrest⟩, List.forall_mem_cons.2 ⟨Known.subset_with hc.2, hnames⟩⟩

private theorem bindersOf_flatMap : Step.bindersOf (cs.flatMap (·.steps)) = cs.flatMap Computed.binders := by
  induction cs with
  | nil => rfl
  | cons c cs ih => rw [List.flatMap_cons, List.flatMap_cons, Step.bindersOf_append, ih, Computed.binders]

theorem isMade_listOf (hcs : ∀ c ∈ cs, c.IsScoped known) (h : Fresh lo n (cs.flatMap Computed.binders)) :
    Gives (listOf cs) n fun n' => Computed.IsMade known lo n' := by
  cases cs with
  | nil => exact .throw trivial
  | cons first rest =>
    rw [listOf]
    refine .unlessStopped trivial fun _ => (converts_allAlike _ _).bind fun _ as has => ?_
    refine (converts_allOptions as).bind fun _ bs hbs => .unlessStopped trivial fun _ => .fresh (.pure ⟨?_, ?_⟩)
    · have hnames := (hbs.fresh [] (has.fresh [] h)).snoc (by decide : "msl" ∈ stems)
      simpa [bindersOf_flatMap] using hnames
    · obtain ⟨hsteps, hnames⟩ := isScoped_flatMap (hbs.isScoped (has.isScoped hcs))
      exact Computed.isScoped_bind hsteps (by simpa using hnames)

/-! ### Projections -/

/-- What the body makes of a value, with that value in scope. -/
def MadeOn (f : Body) : Prop := ∀ b n, Gives (f b) n fun n' => Computed.IsMade (Scope.Supplies [b]) n n'

variable {body : Option Body} {f : Body}

/-- The value of a body in a closure, whose parameter is the element. -/
private theorem isScoped_closure {b : Binding} (h : c.IsScoped (Scope.Supplies [b])) (known : Known) :
    Step.AllScoped (known.with [b.ident]) c.steps ∧
      ∀ i ∈ c.asOption.uses, (known.with [b.ident]).with (Step.namesOf c.steps) i := by
  have hc : c.IsScoped (known.with [b.ident]) := h.weaken fun _ => .inl
  refine ⟨hc.1, ?_⟩
  have huses : c.asOption.uses = [c.name] := by
    rw [Computed.asOption]
    split <;> rfl
  simpa [huses] using hc.2

theorem isMade_apply (hf : MadeOn f) (h : left.IsMade known lo n) :
    Gives (apply f left) n fun n' => Computed.IsMade known lo n' := by
  rw [apply]
  split
  · refine .fresh ((hf _ _).bind fun n' r hr => .fresh (.pure ⟨?_, ?_⟩))
    · have hnames := h.fresh.closure (by decide : "sub" ∈ stems) hr.fresh
      simpa [Computed.binders] using hnames
    · refine Computed.isScoped_bind h.isScoped.1 ?_
      rw [Operation.IsScoped]
      exact ⟨h.isScoped.2, isScoped_closure hr.isScoped _⟩
  · refine (hf _ _).bind fun n' r hr => .pure ⟨?_, ?_⟩
    · have hnames := h.fresh.append hr.fresh
      simpa [Computed.binders] using hnames
    · have hr' : r.IsScoped (known.with (Step.namesOf left.steps)) := hr.isScoped.weaken fun i hi => by
        obtain rfl := List.mem_singleton.1 hi
        exact h.isScoped.2
      refine ⟨Step.allScoped_append.2 ⟨h.isScoped.1, hr'.1⟩, ?_⟩
      have hname := hr'.2
      rw [← Known.with_append] at hname
      simpa using hname

private theorem elements_run (left : Computed) : Gives (elements left) n fun n' _ => n' = n := by
  rw [elements]
  split
  · exact .pure rfl
  · exact .throw trivial

theorem isMade_projection (hbody : ∀ f ∈ body, MadeOn f) (h : left.IsMade known lo n) :
    Gives (projection body left) n fun n' => Computed.IsMade known lo n' := by
  refine (elements_run left).bind fun n' x hn => ?_
  subst hn
  cases body with
  | none => exact .pure h
  | some f =>
    refine .fresh ((hbody f rfl _ _).bind fun n' r hr => .fresh (.pure ⟨?_, ?_⟩))
    · have hnames := h.fresh.closure (by decide : "prj" ∈ stems) hr.fresh
      simpa [Computed.binders] using hnames
    · refine Computed.isScoped_bind h.isScoped.1 ?_
      rw [Operation.IsScoped]
      exact ⟨h.isScoped.2, isScoped_closure hr.isScoped _⟩

/-- A block that goes on only if a condition holds. -/
private theorem isScoped_guard {steps : List Step} {value : Tail} (hc : c.IsScoped known)
    (hsteps : Step.AllScoped known steps) (hvalue : ∀ i ∈ value.uses, known.with (Step.namesOf steps) i) :
    Step.AllScoped known (c.steps ++ .guard c.name :: steps) ∧
      ∀ i ∈ value.uses, known.with (Step.namesOf (c.steps ++ .guard c.name :: steps)) i := by
  have hnames : Step.namesOf (.guard c.name :: steps) = Step.namesOf steps := rfl
  rw [Step.allScoped_append, Step.AllScoped, Step.IsScoped, Step.names, Known.with_nil, Step.namesOf_append,
    Known.with_append, hnames]
  refine ⟨⟨hc.1, hc.2, hsteps.weaken fun _ => Known.subset_with⟩, fun i hi => ?_⟩
  exact Known.with_mono (fun _ => Known.subset_with) (hvalue i hi)

theorem isMade_filtered (query : Query.Expr) (hf : MadeOn f) (hbody : ∀ f ∈ body, MadeOn f)
    (h : left.IsMade known lo n) : Gives (filtered query f body left) n fun n' => Computed.IsMade known lo n' := by
  refine (elements_run left).bind fun n' x hn => .fresh ?_
  subst hn
  refine (hf _ _).bind fun n' c hc => .unlessStopped trivial fun _ => ?_
  refine (converts_dereference c).bind fun n' d hd => ?_
  have hd := hd.isMade hc
  have hs : "flt" ∈ stems := by decide
  cases body with
  | none =>
    refine .pure_bind (.fresh (.pure ⟨?_, Computed.isScoped_bind h.isScoped.1 ?_⟩))
    · have hnames := h.fresh.closure hs hd.fresh
      simpa [Computed.binders, Binding.value] using hnames
    · rw [Operation.IsScoped]
      exact ⟨h.isScoped.2, isScoped_guard (hd.isScoped.weaken fun _ => .inl) trivial
        (List.forall_mem_singleton.2 (.inr (.inl List.mem_cons_self)))⟩
  | some f =>
    refine (hbody f rfl _ _).bind fun n' r hr => .fresh (.pure ⟨?_, Computed.isScoped_bind h.isScoped.1 ?_⟩)
    · have hnames := h.fresh.closure hs (hd.fresh.append hr.fresh)
      simpa [Computed.binders] using hnames
    · obtain ⟨hsteps, hvalue⟩ := isScoped_closure hr.isScoped (known.with (Step.namesOf left.steps))
      rw [Operation.IsScoped]
      exact ⟨h.isScoped.2, isScoped_guard (hd.isScoped.weaken fun _ => .inl) hsteps hvalue⟩

theorem isMade_valueProjection (hbody : ∀ f ∈ body, MadeOn f) (h : left.IsMade known lo n) :
    Gives (valueProjection schema body left) n fun n' => Computed.IsMade known lo n' := by
  refine .ofExcept_bind (fun id _ => .ofExcept_bind (fun x _ => .fresh ?_) fun _ _ => trivial) fun _ _ => trivial
  have hname := h.fresh.snoc (by decide : "obj" ∈ stems)
  cases body with
  | none =>
    refine .pure ⟨?_, Computed.isScoped_bind h.isScoped.1 ?_⟩
    · simpa [Computed.binders] using hname
    · simpa using h.isScoped.2
  | some f =>
    refine .fresh ((hbody f rfl _ _).bind fun n' r hr => .pure ⟨?_, Computed.isScoped_bind h.isScoped.1 ?_⟩)
    · have hnames := (hname.snoc (by decide : "elem" ∈ stems)).append hr.fresh
      simpa [Computed.binders] using hnames
    · rw [Operation.IsScoped]
      exact ⟨h.isScoped.2, isScoped_closure hr.isScoped _⟩

theorem isMade_flattened (h : left.IsMade known lo n) :
    Gives (flattened left) n fun n' => Computed.IsMade known lo n' := by
  refine (elements_run left).bind fun n' x hn => ?_
  subst hn
  dsimp only
  split
  · have hs : "flat" ∈ stems := by decide
    exact .fresh (.pure ((Converts.bind hs rfl fun known h => by simpa using h).withShape.isMade h))
  · exact .pure h

theorem isMade_call (f : Builtin) (name : String) {args : List Computed} (hargs : ∀ c ∈ args, c.IsScoped known)
    (h : Fresh lo n (args.flatMap Computed.binders)) :
    Gives (f.call schema name args) n fun n' => Computed.IsMade known lo n' := by
  unfold Builtin.call
  split
  · rename_i c
    have hc : c.IsMade known lo n := ⟨by simpa using h, hargs c List.mem_cons_self⟩
    exact (converts_lengthOf c).mono fun _ _ hd => hd.isMade hc
  · rename_i c
    have hc : c.IsMade known lo n := ⟨by simpa using h, hargs c List.mem_cons_self⟩
    exact (converts_keysOf c).mono fun _ _ hd => hd.isMade hc
  · rename_i subject search
    exact isMade_containsIn (hargs subject (by simp)) (hargs search (by simp)) (by simpa using h)
  · exact .throw trivial

end Signpost.Traversal
