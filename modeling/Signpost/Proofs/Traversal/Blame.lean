import Signpost.Proofs.Traversal.Coercing
import Signpost.Proofs.Traversal.Operations

/-!
# Why operations fail

One fact for each operation: applied to coherent values of the types that values have, it fails only for causes that
lie with the query (`Cause.isDefect`), and gives a value of such a type again.  The causes are those of any property `F`
that causes in the query have (`Pardons`), so that a defect can be let through where it may come up: text is searched
for in a list of options (`yields_containsIn`).
-/

namespace Signpost.Traversal

open Code (Ident)

/-- All causes that lie with the query have the property. -/
abbrev Pardons (F : Cause → Prop) : Prop := ∀ c, c.isDefect = false → F c

/-- There is something in scope, or asking for it where there is nothing has the property, too. -/
abbrev PardonsEmpty (scope : Scope) (F : Cause → Prop) : Prop := scope = [] → ∀ name, F (.missingBinding name)

/-- A value in scope that may be worked with: one with a name is there. -/
structure Binding.IsSound (schema : Schema) (b : Binding) : Prop where
  coherent : b.IsCoherent schema
  kept : b.ty.Kept b.name.isNone

/-- Whether this is a list of texts or enums. -/
def ValueShape.listsText : ValueShape → Bool
  | array _ m => m.isTextual
  | _ => false

variable {schema : Schema} {scope : Scope} {n : Namer} {F : Cause → Prop} {c left : Computed} {cs : List Computed}
  {retain isOption : Bool} {t u : Ty} {id : ShapeId}

/-! ### Coercions -/

theorem yields_dereference (c : Computed) :
    Yields c.dereference n (fun _ d => d.ty = c.ty.dereferenced) F :=
  c.becomes_dereference.mono fun _ _ hd => hd.ty

theorem yields_toText (h : c.ty.TextAs u) : Yields c.toText n (fun _ d => d.ty = u) F := by
  refine c.becomes_toText.imp ?_ fun _ hno => (hno u h).elim
  rintro n' d ⟨v, hv, hd⟩
  rw [hd.ty, hv.eq_wrap, h.eq_wrap]

theorem yields_toNumber {target : Ty} (ht : target.isNumeric = true) (hu : u.isNumeric = true)
    (h : c.ty.dereferenced = .wrap isOption u) :
    Yields (c.toNumber target) n (fun _ d => d.ty = .wrap isOption target) F := by
  have hreferent : (Ty.wrap isOption u).referent.isOption = isOption := by
    cases isOption <;> cases u <;> first | rfl | cases hu
  have hnumeric : (Ty.wrap isOption u).unwrapOption.isNumeric = true := by
    cases isOption <;> cases u <;> first | rfl | cases hu
  refine (Computed.becomes_toNumber ht c).imp (fun n' d hd => ?_) fun cause hno => ?_
  · rw [hd.ty, ← Ty.isOption_referent_dereferenced, h, hreferent]
  · rw [h, hnumeric] at hno
    cases hno

theorem yields_unwrap (h : c.ty.Kept retain) : Yields c.unwrap n (fun _ d => d.ty.Held) F := by
  rw [Computed.unwrap]
  split
  · rename_i t ht
    rw [ht] at h
    exact .fresh (.pure h.unwrapOption)
  · rename_i hno
    exact .pure (h.held_of_not_option hno)

/-! ### Values in scope -/

/-- That the schema tells no category or type is never a defect. -/
private theorem blames_isDefect : Blames schema (fun _ => True) (·.isDefect = false) where
  targets _ _ _ _ _ _ := trivial
  missing _ _ _ := rfl
  unsupported _ := rfl
  endless _ := rfl

theorem held_of_referenceTo {x : ValueShape × Ty} (h : referenceTo schema id = .ok x) : x.2.Held := by
  obtain ⟨shape, -, h⟩ := exists_of_bind_ok h
  obtain ⟨t, ht, h⟩ := exists_of_bind_ok h
  cases h
  exact .data (isData_of_typeOf ht)

theorem Binding.held_of_ofShape {name : Option String} {ident : Ident} {b : Binding}
    (h : ofShape schema name ident id = .ok b) : b.ty.Held := by
  obtain ⟨x, hx, h⟩ := exists_of_bind_ok h
  cases h
  exact held_of_referenceTo hx

theorem Binding.isSound_of_ofShape {name : Option String} {ident : Ident} {b : Binding}
    (h : ofShape schema name ident id = .ok b) : b.IsSound schema :=
  ⟨isCoherent_of_ofShape h, .held (held_of_ofShape h)⟩

theorem Binding.forall_isSound_of_ofShape
    (h : ∀ b ∈ scope, ∃ name ident id, ofShape schema name ident id = .ok b) : ∀ b ∈ scope, b.IsSound schema := by
  intro b hb
  obtain ⟨name, ident, id, hid⟩ := h b hb
  exact isSound_of_ofShape hid

theorem yields_referenceTo (hF : Pardons F) (id : ShapeId) :
    Yields (MonadExcept.ofExcept (referenceTo schema id) : Naming _) n (fun _ x => x.2.Held) F :=
  .ofExcept (fun _ hx => held_of_referenceTo hx) fun _ he => hF _ (blames_isDefect.referenceTo trivial he)

/-- Where an object has a shape and a type that belong together, the shape is that of a structure or a map. -/
private theorem not_isDefect_of_access {src : Ident} {name : String} {e : Cause}
    (hc : Coherent schema (.object (some id)) t) (h : access schema id src name retain = .error e) :
    e.isDefect = false := by
  rw [access] at h
  split at h
  · split at h
    · cases h
      rfl
    · split at h <;> cases h
      rfl
  · cases h
  · rename_i hrecord hmap
    -- the types of objects are only those of structures and maps
    have ht : objectType? schema id = some t.bare := hc
    rw [objectType?] at ht
    split at ht
    · exact absurd ‹_› (hrecord _)
    · exact absurd ‹_› (hmap _)
    · cases ht

theorem yields_member (hF : Pardons F) (hc : c.IsCoherent schema) (name : String) :
    Yields (c.member schema retain name) n (fun _ d => d.ty.Kept retain) F := by
  rw [Computed.member]
  split
  · rename_i id hshape
    have hobject : Coherent schema (.object (some id)) c.ty := by rwa [Computed.IsCoherent, hshape] at hc
    refine .bind (P := fun _ _ => True) (.ofExcept (fun _ _ => trivial) fun _ he =>
      hF _ (not_isDefect_of_access hobject he)) fun _ a _ => ?_
    refine (yields_referenceTo hF _).bind fun _ x hx => .fresh (.pure ?_)
    show Ty.Kept retain (if a.isOptional && retain then .option x.2 else x.2)
    cases a.isOptional <;> cases retain <;> first | exact .held hx | exact .option hx
  · exact .throw (hF _ rfl)

theorem yields_field (hF : Pardons F) (hvoid : PardonsEmpty scope F) (h : ∀ b ∈ scope, b.IsSound schema)
    (name : String) :
    Yields (scope.field schema retain name) n (fun _ d => d.ty.Kept retain) F := by
  rw [Scope.field]
  refine .ite (fun hempty => .throw (hvoid (List.isEmpty_iff.1 hempty) _)) fun _ => ?_
  split
  · rename_i b hb
    refine .ite (fun _ => .pure ?_) fun _ => .throw (hF _ rfl)
    have hkept := (h b (List.mem_of_find?_eq_some hb)).kept
    have hname := List.find?_some hb
    rw [eq_of_beq hname] at hkept
    exact .held hkept.toHeld
  · rename_i b _ hb
    have hc : b.value.IsCoherent schema := (h b (List.mem_of_find?_eq_some hb)).coherent
    exact yields_member hF hc name
  · exact .throw (hF _ rfl)

theorem yields_current (hF : Pardons F) (hvoid : PardonsEmpty scope F) (h : ∀ b ∈ scope, b.IsSound schema) :
    Yields (scope.current retain) n (fun _ d => d.ty.Kept retain) F := by
  rw [Scope.current]
  refine .ite (fun hempty => .throw (hvoid (List.isEmpty_iff.1 hempty) _)) fun _ => ?_
  split
  · exact .throw (hF _ rfl)
  · rename_i b hb
    have hkept : b.value.ty.Kept b.name.isNone := (h b (List.mem_of_find?_eq_some hb)).kept
    refine .ite (fun hretain => .pure ?_) fun _ => (yields_unwrap hkept).mono fun _ d hd => .held hd
    rw [hretain]
    exact hkept.weaken

/-! ### Operators -/

theorem isComparable_of_incomparable? {op : Query.Comparison} {a b : ValueShape}
    (h : incomparable? op a b = none) : a.isComparable b = true := by
  rw [incomparable?] at h
  rw [ValueShape.isComparable]
  split at h
  · simp_all
  split at h
  · simp_all
  split at h
  · simp_all
  · cases h

private theorem held_of_isNumeric (h : t.isNumeric = true) : t.Held := by
  cases t with
  | int bits => exact .int bits
  | float bits => exact .float bits
  | _ => cases h

theorem isScalar_of_isNumeric (h : t.isNumeric = true) : t.isScalar = true := by
  cases t <;> first | rfl | cases h

/-- Two values of which the second is there are brought to one type, if the first is there as well.  The first may be
a reference to an option; that text cannot be read from it is the only defect. -/
theorem yields_alike {a b : Computed} (ha : Ty.Wraps isOption u a.ty) (hu : u.Held) (hb : b.ty.Held)
    (hac : a.IsCoherent schema) (hbc : b.IsCoherent schema) (hcomp : a.shape.isComparable b.shape = true)
    (hdefect : isOption = true → a.shape.isTextual = true → F (.mismatch .reference)) :
    Yields (alike a b) n (fun _ p => isOption = false → p.1.ty = p.2.ty) F := by
  rw [alike]
  refine .ite (fun htext => ?_) fun htext => .ite (fun hnumber => ?_) fun hnumber => ?_
  · rw [Bool.and_eq_true] at htext
    have hau := hac.isText htext.1
    rw [ha.bare] at hau
    rcases Ty.textAs_of_wraps ha hu hau with hread | ⟨hopt, hty⟩
    · refine (yields_toText hread).bind fun _ a ha => ?_
      rcases Ty.textAs_of_wraps .none hb (hbc.isText htext.2) with hread | ⟨hopt, -⟩
      · refine (yields_toText hread).bind fun _ b hb => .pure fun ho => ?_
        rw [ha, hb, ho]
      · cases hopt
    · have hthrow : a.toText = throw (.mismatch .reference) := by
        rw [Computed.toText, hty]
        rfl
      rw [hthrow]
      exact .throw_bind (hdefect hopt htext.1)
  · rw [Bool.and_eq_true] at hnumber
    have hau := hac.isNumeric hnumber.1
    have hbu := hbc.isNumeric hnumber.2
    have had := Ty.dereferenced_of_wraps ha hu (by rw [← ha.bare]; exact isScalar_of_isNumeric hau)
    have hbd := Ty.dereferenced_of_wraps .none hb (isScalar_of_isNumeric hbu)
    have htarget := isNumeric_commonNumber a.ty b.ty
    refine (yields_toNumber htarget (by rwa [← ha.bare]) had).bind fun _ a ha => ?_
    refine (yields_toNumber htarget hbu hbd).bind fun _ b hb => .pure fun ho => ?_
    rw [ha, hb, ho]
  · -- what is neither text nor a number can only be compared as a boolean
    have hbool : a.shape.isBool = true ∧ b.shape.isBool = true := by
      simpa [ValueShape.isComparable, htext, hnumber] using hcomp
    have hau := hac.bare_eq_bool hbool.1
    have hbu := hbc.bare_eq_bool hbool.2
    have had := Ty.dereferenced_of_wraps ha hu (by rw [← ha.bare, hau]; rfl)
    have hbd := Ty.dereferenced_of_wraps .none hb (by rw [hbu]; rfl)
    refine (yields_dereference a).bind fun _ a' ha' => ?_
    refine (yields_dereference b).bind fun _ b' hb' => .pure fun ho => ?_
    rw [ha', hb', had, hbd, hbu, ← ha.bare, hau, ho, Ty.wrap]

theorem yields_comparison (hF : Pardons F) (op : Query.Comparison) {a b : Computed} (ha : a.ty.Held) (hb : b.ty.Held)
    (hac : a.IsCoherent schema) (hbc : b.IsCoherent schema) :
    Yields (comparison op a b) n (fun _ d => d.ty.Held) F := by
  rw [comparison]
  split
  · exact .throw (hF _ rfl)
  · rename_i hop
    have hcomp := isComparable_of_incomparable? hop
    exact (yields_alike .none ha hb hac hbc hcomp fun h => by cases h).bind fun _ p _ => .fresh (.pure .bool)

theorem yields_dereference_bool (h : c.ty.Held) (hc : c.IsCoherent schema) (hs : c.shape.isBool = true) :
    Yields c.dereference n (fun _ d => d.ty = .bool) F := by
  have hbare := hc.bare_eq_bool hs
  refine (yields_dereference c).mono fun _ d hd => ?_
  rw [hd, Ty.dereferenced_of_wraps .none h (by rw [hbare]; rfl), hbare]
  rfl

/-- An operand that is there is a truth value afterwards. -/
theorem yields_condition (hF : Pardons F) (operator : String) (h : c.ty.Held) (hc : c.IsCoherent schema) :
    Yields (condition operator c) n (fun _ d => d.ty = .bool) F :=
  .ite (fun hs => yields_dereference_bool h hc hs) fun _ => .throw (hF _ rfl)

theorem yields_negation (hF : Pardons F) (h : c.ty.Held) (hc : c.IsCoherent schema) :
    Yields (negation c) n (fun _ d => d.ty.Held) F :=
  (yields_condition hF _ h hc).bind fun _ _ _ => .fresh (.pure .bool)

theorem yields_connective (isAnd : Bool) (a b : Computed) :
    Yields (connective isAnd a b) n (fun _ d => d.ty.Held) F :=
  .fresh (.pure .bool)

theorem yields_literal (hF : Pardons F) (l : Query.Literal) : Yields (literal l) n (fun _ d => d.ty.Held) F := by
  rw [literal]
  split
  · exact .throw (hF _ rfl)
  · rename_i shape t value h
    refine .fresh (.pure ?_)
    show t.Held
    cases l with
    | bool b =>
      cases h
      exact .bool
    | int i =>
      cases h
      exact .int 64
    | float x =>
      cases x <;> cases h
      exact .float 64
    | string s =>
      cases h
      exact .text
    | _ => cases h

/-! ### Functions -/

theorem yields_lengthOf (hF : Pardons F) (c : Computed) : Yields (lengthOf c) n (fun _ d => d.ty.Held) F := by
  rw [lengthOf]
  split
  · exact .pure_bind (.fresh (.pure (.int 64)))
  · exact .pure_bind (.fresh (.pure (.int 64)))
  · exact .throw_bind (hF _ rfl)

theorem yields_keysOf (hF : Pardons F) (c : Computed) : Yields (keysOf schema c) n (fun _ d => d.ty.Held) F := by
  rw [keysOf]
  split
  · exact .pure_bind (.fresh (.pure (.list .text)))
  · exact .fresh (.pure_bind (.fresh (.pure (.list .text))))
  · exact .throw_bind (hF _ rfl)

/-- Searching fails for a defect only where the elements of a list of texts are options. -/
theorem yields_containsIn (hF : Pardons F) {subject search : Computed} (hs : subject.ty.Held) (hsearch : search.ty.Held)
    (hsc : subject.IsCoherent schema) (hsearchc : search.IsCoherent schema)
    (hdefect : subject.shape.listsText = true → subject.ty.listsOptions = true → F (.mismatch .reference)) :
    Yields (containsIn subject search) n (fun _ d => d.ty.Held) F := by
  rw [containsIn]
  refine .unlessStopped (hF _ rfl) fun _ => .fresh ?_
  split
  · rename_i id hshape
    refine .unlessStopped (hF _ rfl) fun htext => ?_
    have htext : search.shape.isTextual = true := by simpa using htext
    have hstext : subject.shape.isTextual = true := by
      rw [hshape]
      rfl
    refine (yields_toText (hs.textAs (hsc.isText hstext))).bind fun _ _ _ => ?_
    exact (yields_toText (hsearch.textAs (hsearchc.isText htext))).bind fun _ _ _ => .pure .bool
  · rename_i id member hshape
    refine .unlessStopped (hF _ rfl) fun hcomp => ?_
    have hcomp : member.isComparable search.shape = true := by simpa using hcomp
    dsimp only
    split
    · rename_i item hitem
      obtain ⟨isOption, v, hwraps, hv, hoption⟩ := hs.element hitem
      rw [Computed.IsCoherent, hshape] at hsc
      have hmember := hsc.element hs hitem
      refine .pure_bind (.fresh ?_)
      refine (yields_alike (a := ⟨_, member, .ref item, []⟩) hwraps hv hsearch hmember hsearchc hcomp ?_).bind
        fun _ p _ => .pure .bool
      intro ho htext
      refine hdefect ?_ (hoption ho)
      rw [hshape]
      exact htext
    · exact .throw_bind (hF _ rfl)
  · exact .throw (hF _ rfl)

theorem yields_call (hF : Pardons F) (f : Builtin) (name : String) {args : List Computed}
    (hargs : ∀ c ∈ args, c.ty.Held ∧ c.IsCoherent schema)
    (hdefect : ∀ c ∈ args.head?, f = .contains → c.shape.listsText = true → c.ty.listsOptions = true →
      F (.mismatch .reference)) :
    Yields (f.call schema name args) n (fun _ d => d.ty.Held) F := by
  unfold Builtin.call
  split
  · exact yields_lengthOf hF _
  · exact yields_keysOf hF _
  · rename_i subject search
    obtain ⟨hs, hsc⟩ := hargs subject (by simp)
    obtain ⟨hsearch, hsearchc⟩ := hargs search (by simp)
    exact yields_containsIn hF hs hsearch hsc hsearchc (hdefect subject rfl rfl)
  · exact .throw (hF _ rfl)

/-! ### Lists -/

/-- Values in types in which they can be compared are options exactly where they were. -/
theorem yields_allAlike {shape : ValueShape} (hc : ∀ c ∈ cs, c.ty.Kept retain ∧ c.IsCoherent schema)
    (hs : ∀ c ∈ cs, c.shape.isComparable shape = true ∨ c.shape = shape) :
    Yields (allAlike shape cs) n (fun _ ds => ∀ d ∈ ds, d.ty.Kept retain) F := by
  have hkept : ∀ {isOption t}, (isOption = true → retain = true) → Ty.Held t → (Ty.wrap isOption t).Kept retain := by
    intro isOption t ho ht
    cases isOption with
    | false => exact .held ht
    | true =>
      rw [ho rfl]
      exact .option ht
  refine .ite (fun htext => ?_) fun htext => .ite (fun hnumber => ?_) fun hnumber =>
    .ite (fun hbool => ?_) fun hbool => ?_
  · refine .mapM fun c hmem n' => ?_
    obtain ⟨isOption, u, hw, heq, hu, ho⟩ := (hc c hmem).1.wraps
    have hut := (hc c hmem).2.isText ((ValueShape.sort_eq (hs c hmem)).1.trans htext)
    rw [hw.bare] at hut
    rcases Ty.textAs_of_wraps hw hu hut with hread | ⟨-, href⟩
    · refine (yields_toText hread).mono fun _ d hd => ?_
      rw [hd]
      exact hkept ho .text
    · -- a value is never a reference to an option
      rw [href] at heq
      cases isOption <;> cases heq
  · refine .mapM fun c hmem n' => ?_
    obtain ⟨isOption, u, hw, -, hu, ho⟩ := (hc c hmem).1.wraps
    have hun := (hc c hmem).2.isNumeric ((ValueShape.sort_eq (hs c hmem)).2.1.trans hnumber)
    rw [hw.bare] at hun
    have hd := Ty.dereferenced_of_wraps hw hu (isScalar_of_isNumeric hun)
    have htarget := isNumeric_foldl cs (t := .int 64) rfl
    refine (yields_toNumber htarget hun hd).mono fun _ d hd => ?_
    rw [hd]
    exact hkept ho (held_of_isNumeric htarget)
  · refine .mapM fun c hmem n' => ?_
    obtain ⟨isOption, u, hw, -, hu, ho⟩ := (hc c hmem).1.wraps
    have hub := (hc c hmem).2.bare_eq_bool ((ValueShape.sort_eq (hs c hmem)).2.2.trans hbool)
    rw [hw.bare] at hub
    refine (yields_dereference c).mono fun _ d hd => ?_
    rw [hd, Ty.dereferenced_of_wraps hw hu (by rw [hub]; rfl), hub]
    exact hkept ho .bool
  · exact .pure fun c hmem => (hc c hmem).1

theorem yields_allOptions (h : ∀ c ∈ cs, c.ty.Kept retain) :
    Yields (allOptions cs) n (fun _ ds => ∀ d ∈ ds, d.ty.Kept retain) F := by
  refine .ite (fun hany => ?_) fun _ => .pure h
  -- one of the values may be absent, so that the others may be, too
  have hretain : retain = true := by
    obtain ⟨c, hmem, ho⟩ := List.any_eq_true.1 hany
    cases retain with
    | true => rfl
    | false =>
      rw [(h c hmem).toHeld.isOption_eq_false] at ho
      cases ho
  subst hretain
  refine .mapM fun c hmem n' => .ite (fun _ => .pure (h c hmem)) fun ho => .fresh (.pure (.option ?_))
  refine (h c hmem).held_of_not_option fun u hu => ?_
  rw [hu] at ho
  exact ho rfl

theorem yields_listOf (hF : Pardons F) (h : ∀ c ∈ cs, c.ty.Kept retain ∧ c.IsCoherent schema) :
    Yields (listOf cs) n (fun _ d => d.ty.Held) F := by
  cases cs with
  | nil => exact .throw (hF _ rfl)
  | cons first rest =>
    rw [listOf]
    refine .unlessStopped (hF _ rfl) fun hs => ?_
    simp only [Bool.not_eq_true', Bool.not_eq_false, List.all_eq_true, Bool.or_eq_true, decide_eq_true_eq] at hs
    refine (yields_allAlike h hs).bind fun _ as has => (yields_allOptions has).bind fun _ bs hbs => ?_
    refine .unlessStopped (hF _ rfl) fun _ => .fresh (.pure ?_)
    cases bs with
    | nil => exact (h first List.mem_cons_self).1.list
    | cons b bs => exact (hbs b List.mem_cons_self).list

/-! ### Projections -/

variable {body : Option Body} {f : Body}

/-- What the body makes of a value that may be worked with. -/
def YieldsOn (schema : Schema) (f : Body) (P : Computed → Prop) (F : Cause → Prop) : Prop :=
  ∀ b, b.IsSound schema → ∀ n, Yields (f b) n (fun _ => P) F

private theorem isSound_element {item : Ident} {shape : ValueShape} (hc : Coherent schema shape t) (ht : t.Kept true) :
    Binding.IsSound schema ⟨none, item, shape, t⟩ :=
  ⟨hc, ht⟩

theorem yields_apply (hf : YieldsOn schema f (·.ty.Kept retain) F) (h : left.ty.Kept retain)
    (hc : left.IsCoherent schema) : Yields (apply f left) n (fun _ d => d.ty.Kept retain) F := by
  rw [apply]
  split
  · rename_i t ht
    rw [ht] at h
    have hb : Binding.IsSound schema ⟨none, localName "elem" (n.taken + 1), left.shape, t⟩ := by
      refine isSound_element (hc.of_bare ?_) (.held h.unwrapOption)
      rw [ht]
      rfl
    refine .fresh ((hf _ hb _).bind fun _ r hr => .fresh (.pure ?_))
    -- the value was an option, so that options are retained here
    cases h with
    | held h => cases h
    | option h => exact .option hr.unwrapOption
  · exact (hf left.asCurrent ⟨hc, h.weaken⟩ n).bind fun _ r hr => .pure hr

theorem yields_elements (hF : Pardons F) (h : left.ty.Held) :
    Yields (elements left) n (fun _ x => x.2.Kept left.ty.listsOptions) F := by
  rw [elements]
  split
  · exact .pure (h.item ‹_›)
  · exact .throw (hF _ rfl)

theorem yields_projection (hF : Pardons F) (hbody : ∀ f ∈ body, YieldsOn schema f (·.ty.Kept true) F) (h : left.ty.Held)
    (hc : left.IsCoherent schema) : Yields (projection body left) n (fun _ d => d.ty.Held) F := by
  refine ((yields_elements hF h).and (ensures_elements hc)).bind fun _ x hx => ?_
  cases body with
  | none => exact .pure h
  | some f =>
    refine .fresh ((hbody f rfl _ (isSound_element hx.2 hx.1.weaken) _).bind fun _ r hr => .fresh (.pure ?_))
    exact .list hr.unwrapOption

theorem yields_filtered (hF : Pardons F) (query : Query.Expr) (hcondition : YieldsOn schema f (fun _ => True) F)
    (hbody : ∀ f ∈ body, YieldsOn schema f (·.ty.Kept true) F) (h : left.ty.Held) (hc : left.IsCoherent schema) :
    Yields (filtered query f body left) n (fun _ d => d.ty.Held) F := by
  refine ((yields_elements hF h).and (ensures_elements hc)).bind fun _ x hx => .fresh ?_
  refine (hcondition _ (isSound_element hx.2 hx.1.weaken) _).bind fun _ c _ => .unlessStopped (hF _ rfl) fun _ => ?_
  refine (yields_dereference c).bind fun _ c _ => ?_
  cases body with
  | none => exact .pure_bind (.fresh (.pure hx.1.list))
  | some f =>
    refine (hbody f rfl _ (isSound_element hx.2 hx.1.weaken) _).bind fun _ r hr => .fresh (.pure ?_)
    exact .list hr.unwrapOption

theorem yields_valueProjection (hF : Pardons F) (hbody : ∀ f ∈ body, YieldsOn schema f (·.ty.Kept true) F) :
    Yields (valueProjection schema body left) n (fun _ d => d.ty.Held) F := by
  have hshape : ∀ e, valueShape schema left = .error e → F e := by
    intro e he
    rw [valueShape] at he
    split at he <;> cases he <;> exact hF _ rfl
  refine .bind (P := fun _ _ => True) (.ofExcept (fun _ _ => trivial) hshape) fun _ id _ => ?_
  refine ((yields_referenceTo hF id).and (Ensures.ofExcept fun x hx => coherent_of_referenceTo hx)).bind
    fun _ x hx => .fresh ?_
  cases body with
  | none => exact .pure (.list hx.1)
  | some f =>
    refine .fresh ((hbody f rfl _ (isSound_element hx.2 (.held hx.1)) _).bind fun _ r hr => .pure ?_)
    exact .list hr.unwrapOption

theorem yields_flattened (hF : Pardons F) (h : left.ty.Held) :
    Yields (flattened left) n (fun _ d => d.ty.Held) F := by
  refine (yields_elements hF h).bind fun _ x hx => ?_
  dsimp only
  split
  · rename_i nested item _ hitem
    exact .fresh (.pure (hx.item hitem).list)
  · exact .pure h

end Signpost.Traversal
