import Signpost.Proofs.Traversal.Held
import Signpost.Traversal.Computed

/-!
# Typed steps

When the steps of a traversal are well typed, given the types of the locals that they use.  There is one rule for each
operation: members are taken of structures and maps behind references, never of options, and what is compared has one
type.  A value that steps compute is well typed if they are and give a local of its type (`Computed.IsTyped`).  More
locals in scope do no harm (`Computed.IsTyped.weaken`).
-/

namespace Signpost.Traversal

open Code (Ident)

/-- Locals with their types. -/
abbrev Types := List (Ident × Ty)

/-- Values of the type are structures, behind references but in no option, of which a member is this field. -/
def Ty.HasField (schema : Schema) (t : Ty) (field : Ident) (m : Member) : Prop :=
  ∃ id members name, t.referent = .model id.typeName ∧ schema.get? id = some (.record members) ∧
    members.get? name = some m ∧ Ident.ofName? name = some field

/-- The type of what a block gives. -/
inductive Tail.HasType (Γ : Types) : Tail → Ty → Prop
  | plain {i : Ident} {t : Ty} (h : (i, t) ∈ Γ) : HasType Γ (.plain i) t
  | present {i : Ident} {t : Ty} (h : (i, t) ∈ Γ) : HasType Γ (.present i) (.option t)
  | equal {l r : Ident} {t : Ty} (hl : (l, t) ∈ Γ) (hr : (r, t) ∈ Γ) : HasType Γ (.equal l r) .bool

/-- The type of a constant. -/
inductive Constant.HasType : Constant → Ty → Prop
  | bool {b : Bool} : HasType (.bool b) .bool
  | int {n : Int} : HasType (.int n) (.int 64)
  | float {negative : Bool} {x : Magnitude} : HasType (.float negative x) (.float 64)
  | string {s : String} : HasType (.string s) .strRef

section

variable (schema : Schema)

mutual

/-- The type that an operation gives on locals of these types. -/
inductive Operation.HasType : Types → Operation → Ty → Prop
  | field {Γ : Types} {src f : Ident} {t u : Ty} {m : Member} (hsrc : (src, t) ∈ Γ) (hfield : t.HasField schema f m)
    (hm : m.required = true) (hu : typeOf schema m.target = .ok u) : Operation.HasType Γ (.field src f) (.ref u)
  | optionalField {Γ : Types} {src f : Ident} {eager : Bool} {t u : Ty} {m : Member} (hsrc : (src, t) ∈ Γ)
    (hfield : t.HasField schema f m) (hm : m.required = false) (hu : typeOf schema m.target = .ok u) :
    Operation.HasType Γ (.optionalField src f eager) (.wrap (!eager) (.ref u))
  | entry {Γ : Types} {src : Ident} {key : String} {eager : Bool} {t u : Ty} (hsrc : (src, t) ∈ Γ)
    (ht : t.referent = .map .string u) : Operation.HasType Γ (.entry src key eager) (.wrap (!eager) (.ref u))
  | unwrap {Γ : Types} {src : Ident} {t : Ty} (hsrc : (src, .option t) ∈ Γ) : Operation.HasType Γ (.unwrap src) t
  | wrap {Γ : Types} {src : Ident} {t : Ty} (hsrc : (src, t) ∈ Γ) : Operation.HasType Γ (.wrap src) (.option t)
  | deref {Γ : Types} {src : Ident} {t : Ty} (hsrc : (src, .ref t) ∈ Γ) (ht : t.isCopy = true) :
    Operation.HasType Γ (.deref src) t
  | copied {Γ : Types} {src : Ident} {t : Ty} (hsrc : (src, .option (.ref t)) ∈ Γ) (ht : t.isCopy = true) :
    Operation.HasType Γ (.copied src) (.option t)
  | text {Γ : Types} {src : Ident} {t : Ty} (hsrc : (src, .ref t) ∈ Γ) (ht : t.isText = true) :
    Operation.HasType Γ (.text src) .strRef
  | mapText {Γ : Types} {src item : Ident} {t : Ty} (hsrc : (src, .option (.ref t)) ∈ Γ) (ht : t.isText = true) :
    Operation.HasType Γ (.mapText src item) (.option .strRef)
  | cast {Γ : Types} {src : Ident} {t target : Ty} (hsrc : (src, t) ∈ Γ) (ht : t.isNumeric = true)
    (htarget : target.isNumeric = true) : Operation.HasType Γ (.cast src target) target
  | mapCast {Γ : Types} {src item : Ident} {t target : Ty} (hsrc : (src, .option t) ∈ Γ) (ht : t.isNumeric = true)
    (htarget : target.isNumeric = true) : Operation.HasType Γ (.mapCast src item target) (.option target)
  | not {Γ : Types} {src : Ident} (hsrc : (src, .bool) ∈ Γ) : Operation.HasType Γ (.not src) .bool
  | compare {Γ : Types} {op : Query.Comparison} {l r : Ident} {t : Ty} (hl : (l, t) ∈ Γ) (hr : (r, t) ∈ Γ) :
    Operation.HasType Γ (.compare op l r) .bool
  | both {Γ : Types} {l : Ident} {right : List Step} {value : Tail} (hl : (l, .bool) ∈ Γ)
    (hright : BlockHasType Γ right value .bool) : Operation.HasType Γ (.both l right value) .bool
  | either {Γ : Types} {l : Ident} {right : List Step} {value : Tail} (hl : (l, .bool) ∈ Γ)
    (hright : BlockHasType Γ right value .bool) : Operation.HasType Γ (.either l right value) .bool
  | andThen {Γ : Types} {src item : Ident} {body : List Step} {value : Tail} {t u : Ty} (hsrc : (src, .option t) ∈ Γ)
    (hbody : BlockHasType ((item, t) :: Γ) body value (.option u)) :
    Operation.HasType Γ (.andThen src item body value) (.option u)
  | eachElement {Γ : Types} {src item : Ident} {body : List Step} {value : Tail} {t u v : Ty} (hsrc : (src, t) ∈ Γ)
    (ht : t.item? = some u) (hbody : BlockHasType ((item, u) :: Γ) body value (.option v)) :
    Operation.HasType Γ (.each src .elements item body value) (.vec v)
  | eachValue {Γ : Types} {src item : Ident} {body : List Step} {value : Tail} {t u v : Ty} (hsrc : (src, t) ∈ Γ)
    (ht : t.referent = .map .string u) (hbody : BlockHasType ((item, .ref u) :: Γ) body value (.option v)) :
    Operation.HasType Γ (.each src .values item body value) (.vec v)
  | values {Γ : Types} {src : Ident} {t u : Ty} (hsrc : (src, t) ∈ Γ) (ht : t.referent = .map .string u) :
    Operation.HasType Γ (.values src) (.vec (.ref u))
  | flatten {Γ : Types} {src : Ident} {t u v : Ty} (hsrc : (src, t) ∈ Γ) (ht : t.item? = some u)
    (hu : u.item? = some v) : Operation.HasType Γ (.flatten src) (.vec v)
  | charCount {Γ : Types} {src : Ident} {t : Ty} (hsrc : (src, t) ∈ Γ)
    (ht : t.referent = .string ∨ t.referent = .str) : Operation.HasType Γ (.charCount src) (.int 64)
  | length {Γ : Types} {src : Ident} {t u : Ty} (hsrc : (src, t) ∈ Γ) (ht : t.referent = .vec u) :
    Operation.HasType Γ (.length src) (.int 64)
  | list {Γ : Types} {items : List Ident} {t : Ty} (hitems : ∀ i ∈ items, (i, t) ∈ Γ) :
    Operation.HasType Γ (.list items) (.vec t)
  | names {Γ : Types} {keys : List String} : Operation.HasType Γ (.names keys) (.vec .strRef)
  | keys {Γ : Types} {src item : Ident} {t u : Ty} (hsrc : (src, t) ∈ Γ) (ht : t.referent = .map .string u) :
    Operation.HasType Γ (.keys src item) (.vec .strRef)
  | containsText {Γ : Types} {src part : Ident} (hsrc : (src, .strRef) ∈ Γ) (hpart : (part, .strRef) ∈ Γ) :
    Operation.HasType Γ (.containsText src part) .bool
  | any {Γ : Types} {src item : Ident} {body : List Step} {value : Tail} {t u : Ty} (hsrc : (src, t) ∈ Γ)
    (ht : t.referent = .vec u) (hbody : BlockHasType ((item, .ref u) :: Γ) body value .bool) :
    Operation.HasType Γ (.any src item body value) .bool

/-- Steps and what they end in are well typed. -/
inductive BlockHasType : Types → List Step → Tail → Ty → Prop
  | intro {Γ Δ : Types} {steps : List Step} {value : Tail} {t : Ty} (hsteps : StepsExtend Γ steps Δ)
    (hvalue : value.HasType Δ t) : BlockHasType Γ steps value t

/-- Steps are well typed, and bind locals so that these have these types. -/
inductive StepsExtend : Types → List Step → Types → Prop
  | nil {Γ : Types} : StepsExtend Γ [] Γ
  | bind {Γ Δ : Types} {name : Ident} {op : Operation} {t : Ty} {steps : List Step} (hop : Operation.HasType Γ op t)
    (hsteps : StepsExtend ((name, t) :: Γ) steps Δ) : StepsExtend Γ (.bind name op :: steps) Δ
  | const {Γ Δ : Types} {name : Ident} {c : Constant} {t : Ty} {steps : List Step} (hc : c.HasType t)
    (hsteps : StepsExtend ((name, t) :: Γ) steps Δ) : StepsExtend Γ (.const name t c :: steps) Δ
  | guard {Γ Δ : Types} {c : Ident} {steps : List Step} (hc : (c, .bool) ∈ Γ) (hsteps : StepsExtend Γ steps Δ) :
    StepsExtend Γ (.guard c :: steps) Δ
  | note {Γ Δ : Types} {remark : String} {steps : List Step} (hsteps : StepsExtend Γ steps Δ) :
    StepsExtend Γ (.note remark :: steps) Δ

end

end

variable {schema : Schema} {Γ Γ' Δ Θ : Types} {steps steps' : List Step} {op : Operation} {value : Tail} {t : Ty}

/-! ### More locals in scope -/

theorem Tail.HasType.weaken (h : value.HasType Γ t) (hΓ : Γ ⊆ Γ') : value.HasType Γ' t := by
  cases h with
  | plain h => exact .plain (hΓ h)
  | present h => exact .present (hΓ h)
  | equal hl hr => exact .equal (hΓ hl) (hΓ hr)

mutual

theorem Operation.HasType.weaken {Γ Γ' : Types} {op : Operation} {t : Ty} :
    Operation.HasType schema Γ op t → Γ ⊆ Γ' → Operation.HasType schema Γ' op t
  | .field hsrc hfield hm hu, hΓ => .field (hΓ hsrc) hfield hm hu
  | .optionalField hsrc hfield hm hu, hΓ => .optionalField (hΓ hsrc) hfield hm hu
  | .entry hsrc ht, hΓ => .entry (hΓ hsrc) ht
  | .unwrap hsrc, hΓ => .unwrap (hΓ hsrc)
  | .wrap hsrc, hΓ => .wrap (hΓ hsrc)
  | .deref hsrc ht, hΓ => .deref (hΓ hsrc) ht
  | .copied hsrc ht, hΓ => .copied (hΓ hsrc) ht
  | .text hsrc ht, hΓ => .text (hΓ hsrc) ht
  | .mapText hsrc ht, hΓ => .mapText (hΓ hsrc) ht
  | .cast hsrc ht htarget, hΓ => .cast (hΓ hsrc) ht htarget
  | .mapCast hsrc ht htarget, hΓ => .mapCast (hΓ hsrc) ht htarget
  | .not hsrc, hΓ => .not (hΓ hsrc)
  | .compare hl hr, hΓ => .compare (hΓ hl) (hΓ hr)
  | .both hl hright, hΓ => .both (hΓ hl) (hright.weaken hΓ)
  | .either hl hright, hΓ => .either (hΓ hl) (hright.weaken hΓ)
  | .andThen hsrc hbody, hΓ => .andThen (hΓ hsrc) (hbody.weaken (List.cons_subset_cons _ hΓ))
  | .eachElement hsrc ht hbody, hΓ => .eachElement (hΓ hsrc) ht (hbody.weaken (List.cons_subset_cons _ hΓ))
  | .eachValue hsrc ht hbody, hΓ => .eachValue (hΓ hsrc) ht (hbody.weaken (List.cons_subset_cons _ hΓ))
  | .values hsrc ht, hΓ => .values (hΓ hsrc) ht
  | .flatten hsrc ht hu, hΓ => .flatten (hΓ hsrc) ht hu
  | .charCount hsrc ht, hΓ => .charCount (hΓ hsrc) ht
  | .length hsrc ht, hΓ => .length (hΓ hsrc) ht
  | .list hitems, hΓ => .list fun i hi => hΓ (hitems i hi)
  | .names, _ => .names
  | .keys hsrc ht, hΓ => .keys (hΓ hsrc) ht
  | .containsText hsrc hpart, hΓ => .containsText (hΓ hsrc) (hΓ hpart)
  | .any hsrc ht hbody, hΓ => .any (hΓ hsrc) ht (hbody.weaken (List.cons_subset_cons _ hΓ))

theorem BlockHasType.weaken {Γ Γ' : Types} {steps : List Step} {value : Tail} {t : Ty} :
    BlockHasType schema Γ steps value t → Γ ⊆ Γ' → BlockHasType schema Γ' steps value t
  | .intro hsteps hvalue, hΓ =>
    have ⟨_, hsteps', hΔ⟩ := hsteps.weaken hΓ
    .intro hsteps' (hvalue.weaken hΔ)

theorem StepsExtend.weaken {Γ Γ' Δ : Types} {steps : List Step} :
    StepsExtend schema Γ steps Δ → Γ ⊆ Γ' → ∃ Δ', StepsExtend schema Γ' steps Δ' ∧ Δ ⊆ Δ'
  | .nil, hΓ => ⟨Γ', .nil, hΓ⟩
  | .bind hop hsteps, hΓ =>
    have ⟨Δ', hsteps', hΔ⟩ := hsteps.weaken (List.cons_subset_cons _ hΓ)
    ⟨Δ', .bind (hop.weaken hΓ) hsteps', hΔ⟩
  | .const hc hsteps, hΓ =>
    have ⟨Δ', hsteps', hΔ⟩ := hsteps.weaken (List.cons_subset_cons _ hΓ)
    ⟨Δ', .const hc hsteps', hΔ⟩
  | .guard hc hsteps, hΓ =>
    have ⟨Δ', hsteps', hΔ⟩ := hsteps.weaken hΓ
    ⟨Δ', .guard (hΓ hc) hsteps', hΔ⟩
  | .note hsteps, hΓ =>
    have ⟨Δ', hsteps', hΔ⟩ := hsteps.weaken hΓ
    ⟨Δ', .note hsteps', hΔ⟩

end

/-! ### Steps after one another -/

namespace StepsExtend

theorem subset (h : StepsExtend schema Γ steps Δ) : Γ ⊆ Δ := by
  induction steps generalizing Γ with
  | nil =>
    cases h
    exact List.Subset.refl _
  | cons step steps ih =>
    cases h with
    | bind _ h | const _ h => exact List.Subset.trans (List.subset_cons_self _ _) (ih h)
    | guard _ h | note h => exact ih h

theorem append (h : StepsExtend schema Γ steps Δ) (h' : StepsExtend schema Δ steps' Θ) :
    StepsExtend schema Γ (steps ++ steps') Θ := by
  induction steps generalizing Γ with
  | nil =>
    cases h
    exact h'
  | cons step steps ih =>
    cases h with
    | bind hop h => exact .bind hop (ih h)
    | const hc h => exact .const hc (ih h)
    | guard hc h => exact .guard hc (ih h)
    | note h => exact .note (ih h)

end StepsExtend

/-! ### Computed values -/

namespace Computed

variable {c d : Computed} {cs : List Computed} {name : Ident} {shape : ValueShape}

/-- The steps are well typed, and bind a local of the type of the value. -/
def IsTyped (schema : Schema) (Γ : Types) (c : Computed) : Prop :=
  ∃ Δ, StepsExtend schema Γ c.steps Δ ∧ (c.name, c.ty) ∈ Δ

/-- A local in scope is a value. -/
theorem isTyped_local (h : (name, t) ∈ Γ) : IsTyped schema Γ ⟨name, shape, t, []⟩ := ⟨Γ, .nil, h⟩

/-- A value that an operation gives on what steps have bound. -/
theorem isTyped_bind (h : StepsExtend schema Γ steps Δ) (hop : op.HasType schema Δ t) :
    IsTyped schema Γ ⟨name, shape, t, steps ++ [.bind name op]⟩ :=
  ⟨_, h.append (.bind hop .nil), List.mem_cons_self⟩

namespace IsTyped

theorem weaken (h : c.IsTyped schema Γ) (hΓ : Γ ⊆ Γ') : c.IsTyped schema Γ' := by
  obtain ⟨Δ, hsteps, hc⟩ := h
  obtain ⟨Δ', hsteps, hΔ⟩ := hsteps.weaken hΓ
  exact ⟨Δ', hsteps, hΔ hc⟩

/-- One more step, which makes something of the value. -/
theorem bind (h : c.IsTyped schema Γ) (hop : ∀ Δ, (c.name, c.ty) ∈ Δ → op.HasType schema Δ t) :
    (c.bind name t op).IsTyped schema Γ := by
  obtain ⟨Δ, hsteps, hc⟩ := h
  exact isTyped_bind hsteps (hop Δ hc)

/-- The steps of two values after one another. -/
theorem append (hc : c.IsTyped schema Γ) (hd : d.IsTyped schema Γ) :
    ∃ Δ, StepsExtend schema Γ (c.steps ++ d.steps) Δ ∧ (c.name, c.ty) ∈ Δ ∧ (d.name, d.ty) ∈ Δ := by
  obtain ⟨Δ, hsteps, hc⟩ := hc
  obtain ⟨Θ, hsteps', hd⟩ := hd.weaken hsteps.subset
  exact ⟨Θ, hsteps.append hsteps', hsteps'.subset hc, hd⟩

/-- The value of a block. -/
theorem plain (h : c.IsTyped schema Γ) : BlockHasType schema Γ c.steps (.plain c.name) c.ty := by
  obtain ⟨Δ, hsteps, hc⟩ := h
  exact .intro hsteps (.plain hc)

/-- The value of a block, as an option. -/
theorem asOption (h : c.IsTyped schema Γ) : BlockHasType schema Γ c.steps c.asOption (.option c.ty.unwrapOption) := by
  obtain ⟨Δ, hsteps, hc⟩ := h
  refine .intro hsteps ?_
  rw [Computed.asOption]
  cases ht : c.ty with
  | option t =>
    rw [ht] at hc
    exact .plain hc
  | _ =>
    rw [ht] at hc
    exact .present hc

end IsTyped

/-- The steps of values after one another. -/
theorem extend_flatMap (h : ∀ c ∈ cs, c.IsTyped schema Γ) :
    ∃ Δ, StepsExtend schema Γ (cs.flatMap (·.steps)) Δ ∧ ∀ c ∈ cs, (c.name, c.ty) ∈ Δ := by
  induction cs generalizing Γ with
  | nil => exact ⟨Γ, .nil, fun c hc => absurd hc List.not_mem_nil⟩
  | cons c cs ih =>
    obtain ⟨hc, hcs⟩ := List.forall_mem_cons.1 h
    obtain ⟨Δ, hsteps, hc⟩ := hc
    obtain ⟨Θ, hrest, hcs⟩ := ih fun d hd => (hcs d hd).weaken hsteps.subset
    refine ⟨Θ, hsteps.append hrest, List.forall_mem_cons.2 ⟨hrest.subset hc, hcs⟩⟩

end Computed

end Signpost.Traversal
