import Signpost.Proofs.Traversal.Held
import Signpost.Proofs.Traversal.Yielding

/-!
# Where coercions end

A coercion keeps the shape of a value, adds steps only at the end, and gives a type that depends on the type it starts
from alone (`Computed.Becomes`).  Text ends as `&str` and a number as the type asked for, in an option exactly if there
is one behind the references in front of the value.  At the type where it ends a coercion does nothing more
(`Computed.LeavesAlone`), so that values which are compared, listed or searched after the same coercion are of one type
or of options of it.
-/

namespace Signpost.Traversal

open Code (Ident)

namespace Ty

variable {t u : Ty}

/-- Text is read from references to it, and from an option of one reference to it. -/
theorem TextAs.eq_wrap (h : t.TextAs u) : u = wrap t.referent.isOption strRef := by
  induction h with
  | text | string | model => rfl
  | ref _ ih => exact ih
  | optionText | optionString | optionModel => rfl

/-- An option behind references is still there when the references are taken away. -/
theorem isOption_referent_dereferenced (t : Ty) : t.dereferenced.referent.isOption = t.referent.isOption := by
  induction t with
  | ref t ih =>
    rw [dereferenced]
    by_cases hcopy : t.isCopy = true
    · rw [if_pos hcopy]
      exact ih
    · rw [if_neg hcopy]
  | option t =>
    cases t with
    | ref t =>
      rw [dereferenced]
      by_cases hcopy : (t.isCopy && t.isScalar) = true
      · rw [if_pos hcopy]
        rfl
      · rw [if_neg hcopy]
    | _ => rfl
  | _ => rfl

theorem referent_of_isNumeric (h : t.isNumeric = true) : t.referent = t := by
  cases t <;> first | rfl | cases h

end Ty

namespace Computed

/-- The second value is the first with another type: it has the same shape, and steps were added only at the end. -/
structure Becomes (c : Computed) (t : Ty) (d : Computed) : Prop where
  shape : d.shape = c.shape
  steps : c.steps <+: d.steps
  ty : d.ty = t

/-- A coercion gives back each value of this type as it is, and takes no name. -/
def LeavesAlone (coerce : Computed → Naming Computed) (t : Ty) : Prop :=
  ∀ c : Computed, c.ty = t → ∀ n, (coerce c).run n = (.ok c, n)

variable {c d e : Computed} {t u target : Ty} {n : Namer} {F : Cause → Prop}

theorem becomes_self (h : c.ty = t) : c.Becomes t c := ⟨rfl, List.prefix_refl _, h⟩

theorem becomes_bind (name : Ident) (t : Ty) (op : Operation) : c.Becomes t (c.bind name t op) :=
  ⟨rfl, List.prefix_append _ _, rfl⟩

theorem Becomes.trans (h : c.Becomes t d) (h' : d.Becomes u e) : c.Becomes u e :=
  ⟨h'.shape.trans h.shape, h.steps.trans h'.steps, h'.ty⟩

/-! ### The first time -/

private theorem becomes_dereferenceFrom (h : c.ty = t) :
    Yields (c.dereferenceFrom t) n (fun _ d => c.Becomes t.dereferenced d) F := by
  induction t generalizing c n with
  | ref t ih =>
    rw [dereferenceFrom, Ty.dereferenced]
    by_cases hcopy : t.isCopy = true
    · rw [if_pos hcopy, if_pos hcopy]
      refine .fresh ((ih rfl).mono fun n' d hd => ?_)
      exact (becomes_bind _ t _).trans hd
    · rw [if_neg hcopy, if_neg hcopy]
      exact .pure (becomes_self h)
  | option t =>
    cases t with
    | ref t =>
      rw [dereferenceFrom, Ty.dereferenced]
      by_cases hcopy : (t.isCopy && t.isScalar) = true
      · rw [if_pos hcopy, if_pos hcopy]
        exact .fresh (.pure (becomes_bind _ _ _))
      · rw [if_neg hcopy, if_neg hcopy]
        exact .pure (becomes_self h)
    | _ => exact .pure (becomes_self h)
  | _ => exact .pure (becomes_self h)

/-- Taking a value from behind its references never fails. -/
theorem becomes_dereference (c : Computed) :
    Yields c.dereference n (fun _ d => c.Becomes c.ty.dereferenced d) F := becomes_dereferenceFrom rfl

private theorem becomes_toTextFrom (h : c.ty = t) :
    Yields (c.toTextFrom t) n (fun _ d => ∃ u, t.TextAs u ∧ c.Becomes u d) fun _ => ∀ u, ¬ t.TextAs u := by
  -- where there is no case for a type, there is none in `TextAs` either
  induction t generalizing c n with
  | ref t ih =>
    cases t with
    | str => exact .pure ⟨_, .text, becomes_self h⟩
    | string => exact .fresh (.pure ⟨_, .string, becomes_bind _ _ _⟩)
    | model name => exact .fresh (.pure ⟨_, .model, becomes_bind _ _ _⟩)
    | ref t =>
      rw [toTextFrom]
      refine .fresh ((ih rfl).imp ?_ ?_)
      · rintro n' d ⟨u, hu, hd⟩
        exact ⟨u, .ref hu, (becomes_bind _ _ _).trans hd⟩
      · intro cause hno u hu
        cases hu with
        | ref hu => exact hno u hu
    | _ => exact .throw fun u hu => by cases hu
  | option t =>
    cases t with
    | ref t =>
      cases t with
      | str => exact .pure ⟨_, .optionText, becomes_self h⟩
      | string => exact .fresh (.fresh (.pure ⟨_, .optionString, becomes_bind _ _ _⟩))
      | model name => exact .fresh (.fresh (.pure ⟨_, .optionModel, becomes_bind _ _ _⟩))
      | _ => exact .throw fun u hu => by cases hu
    | _ => exact .throw fun u hu => by cases hu
  | _ => exact .throw fun u hu => by cases hu

/-- Text is read from a value exactly if it is of a type with text. -/
theorem becomes_toText (c : Computed) :
    Yields c.toText n (fun _ d => ∃ u, c.ty.TextAs u ∧ c.Becomes u d) fun _ => ∀ u, ¬ c.ty.TextAs u :=
  becomes_toTextFrom rfl

/-- A value is cast to a number exactly if a number, or an option of one, is left without its references. -/
theorem becomes_toNumber (htarget : target.isNumeric = true) (c : Computed) :
    Yields (c.toNumber target) n (fun _ d => c.Becomes (.wrap c.ty.referent.isOption target) d)
      fun _ => c.ty.dereferenced.unwrapOption.isNumeric = false := by
  rw [toNumber]
  refine (becomes_dereference c).bind fun n' d hd => ?_
  rw [← Ty.isOption_referent_dereferenced, ← hd.ty]
  have hchanged {u : Ty} {e : Computed} (hwrap : u = .wrap d.ty.referent.isOption target) (he : d.Becomes u e) :
      c.Becomes (.wrap d.ty.referent.isOption target) e := by
    rw [← hwrap]
    exact hd.trans he
  refine .ite (fun heq => ?_) fun _ => ?_
  · have hself : target = .wrap d.ty.referent.isOption target := by
      rw [heq, Ty.referent_of_isNumeric htarget]
      cases target <;> first | rfl | cases htarget
    exact .pure (hchanged hself (becomes_self heq))
  cases hty : d.ty with
  | int bits | float bits =>
    rw [hty] at hchanged
    exact .fresh (.pure (hchanged rfl (becomes_bind _ _ _)))
  | option t =>
    rw [hty] at hchanged
    refine .ite (fun hnot => .throw ?_) fun _ => .ite (fun heq => .pure ?_) fun _ => .fresh (.fresh (.pure ?_))
    · simpa [Ty.unwrapOption] using hnot
    · exact hchanged rfl (becomes_self (by rw [hty, heq]; rfl))
    · exact hchanged rfl (becomes_bind _ _ _)
  | _ => exact .throw rfl

/-! ### The second time -/

private theorem dereferenceFrom_dereferenced (c : Computed) (t : Ty) : c.dereferenceFrom t.dereferenced = pure c := by
  induction t with
  | ref t ih =>
    rw [Ty.dereferenced]
    by_cases hcopy : t.isCopy = true
    · rw [if_pos hcopy]
      exact ih
    · rw [if_neg hcopy, dereferenceFrom, if_neg hcopy]
  | option t =>
    cases t with
    | ref t =>
      rw [Ty.dereferenced]
      by_cases hcopy : (t.isCopy && t.isScalar) = true
      · rw [if_pos hcopy]
        have hscalar : t.isScalar = true := (Bool.and_eq_true_iff.1 hcopy).2
        cases t <;> first | rfl | cases hscalar
      · rw [if_neg hcopy, dereferenceFrom, if_neg hcopy]
    | _ => rfl
  | _ => rfl

theorem leavesAlone_dereference (t : Ty) : LeavesAlone dereference t.dereferenced := by
  intro c hc n
  rw [dereference, hc, dereferenceFrom_dereferenced]
  rfl

theorem leavesAlone_toText (isOption : Bool) : LeavesAlone toText (.wrap isOption .strRef) := by
  intro c hc n
  rw [toText, hc]
  cases isOption <;> rfl

theorem leavesAlone_toNumber (htarget : target.isNumeric = true) (isOption : Bool) :
    LeavesAlone (toNumber target) (.wrap isOption target) := by
  intro c hc n
  have hdone : (Ty.wrap isOption target).dereferenced = .wrap isOption target := by
    cases isOption <;> cases target <;> first | rfl | cases htarget
  have hderef : c.dereference = pure c := by
    rw [dereference, hc, ← hdone, dereferenceFrom_dereferenced]
  rw [toNumber, hderef, pure_bind, hc]
  cases isOption with
  | false =>
    rw [if_pos (by rfl)]
    rfl
  | true =>
    have hno : Ty.option target ≠ target := by
      intro heq
      rw [← heq] at htarget
      cases htarget
    simp only [Ty.wrap, if_true, if_neg hno, htarget]
    rfl

/-- Where coercions end: taking a value from behind its references gives it, and text or a number is made of it, if at
all, with the same shape and more steps at the end, as the type that `Becomes` names.  Each coercion leaves a value of
the type where it ends as it is. -/
theorem coercions_settle (c : Computed) (n : Namer) :
    (∃ n' d, c.dereference.run n = (.ok d, n') ∧ c.Becomes c.ty.dereferenced d ∧ LeavesAlone dereference d.ty) ∧
    (∀ n' d, c.toText.run n = (.ok d, n') →
      c.Becomes (.wrap c.ty.referent.isOption .strRef) d ∧ LeavesAlone toText d.ty) ∧
    ∀ target, target = .int 64 ∨ target = .float 64 → ∀ n' d, (c.toNumber target).run n = (.ok d, n') →
      c.Becomes (.wrap c.ty.referent.isOption target) d ∧ LeavesAlone (toNumber target) d.ty := by
  refine ⟨?_, fun n' d hrun => ?_, fun target htarget n' d hrun => ?_⟩
  · obtain ⟨n', d, hrun, hd⟩ := (becomes_dereference c (n := n)).exists_ok
    refine ⟨n', d, hrun, hd, ?_⟩
    rw [hd.ty]
    exact leavesAlone_dereference c.ty
  · obtain ⟨u, hu, hd⟩ := (becomes_toText c).post hrun
    rw [hu.eq_wrap] at hd
    refine ⟨hd, ?_⟩
    rw [hd.ty]
    exact leavesAlone_toText _
  · have hnumeric : target.isNumeric = true := by
      rcases htarget with rfl | rfl <;> rfl
    have hd := (becomes_toNumber hnumeric c).post hrun
    refine ⟨hd, ?_⟩
    rw [hd.ty]
    exact leavesAlone_toNumber hnumeric _

/-- A value of this shape and type, before any steps. -/
private def given (shape : ValueShape) (t : Ty) : Computed := ⟨⟨"value", false⟩, shape, t, []⟩

theorem coercions_settle_behind_references :
    (∃ n' d, (given (.string none) (.ref (.ref .string))).toText.run ⟨0⟩ = (.ok d, n') ∧ LeavesAlone toText d.ty) ∧
    ∃ n' d, ((given (.number none) (.ref (.option (.int 32)))).toNumber (.int 64)).run ⟨0⟩ = (.ok d, n') ∧
      d.ty = .option (.int 64) ∧ LeavesAlone (toNumber (.int 64)) d.ty := by
  obtain ⟨-, htext, -⟩ := coercions_settle (given (.string none) (.ref (.ref .string))) ⟨0⟩
  obtain ⟨-, -, hnumber⟩ := coercions_settle (given (.number none) (.ref (.option (.int 32)))) ⟨0⟩
  refine ⟨⟨_, _, rfl, (htext _ _ rfl).2⟩, _, _, rfl, ?_⟩
  obtain ⟨hbecomes, halone⟩ := hnumber (.int 64) (.inl rfl) _ _ rfl
  exact ⟨hbecomes.ty, halone⟩

end Computed

end Signpost.Traversal
