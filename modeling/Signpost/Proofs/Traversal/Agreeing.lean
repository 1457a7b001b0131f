import Signpost.Traversal.Computed

/-!
# Computations that take names

What a computation that takes names ensures of what it gives, whichever names are taken already (`Ensures`), and when
two of them do the same (`Agree`).  Two computations with the same steps agree if they go on in the same way from what
these steps ensure; from anything else they may go on in different ways (`Agree.bind`).
-/

namespace Signpost.Traversal

variable {α β : Type} {m m' : Naming α} {P P' : α → Prop} {Q : β → Prop} {n n'' : Namer} {a : α} {b : β}

/-- What the computation gives has the property, if it gives anything. -/
structure Ensures (m : Naming α) (P : α → Prop) : Prop where
  post : ∀ {n n' a}, m.run n = (.ok a, n') → P a

/-- The computations do the same, and what they give has the property. -/
structure Agree (m m' : Naming α) (P : α → Prop) : Prop where
  eq : m = m'
  ensures : Ensures m P

theorem run_bind {f : α → Naming β} : (m >>= f).run n =
    match m.run n with
    | (.ok a, n') => (f a).run n'
    | (.error c, n') => (.error c, n') := by
  show (match m.run n with | (x, n') => ExceptT.bindCont f x n') = _
  rcases m.run n with ⟨_ | a, n'⟩ <;> rfl

theorem exists_of_run_bind {f : α → Naming β} (h : (m >>= f).run n = (.ok b, n'')) :
    ∃ a n', m.run n = (.ok a, n') ∧ (f a).run n' = (.ok b, n'') := by
  rw [run_bind] at h
  rcases hm : m.run n with ⟨c | a, n'⟩
  · rw [hm] at h
    cases h
  · rw [hm] at h
    exact ⟨a, n', rfl, h⟩

namespace Ensures

theorem pure (h : P a) : Ensures (pure a) P := by
  constructor
  intro n n' b hb
  cases hb
  exact h

theorem throw (c : Cause) : Ensures (throw c : Naming α) P := by
  constructor
  intro n n' a h
  cases h

theorem ofExcept {x : Except Cause α} (h : ∀ a, x = .ok a → P a) :
    Ensures (MonadExcept.ofExcept x : Naming α) P := by
  cases x with
  | error c => exact throw c
  | ok a => exact pure (h a rfl)

theorem bind {f : α → Naming β} (hm : Ensures m P) (hf : ∀ a, P a → Ensures (f a) Q) : Ensures (m >>= f) Q := by
  constructor
  intro n n'' b h
  obtain ⟨a, n', ha, hb⟩ := exists_of_run_bind h
  exact (hf a (hm.post ha)).post hb

theorem pure_bind {f : α → Naming β} (h : Ensures (f a) Q) : Ensures (Pure.pure a >>= f) Q := h

/-- What comes of the result of a computation, whatever the result is. -/
theorem after {f : α → Naming β} (hf : ∀ a, Ensures (f a) Q) : Ensures (m >>= f) Q := by
  constructor
  intro n n'' b h
  obtain ⟨a, n', -, hb⟩ := exists_of_run_bind h
  exact (hf a).post hb

theorem ite {p : Prop} [Decidable p] (hm : p → Ensures m P) (hm' : ¬ p → Ensures m' P) :
    Ensures (if p then m else m') P := by
  by_cases h : p
  · rw [if_pos h]
    exact hm h
  · rw [if_neg h]
    exact hm' h

/-- Nothing comes of what follows a failure. -/
theorem throw_bind (c : Cause) (f : α → Naming β) : Ensures (MonadExcept.throw c >>= f) Q := by
  refine bind (P := fun _ => False) (throw c) fun a h => ?_
  cases h

/-- Going on unless there is a reason to stop. -/
theorem unlessStopped {p : Prop} [Decidable p] {c : Cause} {f : Unit → Naming β} (hf : ¬ p → Ensures (f ()) Q) :
    Ensures (if p then MonadExcept.throw c >>= f else f ()) Q :=
  ite (fun _ => throw_bind c f) hf

theorem mono (hm : Ensures m P) (h : ∀ a, P a → P' a) : Ensures m P' :=
  ⟨fun ha => h _ (hm.post ha)⟩

theorem and (hm : Ensures m P) (h : Ensures m P') : Ensures m fun a => P a ∧ P' a :=
  ⟨fun ha => ⟨hm.post ha, h.post ha⟩⟩

theorem mapM {f : α → Naming β} {as : List α} (hf : ∀ a ∈ as, Ensures (f a) Q) :
    Ensures (as.mapM f) fun bs => ∀ b ∈ bs, Q b := by
  induction as with
  | nil => exact pure fun b hb => absurd hb List.not_mem_nil
  | cons a as ih =>
    rw [List.mapM_cons]
    refine (hf a List.mem_cons_self).bind fun b hb => ?_
    refine (ih fun a ha => hf a (List.mem_cons_of_mem _ ha)).bind fun bs hbs => ?_
    exact pure (List.forall_mem_cons.2 ⟨hb, hbs⟩)

theorem agree (h : Ensures m P) : Agree m m P := ⟨rfl, h⟩

end Ensures

namespace Agree

theorem bind {f f' : α → Naming β} (hm : Agree m m' P) (hf : ∀ a, P a → Agree (f a) (f' a) Q) :
    Agree (m >>= f) (m' >>= f') Q := by
  refine ⟨?_, hm.ensures.bind fun a ha => (hf a ha).ensures⟩
  rw [← hm.eq]
  funext n
  show (m >>= f).run n = (m >>= f').run n
  rw [run_bind, run_bind]
  rcases h : m.run n with ⟨c | a, n'⟩
  · rfl
  · dsimp only
    rw [(hf a (hm.ensures.post h)).eq]

theorem after {f f' : α → Naming β} (hf : ∀ a, Agree (f a) (f' a) Q) : Agree (m >>= f) (m >>= f') Q :=
  bind (P := fun _ => True) ⟨rfl, ⟨fun _ => trivial⟩⟩ fun a _ => hf a

theorem ite {p : Prop} [Decidable p] {k k' : Naming α} (hm : p → Agree m m' P) (hk : ¬ p → Agree k k' P) :
    Agree (if p then m else k) (if p then m' else k') P := by
  by_cases h : p
  · rw [if_pos h, if_pos h]
    exact hm h
  · rw [if_neg h, if_neg h]
    exact hk h

theorem unlessStopped {p : Prop} [Decidable p] {c : Cause} {f f' : Unit → Naming β}
    (hf : ¬ p → Agree (f ()) (f' ()) Q) :
    Agree (if p then throw c >>= f else f ()) (if p then throw c >>= f' else f' ()) Q := by
  refine ite (fun _ => bind (P := fun _ => False) (Ensures.throw c).agree fun a ha => ?_) hf
  cases ha

end Agree

/-! ### What may be left out -/

section Unless

variable {p : Prop} [Decidable p]

theorem forall_unless (h : P a) : ∀ a' ∈ (if p then none else some a), P a' := by
  intro a' ha'
  obtain ⟨-, ha'⟩ := Option.mem_ite_none_left.1 ha'
  obtain rfl := Option.mem_some_iff.1 ha'
  exact h

theorem rel_unless {R : α → β → Prop} (h : R a b) :
    Option.Rel R (if p then none else some a) (if p then none else some b) := by
  split
  · exact .none
  · exact .some h

end Unless

end Signpost.Traversal
