import Signpost.Proofs.Traversal.Agreeing
import Signpost.Traversal.Compile

/-!
# What computations come to

`Yields` says of a computation that takes names, started where so many are taken, what it gives and how many names are
taken then, and for which causes it may fail.  Steps of a computation are taken one after the other (`Yields.bind`).
What a computation ensures wherever it starts may be used beside it (`Yields.and`).
-/

namespace Signpost.Traversal

open Code (Ident)

variable {α β : Type} {m m' : Naming α} {n : Namer} {P P' : Namer → α → Prop} {Q : Namer → β → Prop}
  {F F' : Cause → Prop}

/-- What the computation gives has the first property, along with the names that are taken then; the causes for which
it fails have the second. -/
def Yields (m : Naming α) (n : Namer) (P : Namer → α → Prop) (F : Cause → Prop) : Prop :=
  match m.run n with
  | (.ok a, n') => P n' a
  | (.error c, _) => F c

namespace Yields

theorem pure {a : α} (h : P n a) : Yields (pure a) n P F := h

theorem throw {c : Cause} (h : F c) : Yields (throw c : Naming α) n P F := h

theorem ofExcept {x : Except Cause α} (hok : ∀ a, x = .ok a → P n a) (herror : ∀ c, x = .error c → F c) :
    Yields (MonadExcept.ofExcept x : Naming α) n P F := by
  cases x with
  | error c => exact throw (herror c rfl)
  | ok a => exact pure (hok a rfl)

theorem bind {f : α → Naming β} (hm : Yields m n P F) (hf : ∀ n' a, P n' a → Yields (f a) n' Q F) :
    Yields (m >>= f) n Q F := by
  rw [Yields, run_bind]
  rw [Yields] at hm
  rcases hrun : m.run n with ⟨c | a, n'⟩
  · rw [hrun] at hm
    exact hm
  · rw [hrun] at hm
    exact hf n' a hm

theorem pure_bind {a : α} {f : α → Naming β} (h : Yields (f a) n Q F) : Yields (Pure.pure a >>= f) n Q F := h

theorem ofExcept_bind {x : Except Cause α} {f : α → Naming β} (hok : ∀ a, x = .ok a → Yields (f a) n Q F)
    (herror : ∀ c, x = .error c → F c) : Yields (MonadExcept.ofExcept x >>= f) n Q F := by
  cases x with
  | error c => exact herror c rfl
  | ok a => exact hok a rfl

/-- Nothing comes of what follows a failure. -/
theorem throw_bind {c : Cause} {f : α → Naming β} (h : F c) : Yields (MonadExcept.throw c >>= f) n Q F := h

/-- Going on with a local that was not named before. -/
theorem fresh {f : Ident → Naming β} {stem : String}
    (hf : Yields (f (localName stem (n.taken + 1))) ⟨n.taken + 1⟩ Q F) : Yields (fresh stem >>= f) n Q F := by
  rw [Yields, run_bind]
  exact hf

theorem ite {p : Prop} [Decidable p] (hm : p → Yields m n P F) (hm' : ¬ p → Yields m' n P F) :
    Yields (if p then m else m') n P F := by
  by_cases h : p
  · rw [if_pos h]
    exact hm h
  · rw [if_neg h]
    exact hm' h

/-- Going on unless there is a reason to stop. -/
theorem unlessStopped {p : Prop} [Decidable p] {c : Cause} {f : Unit → Naming β} (hc : F c)
    (hf : ¬ p → Yields (f ()) n Q F) : Yields (if p then MonadExcept.throw c >>= f else f ()) n Q F :=
  ite (fun _ => throw_bind hc) hf

theorem imp (hm : Yields m n P F) (h : ∀ n' a, P n' a → P' n' a) (hF : ∀ c, F c → F' c) : Yields m n P' F' := by
  rw [Yields] at hm ⊢
  rcases hrun : m.run n with ⟨c | a, n'⟩
  · rw [hrun] at hm
    exact hF c hm
  · rw [hrun] at hm
    exact h n' a hm

theorem mono (hm : Yields m n P F) (h : ∀ n' a, P n' a → P' n' a) : Yields m n P' F := hm.imp h fun _ => id

/-- What the computation gives when it does not fail. -/
theorem post {n' : Namer} {a : α} (hm : Yields m n P F) (hrun : m.run n = (.ok a, n')) : P n' a := by
  rwa [Yields, hrun] at hm

/-- A computation that fails for no cause gives something. -/
theorem exists_ok (hm : Yields m n P fun _ => False) : ∃ n' a, m.run n = (.ok a, n') ∧ P n' a := by
  rw [Yields] at hm
  rcases hrun : m.run n with ⟨c | a, n'⟩
  · rw [hrun] at hm
    exact hm.elim
  · rw [hrun] at hm
    exact ⟨n', a, rfl, hm⟩

theorem mapM {R : β → Prop} {f : α → Naming β} {as : List α} (hf : ∀ a ∈ as, ∀ n, Yields (f a) n (fun _ => R) F) :
    Yields (as.mapM f) n (fun _ bs => ∀ b ∈ bs, R b) F := by
  induction as generalizing n with
  | nil => exact pure fun b hb => absurd hb List.not_mem_nil
  | cons a as ih =>
    rw [List.mapM_cons]
    refine (hf a List.mem_cons_self n).bind fun n' b hb => ?_
    refine (ih fun a ha => hf a (List.mem_cons_of_mem _ ha)).bind fun n'' bs hbs => ?_
    exact pure (List.forall_mem_cons.2 ⟨hb, hbs⟩)

theorem and {R : α → Prop} (hm : Yields m n P F) (h : Ensures m R) : Yields m n (fun n' a => P n' a ∧ R a) F := by
  rw [Yields] at hm ⊢
  rcases hrun : m.run n with ⟨c | a, n'⟩
  · rw [hrun] at hm
    exact hm
  · rw [hrun] at hm
    exact ⟨hm, h.post hrun⟩

theorem ensures {R : α → Prop} (h : ∀ n, Yields m n (fun _ => R) F) : Ensures m R := by
  constructor
  intro n n' a hrun
  exact (h n).post hrun

end Yields

/-! ### Runs -/

namespace Settings

variable {s : Settings} {observe : Observer} {scope : Scope} {e : Query.Expr}

theorem exists_of_runWith_ok {c : Computed} (h : s.runWith observe scope e = .ok c) :
    ∃ n, (s.compileWith observe scope 0 false e).run ⟨0⟩ = (.ok c, n) := by
  rw [runWith] at h
  rcases hrun : (s.compileWith observe scope 0 false e).run ⟨0⟩ with ⟨_ | d, n⟩
  · rw [hrun] at h
    cases h
  · rw [hrun] at h
    cases h
    exact ⟨n, rfl⟩

theorem post_of_runWith {P : Computed → Prop} {c : Computed}
    (h : Ensures (s.compileWith observe scope 0 false e) P) (hc : s.runWith observe scope e = .ok c) : P c := by
  obtain ⟨n, hrun⟩ := exists_of_runWith_ok hc
  exact h.post hrun

theorem exists_of_runWith_error {f : Failure} (h : s.runWith observe scope e = .error f) :
    ∃ n, (s.compileWith observe scope 0 false e).run ⟨0⟩ = (.error f.cause, n) := by
  rw [runWith] at h
  rcases hrun : (s.compileWith observe scope 0 false e).run ⟨0⟩ with ⟨c | _, n⟩
  · rw [hrun] at h
    cases h
    exact ⟨n, rfl⟩
  · rw [hrun] at h
    cases h

theorem cause_of_runWith {P : Namer → Computed → Prop} {f : Failure}
    (h : Yields (s.compileWith observe scope 0 false e) ⟨0⟩ P F) (hf : s.runWith observe scope e = .error f) :
    F f.cause := by
  obtain ⟨n, hrun⟩ := exists_of_runWith_error hf
  rwa [Yields, hrun] at h

end Settings

end Signpost.Traversal
