import Mathlib.Data.List.Forall2
import Signpost.Proofs.Except
import Signpost.Resolver.Compile

/-!
# Compiling that succeeds

What a successful run of the compiler consists of: the steps one after the other (`bind_ok_iff`), each of which
ensures something of what it gives, whatever functions have been looked up before (`Ensures`).  What a step ensures may
depend on the functions that are registered (`EnsuresFor`).  `emitted` is what a run gives, without the registry.
-/

namespace Signpost.Resolver

variable {α β : Type} {m : Compiling α} {r r' r'' : Registry} {a a' : α} {b : β}

@[simp] theorem pure_ok_iff : (pure a : Compiling α) r = .ok (a', r') ↔ a = a' ∧ r = r' := by
  show Except.ok (a, r) = Except.ok (a', r') ↔ _
  rw [Except.ok.injEq, Prod.mk.injEq]

theorem bind_ok_iff {f : α → Compiling β} :
    (m >>= f) r = .ok (b, r'') ↔ ∃ a r', m r = .ok (a, r') ∧ f a r' = .ok (b, r'') := by
  show (m r >>= fun x => f x.1 x.2) = _ ↔ _
  constructor
  · intro h
    obtain ⟨x, hx, hf⟩ := exists_of_bind_ok h
    exact ⟨x.1, x.2, hx, hf⟩
  · rintro ⟨a, r', h, hf⟩
    rw [h]
    exact hf

theorem bind_error_iff {f : α → Compiling β} {g : Failure} :
    (m >>= f) r = .error g ↔ m r = .error g ∨ ∃ a r', m r = .ok (a, r') ∧ f a r' = .error g := by
  show (m r >>= fun x => f x.1 x.2) = _ ↔ _
  constructor
  · intro h
    rcases exists_of_bind_error h with h | ⟨x, hx, hf⟩
    · exact .inl h
    · exact .inr ⟨x.1, x.2, hx, hf⟩
  · rintro (h | ⟨a, r', h, hf⟩)
    · rw [h]
      rfl
    · rw [h]
      exact hf

@[simp] theorem not_fail_ok {c : Cause} {x : α × Registry} : (fail c : Compiling α) r ≠ .ok x := by
  intro h
  cases h

theorem inRule_ok_iff {path : RulePath} {x : α × Registry} : inRule path m r = .ok x ↔ m r = .ok x := by
  unfold inRule
  cases m r with
  | ok y => exact Iff.rfl
  | error f => constructor <;> intro h <;> cases h

theorem inRule_error_iff {path : RulePath} {f : Failure} :
    inRule path m r = .error f ↔ ∃ g, m r = .error g ∧ f = g.inRule path := by
  unfold inRule
  cases m r with
  | ok y =>
    constructor
    · intro h
      cases h
    · rintro ⟨g, h, -⟩
      cases h
  | error g =>
    constructor
    · intro h
      exact ⟨g, rfl, (Except.error.inj h).symm⟩
    · rintro ⟨g', h, rfl⟩
      rw [Except.error.inj h]
      rfl

/-! ### What steps ensure -/

/-- What a successful run gives has the property; the run leaves the functions as they are and depends on nothing
but them. -/
structure Ensures (m : Compiling α) (P : α → Prop) : Prop where
  post : ∀ {r r' a}, m r = .ok (a, r') → P a
  functions : ∀ {r r' a}, m r = .ok (a, r') → r'.functions = r.functions
  again : ∀ {r r' a}, m r = .ok (a, r') → ∀ s : Registry, s.functions = r.functions → ∃ s', m s = .ok (a, s')

namespace Ensures

variable {P P' : α → Prop} {Q : β → Prop} {m' : Compiling α}

theorem pure (h : P a) : Ensures (pure a) P := by
  constructor
  · intro r r' b hb
    rwa [← (pure_ok_iff.1 hb).1]
  · intro r r' b hb
    rw [(pure_ok_iff.1 hb).2]
  · intro r r' b hb s _
    exact ⟨s, pure_ok_iff.2 ⟨(pure_ok_iff.1 hb).1, rfl⟩⟩

theorem fail (c : Cause) : Ensures (fail c) P :=
  ⟨fun h => absurd h not_fail_ok, fun h => absurd h not_fail_ok, fun h => absurd h not_fail_ok⟩

theorem bind {f : α → Compiling β} (hm : Ensures m P) (hf : ∀ a, P a → Ensures (f a) Q) : Ensures (m >>= f) Q := by
  constructor
  · intro r r'' b h
    obtain ⟨a, r', ha, hb⟩ := bind_ok_iff.1 h
    exact (hf a (hm.post ha)).post hb
  · intro r r'' b h
    obtain ⟨a, r', ha, hb⟩ := bind_ok_iff.1 h
    rw [(hf a (hm.post ha)).functions hb, hm.functions ha]
  · intro r r'' b h s hs
    obtain ⟨a, r', ha, hb⟩ := bind_ok_iff.1 h
    obtain ⟨s', hs'⟩ := hm.again ha s hs
    have hfun : s'.functions = r'.functions := by rw [hm.functions hs', hs, hm.functions ha]
    obtain ⟨s'', hs''⟩ := (hf a (hm.post ha)).again hb s' hfun
    exact ⟨s'', bind_ok_iff.2 ⟨a, s', hs', hs''⟩⟩

theorem ite {p : Prop} [Decidable p] (hm : p → Ensures m P) (hm' : ¬ p → Ensures m' P) :
    Ensures (if p then m else m') P := by
  split
  · exact hm ‹_›
  · exact hm' ‹_›

theorem mono (hm : Ensures m P) (h : ∀ a, P a → P' a) : Ensures m P' :=
  ⟨fun ha => h _ (hm.post ha), hm.functions, hm.again⟩

theorem inRule (hm : Ensures m P) (path : RulePath) : Ensures (inRule path m) P := by
  constructor
  · exact fun h => hm.post (inRule_ok_iff.1 h)
  · exact fun h => hm.functions (inRule_ok_iff.1 h)
  · intro r r' a h s hs
    obtain ⟨s', hs'⟩ := hm.again (inRule_ok_iff.1 h) s hs
    exact ⟨s', inRule_ok_iff.2 hs'⟩

end Ensures

/-- What is compiled, if it is. -/
def emitted {α : Type} (registry : Registry) (m : Compiling α) : Option α := (m registry).toOption.map (·.1)

theorem emitted_eq {P : α → Prop} {registry : Registry} (hm : Ensures m P) (h : m r = .ok (a, r'))
    (hr : r.functions = registry.functions) : emitted registry m = some a := by
  obtain ⟨s', hs'⟩ := hm.again h registry hr.symm
  rw [emitted, hs']
  rfl

theorem function_ok_iff {name : String} {f : Function} :
    function name r = .ok (f, r') ↔ r.lookUp name = some (f, r') := by
  have hget : ∀ k : Registry → Compiling Function, (get >>= k) r = k r r := fun _ => rfl
  rw [function, hget]
  cases r.lookUp name with
  | none => simp
  | some x =>
    show Except.ok x = .ok (f, r') ↔ _
    simp

theorem ensures_function (name : String) : Ensures (function name) fun _ => True := by
  constructor
  · exact fun _ => trivial
  · intro r r' f h
    obtain ⟨g, -, hx⟩ := Option.map_eq_some_iff.1 (function_ok_iff.1 h)
    rw [← (Prod.mk.inj hx).2]
    split <;> rfl
  · intro r r' f h s hs
    obtain ⟨g, hg, hx⟩ := Option.map_eq_some_iff.1 (function_ok_iff.1 h)
    obtain ⟨rfl, -⟩ := Prod.mk.inj hx
    exact ⟨_, function_ok_iff.2 (Option.map_eq_some_iff.2 ⟨g, by rw [hs, hg], rfl⟩)⟩

/-! ### What steps ensure of registered functions -/

/-- Where these functions are registered, what a successful run gives has the property, and they stay registered. -/
structure EnsuresFor (functions : Table String Function) (m : Compiling α) (P : α → Prop) : Prop where
  run : ∀ {r r' a}, r.functions = functions → m r = .ok (a, r') → r'.functions = functions ∧ P a

namespace EnsuresFor

variable {functions : Table String Function} {P P' : α → Prop} {Q : β → Prop} {m' : Compiling α}

theorem of_ensures (h : Ensures m P) : EnsuresFor functions m P :=
  ⟨fun hr ha => ⟨(h.functions ha).trans hr, h.post ha⟩⟩

theorem pure (h : P a) : EnsuresFor functions (pure a) P := of_ensures (.pure h)

theorem fail (c : Cause) : EnsuresFor functions (fail c) P := of_ensures (.fail c)

theorem bind {f : α → Compiling β} (hm : EnsuresFor functions m P) (hf : ∀ a, P a → EnsuresFor functions (f a) Q) :
    EnsuresFor functions (m >>= f) Q := by
  constructor
  intro r r'' b hr h
  obtain ⟨a, r', ha, hb⟩ := bind_ok_iff.1 h
  obtain ⟨hr', hP⟩ := hm.run hr ha
  exact (hf a hP).run hr' hb

theorem ite {p : Prop} [Decidable p] (hm : p → EnsuresFor functions m P) (hm' : ¬ p → EnsuresFor functions m' P) :
    EnsuresFor functions (if p then m else m') P := by
  split
  · exact hm ‹_›
  · exact hm' ‹_›

theorem mono (hm : EnsuresFor functions m P) (h : ∀ a, P a → P' a) : EnsuresFor functions m P' :=
  ⟨fun hr ha => ⟨(hm.run hr ha).1, h _ (hm.run hr ha).2⟩⟩

theorem and (hm : EnsuresFor functions m P) (hm' : EnsuresFor functions m P') :
    EnsuresFor functions m fun a => P a ∧ P' a :=
  ⟨fun hr ha => ⟨(hm.run hr ha).1, (hm.run hr ha).2, (hm'.run hr ha).2⟩⟩

theorem mapM {R : α → β → Prop} {f : α → Compiling β} (hf : ∀ a, EnsuresFor functions (f a) (R a)) :
    (as : List α) → EnsuresFor functions (as.mapM f) (List.Forall₂ R as)
  | [] => by
    rw [List.mapM_nil]
    exact pure .nil
  | a :: as => by
    rw [List.mapM_cons]
    exact (hf a).bind fun b hb => (mapM hf as).bind fun bs hbs => pure (.cons hb hbs)

theorem forall_mapM {R : α → Prop} {f : α → Compiling β} (hf : ∀ a, EnsuresFor functions (f a) fun _ => R a)
    (as : List α) : EnsuresFor functions (as.mapM f) fun _ => ∀ a ∈ as, R a := by
  refine (mapM hf as).mono fun bs hbs => ?_
  induction hbs with
  | nil => exact fun _ h => absurd h List.not_mem_nil
  | cons ha _ ih => exact List.forall_mem_cons.2 ⟨ha, ih⟩

/-- What a run gives under a condition, which says nothing about the run itself. -/
theorem of_imp {p : Prop} (h : Ensures m P') (hm : p → EnsuresFor functions m P) :
    EnsuresFor functions m fun a => p → P a :=
  ⟨fun hr ha => ⟨(h.functions ha).trans hr, fun hp => ((hm hp).run hr ha).2⟩⟩

end EnsuresFor

theorem ensures_function_registered {functions : Table String Function} (name : String) :
    EnsuresFor functions (function name) fun f => functions.get? name = some f := by
  constructor
  intro r r' f hr h
  refine ⟨((ensures_function name).functions h).trans hr, ?_⟩
  obtain ⟨g, hg, hx⟩ := Option.map_eq_some_iff.1 (function_ok_iff.1 h)
  rw [← hr, hg, (Prod.mk.inj hx).1]

end Signpost.Resolver
