import Signpost.Traversal.Computed

/-!
# Scopes of emitted steps

The names that steps bind anywhere, also as parameters of closures (`Step.bindersOf`), and whether each identifier that
they use is known by then (`Step.AllScoped`): it was known before, or an earlier step of the block or of a block around
it binds it, or it is the parameter of a closure around it.
-/

namespace Signpost.Traversal

open Code (Ident)

/-- Identifiers that may be used. -/
abbrev Known := Ident → Prop

/-- More identifiers may be used. -/
def Known.with (known : Known) (names : List Ident) : Known := fun i => i ∈ names ∨ known i

/-- What the end of a block uses. -/
def Tail.uses : Tail → List Ident
  | plain i | present i => [i]
  | equal l r => [l, r]

/-- What an operation uses before it comes to a block of its own. -/
def Operation.uses : Operation → List Ident
  | .field s _ | .optionalField s _ _ | .entry s _ _ | .unwrap s | .wrap s | .deref s | .copied s | .text s
  | .mapText s _ | .cast s _ | .mapCast s _ _ | .not s | .values s | .flatten s | .charCount s | .length s | .keys s _
  | .both s _ _ | .either s _ _ | .andThen s _ _ _ | .each s _ _ _ _ | .any s _ _ _ => [s]
  | .compare _ l r | .containsText l r => [l, r]
  | .list items => items
  | .names _ => []

/-- The name that a step binds in its own block. -/
def Step.names : Step → List Ident
  | .bind name _ | .const name _ _ => [name]
  | .guard _ | .note _ => []

/-- The names that steps bind in their own block. -/
def Step.namesOf (steps : List Step) : List Ident := steps.flatMap Step.names

mutual

/-- The names that an operation binds inside: parameters of closures, and what their blocks bind. -/
def Operation.binders : Operation → List Ident
  | .mapText _ item | .mapCast _ item _ | .keys _ item => [item]
  | .both _ steps _ | .either _ steps _ => Step.bindersOf steps
  | .andThen _ item steps _ | .each _ _ item steps _ | .any _ item steps _ => item :: Step.bindersOf steps
  | _ => []

/-- The names that a step binds anywhere. -/
def Step.binders : Step → List Ident
  | .bind name op => name :: op.binders
  | .const name _ _ => [name]
  | .guard _ | .note _ => []

/-- The names that steps bind anywhere. -/
def Step.bindersOf : List Step → List Ident
  | [] => []
  | s :: ss => s.binders ++ Step.bindersOf ss

end

mutual

/-- Whether everything that an operation uses is known. -/
def Operation.IsScoped (known : Known) : Operation → Prop
  | .both l steps v | .either l steps v =>
    known l ∧ Step.AllScoped known steps ∧ ∀ i ∈ v.uses, known.with (Step.namesOf steps) i
  | .andThen s item steps v | .each s _ item steps v | .any s item steps v =>
    known s ∧ Step.AllScoped (known.with [item]) steps ∧ ∀ i ∈ v.uses, (known.with [item]).with (Step.namesOf steps) i
  | op => ∀ i ∈ op.uses, known i

/-- Whether everything that a step uses is known. -/
def Step.IsScoped (known : Known) : Step → Prop
  | .bind _ op => op.IsScoped known
  | .guard c => known c
  | .const _ _ _ | .note _ => True

/-- Whether everything that steps use is known, where each may use what those before it bind. -/
def Step.AllScoped (known : Known) : List Step → Prop
  | [] => True
  | s :: ss => s.IsScoped known ∧ Step.AllScoped (known.with s.names) ss

end

attribute [simp] Operation.uses Operation.binders Operation.IsScoped

variable {known known' : Known} {names names' : List Ident} {steps steps' : List Step} {op : Operation} {i : Ident}

/-! ### More that is known -/

namespace Known

@[simp] theorem with_nil : known.with [] = known := by
  funext i
  simp [Known.with]

theorem with_append : known.with (names ++ names') = (known.with names).with names' := by
  funext i
  simp [Known.with, or_left_comm, or_assoc]

theorem with_mono (h : ∀ i, known i → known' i) : known.with names i → known'.with names i :=
  Or.imp_right (h i)

theorem subset_with : known i → known.with names i := .inr

end Known

mutual

theorem Operation.IsScoped.weaken {known known' : Known} (hk : ∀ i, known i → known' i) :
    (op : Operation) → op.IsScoped known → op.IsScoped known'
  | .both l steps v, h | .either l steps v, h => by
    rw [Operation.IsScoped] at h ⊢
    exact ⟨hk l h.1, Step.AllScoped.weaken hk steps h.2.1, fun i hi => Known.with_mono hk (h.2.2 i hi)⟩
  | .andThen s item steps v, h | .each s source item steps v, h | .any s item steps v, h => by
    rw [Operation.IsScoped] at h ⊢
    have hitem : ∀ i, known.with [item] i → known'.with [item] i := fun i => Known.with_mono hk
    exact ⟨hk s h.1, Step.AllScoped.weaken hitem steps h.2.1, fun i hi => Known.with_mono hitem (h.2.2 i hi)⟩
  | .field _ _, h | .optionalField _ _ _, h | .entry _ _ _, h | .unwrap _, h | .wrap _, h | .deref _, h | .copied _, h
  | .text _, h | .mapText _ _, h | .cast _ _, h | .mapCast _ _ _, h | .not _, h | .compare _ _ _, h | .values _, h
  | .flatten _, h | .charCount _, h | .length _, h | .list _, h | .names _, h | .keys _ _, h
  | .containsText _ _, h => by
    rw [Operation.IsScoped] at h ⊢
    · exact fun i hi => hk i (h i hi)
    all_goals simp

theorem Step.IsScoped.weaken {known known' : Known} (hk : ∀ i, known i → known' i) :
    (step : Step) → step.IsScoped known → step.IsScoped known'
  | .bind _ op, h => by
    rw [Step.IsScoped] at h ⊢
    exact Operation.IsScoped.weaken hk op h
  | .guard c, h => by
    rw [Step.IsScoped] at h ⊢
    exact hk c h
  | .const _ _ _, _ | .note _, _ => by
    rw [Step.IsScoped]
    trivial

theorem Step.AllScoped.weaken {known known' : Known} (hk : ∀ i, known i → known' i) :
    (steps : List Step) → Step.AllScoped known steps → Step.AllScoped known' steps
  | [], h => h
  | step :: steps, h => by
    rw [Step.AllScoped] at h ⊢
    exact ⟨Step.IsScoped.weaken hk step h.1, Step.AllScoped.weaken (fun i => Known.with_mono hk) steps h.2⟩

end

/-! ### Steps after one another -/

@[simp] theorem Step.namesOf_append : Step.namesOf (steps ++ steps') = Step.namesOf steps ++ Step.namesOf steps' :=
  List.flatMap_append

@[simp] theorem Step.bindersOf_append :
    Step.bindersOf (steps ++ steps') = Step.bindersOf steps ++ Step.bindersOf steps' := by
  induction steps with
  | nil => rfl
  | cons s ss ih => rw [List.cons_append, Step.bindersOf, Step.bindersOf, ih, List.append_assoc]

@[simp] theorem Step.bindersOf_nil : Step.bindersOf [] = [] := rfl

@[simp] theorem Step.bindersOf_guard : Step.bindersOf (.guard i :: steps) = Step.bindersOf steps := rfl

@[simp] theorem Step.bindersOf_bind {name : Ident} : Step.bindersOf [.bind name op] = name :: op.binders :=
  List.append_nil _

theorem Step.allScoped_append :
    Step.AllScoped known (steps ++ steps') ↔
      Step.AllScoped known steps ∧ Step.AllScoped (known.with (Step.namesOf steps)) steps' := by
  induction steps generalizing known with
  | nil => simp [Step.AllScoped, Step.namesOf]
  | cons s ss ih =>
    have hnames : Step.namesOf (s :: ss) = s.names ++ Step.namesOf ss := rfl
    rw [List.cons_append, Step.AllScoped, Step.AllScoped, ih, hnames, Known.with_append, and_assoc]

end Signpost.Traversal
