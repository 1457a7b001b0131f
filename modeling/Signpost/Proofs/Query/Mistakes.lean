import Mathlib.Data.List.Forall2
import Signpost.Query.Parser
import Signpost.Proofs.Offsets

/-!
# Mistakes in a query

Two lists of tokens are read side by side.  Where the tokens are related one by one, and related tokens have the same
kind and the same lexeme, the readers find the same in both, or the same mistake, at related tokens or at the ends
(`agree_all`).  So a mistake lies at a token or at the end (`offset_of_all_error`), and it does not depend on where the
tokens lie (`all_congr`).
-/

namespace Signpost.Query

/-- Related tokens have the same kind and the same lexeme. -/
def KeepsWords (R : Token → Token → Prop) : Prop := ∀ t u, R t u → u.kind = t.kind ∧ u.lexeme = t.lexeme

/-- The same mistake in two texts: at tokens that are related, or at the ends. -/
inductive SyntaxError.Alike (R : Token → Token → Prop) (stop stop' : Nat) : SyntaxError → SyntaxError → Prop
  | unexpected {t u} (h : R t u) : Alike R stop stop' (.unexpected t) (.unexpected u)
  | ended : Alike R stop stop' (.ended stop) (.ended stop')
  | quotedCall {t u} (h : R t u) : Alike R stop stop' (.quotedCall t.offset) (.quotedCall u.offset)
  | notCallable (e : Expr) {t u} (h : R t u) :
      Alike R stop stop' (.notCallable e t.offset) (.notCallable e u.offset)
  | numberTooLarge {t u} (h : R t u) : Alike R stop stop' (.numberTooLarge t) (.numberTooLarge u)
  | badName (f : Json.Fault) {t u} (h : R t u) : Alike R stop stop' (.badName f t.offset) (.badName f u.offset)
  | badLiteral (f : Json.Fault) {t u} (h : R t u) :
      Alike R stop stop' (.badLiteral f t.offset) (.badLiteral f u.offset)

section

variable {R : Token → Token → Prop} {stop stop' : Nat} {t u : Token} {ts us : List Token} {e e' : SyntaxError}

theorem SyntaxError.Alike.exists_offset (h : e.Alike R stop stop' e') :
    ∃ n, e.diagnosis.offset = some n ∧ (n = stop ∨ ∃ t u, R t u ∧ n = t.offset) := by
  cases h with
  | ended => exact ⟨stop, rfl, .inl rfl⟩
  | unexpected h | quotedCall h | notCallable _ h | numberTooLarge h | badName _ h | badLiteral _ h =>
    exact ⟨_, rfl, .inr ⟨_, _, h, rfl⟩⟩

variable (hR : KeepsWords R)

include hR

theorem KeepsWords.kind_eq (h : R t u) (k : Token.Kind) : u.kind = k ↔ t.kind = k := by rw [(hR t u h).1]

theorem KeepsWords.text_eq (h : R t u) : u.text = t.text := by rw [Token.text, Token.text, (hR t u h).2]

theorem KeepsWords.inner_eq (h : R t u) : u.inner = t.inner := by rw [Token.inner, Token.inner, (hR t u h).2]

theorem KeepsWords.nextIs_eq (k : Token.Kind) (h : List.Forall₂ R ts us) :
    Parser.nextIs k us = Parser.nextIs k ts := by
  cases h with
  | nil => rfl
  | cons h _ => rw [Parser.nextIs, Parser.nextIs, (hR _ _ h).1]

theorem SyntaxError.Alike.unplaced_eq (h : e.Alike R stop stop' e') :
    e.diagnosis.unplaced = e'.diagnosis.unplaced := by
  cases h with
  | unexpected h | numberTooLarge h =>
    rw [SyntaxError.diagnosis, SyntaxError.diagnosis, hR.text_eq h]
    rfl
  | _ => rfl

end

namespace Parser

/-- The same is read from two texts, and the tokens that are left are related. -/
inductive Parsed.Alike (R : Token → Token → Prop) {α : Type} {m n : Nat} : Parsed α m → Parsed α n → Prop
  | mk (a : α) {ts us h h'} (hr : List.Forall₂ R ts us) : Alike R ⟨a, ts, h⟩ ⟨a, us, h'⟩

/-- Either both succeed, with values that are related, or both fail with the same mistake. -/
inductive Agree (R : Token → Token → Prop) (stop stop' : Nat) {α β : Type} (V : α → β → Prop) :
    Except SyntaxError α → Except SyntaxError β → Prop
  | ok {a b} (h : V a b) : Agree R stop stop' V (.ok a) (.ok b)
  | error {e e'} (h : e.Alike R stop stop' e') : Agree R stop stop' V (.error e) (.error e')

variable {R : Token → Token → Prop} {rule : Json.RealRule} {stop stop' limit n : Nat} {t u : Token}
  {ts us : List Token} {left : Expr}

/-! ### Rules for readers -/

section

variable {α β γ δ : Type} {V : α → β → Prop} {W : γ → δ → Prop} {k m : Nat}

theorem Agree.bind {x : Except SyntaxError α} {y : Except SyntaxError β} {f : α → Except SyntaxError γ}
    {g : β → Except SyntaxError δ} (h : Agree R stop stop' V x y)
    (hf : ∀ a b, V a b → Agree R stop stop' W (f a) (g b)) : Agree R stop stop' W (x >>= f) (y >>= g) := by
  cases h with
  | ok h => exact hf _ _ h
  | error h => exact .error h

theorem Agree.map {x : Except SyntaxError α} {y : Except SyntaxError β} {f : α → γ} {g : β → δ}
    (h : Agree R stop stop' V x y) (hf : ∀ a b, V a b → W (f a) (g b)) :
    Agree R stop stop' W (x.map f) (y.map g) := by
  cases h with
  | ok h => exact .ok (hf _ _ h)
  | error h => exact .error h

theorem Agree.bind_weaken {k' m' : Nat} {x : Result α k} {y : Result α m} {hk : k ≤ k'} {hm : m ≤ m'}
    (h : Agree R stop stop' (Parsed.Alike R) x y) :
    Agree R stop stop' (Parsed.Alike R) (x >>= fun p => pure (p.weaken hk)) (y >>= fun p => pure (p.weaken hm)) :=
  h.bind fun _ _ ⟨a, hr⟩ => .ok ⟨a, hr⟩

theorem Agree.bind_map {x : Result α k} {y : Result α m} {f : α → γ} (h : Agree R stop stop' (Parsed.Alike R) x y) :
    Agree R stop stop' (Parsed.Alike R) (x >>= fun p => pure (p.map f)) (y >>= fun p => pure (p.map f)) :=
  h.bind fun _ _ ⟨a, hr⟩ => .ok ⟨f a, hr⟩

theorem Agree.bind_map_weaken {k' m' : Nat} {x : Result α k} {y : Result α m} {f : α → γ} {hk : k ≤ k'} {hm : m ≤ m'}
    (h : Agree R stop stop' (Parsed.Alike R) x y) :
    Agree R stop stop' (Parsed.Alike R) (x >>= fun p => pure ((p.map f).weaken hk))
      (y >>= fun p => pure ((p.map f).weaken hm)) :=
  h.bind fun _ _ ⟨a, hr⟩ => .ok ⟨f a, hr⟩

theorem Agree.ite {c d : Prop} [Decidable c] [Decidable d] {x x' : Except SyntaxError α}
    {y y' : Except SyntaxError β} (hc : d ↔ c) (h : c → Agree R stop stop' V x y)
    (h' : ¬ c → Agree R stop stop' V x' y') :
    Agree R stop stop' V (if c then x else x') (if d then y else y') := by
  by_cases hcase : c
  · rw [if_pos hcase, if_pos (hc.2 hcase)]
    exact h hcase
  · rw [if_neg hcase, if_neg (mt hc.1 hcase)]
    exact h' hcase

end

/-! ### Tokens -/

variable (hR : KeepsWords R)

include hR

theorem agree_number (h : R t u) : Agree R stop stop' Eq t.number u.number := by
  unfold Token.number
  rw [(hR t u h).2]
  exact .ite Iff.rfl (fun _ => .ok rfl) fun _ => .error (.numberTooLarge h)

theorem agree_quotedText (h : R t u) : Agree R stop stop' Eq t.quotedText u.quotedText := by
  unfold Token.quotedText
  rw [(hR t u h).2]
  cases Token.jsonString t.lexeme with
  | error f => exact .error (.badName f h)
  | ok s => exact .ok rfl

/-- The key of an entry, and what comes after it. -/
private theorem agree_key {α β : Type} {V : α → β → Prop} {f : String → Except SyntaxError α}
    {g : String → Except SyntaxError β} (h : R t u) (hf : ∀ key, Agree R stop stop' V (f key) (g key)) :
    Agree R stop stop' V
      (match t.kind with
        | .name => Except.ok t.text >>= f
        | .quotedName => t.quotedText >>= f
        | _ => .error (.unexpected t) >>= f)
      (match u.kind with
        | .name => Except.ok u.text >>= g
        | .quotedName => u.quotedText >>= g
        | _ => .error (.unexpected u) >>= g) := by
  rw [(hR t u h).1, hR.text_eq h]
  cases t.kind
  case name => exact hf t.text
  case quotedName => exact (agree_quotedText hR h).bind fun key _ hkey => hkey ▸ hf key
  all_goals exact .error (.unexpected h)

theorem agree_literal (h : R t u) : Agree R stop stop' Eq (t.literal rule) (u.literal rule) := by
  unfold Token.literal
  rw [hR.inner_eq h]
  dsimp only
  generalize Token.trim (Token.unescape '\x60' t.inner) = body
  cases Json.Value.ofText rule body with
  | ok v => exact .ok rfl
  | error =>
    cases Json.Value.ofText rule ('"' :: (body ++ ['"'])) with
    | ok v => exact .ok rfl
    | error f => exact .error (.badLiteral f h)

theorem agree_expect (k : Token.Kind) (h : List.Forall₂ R ts us) :
    Agree R stop stop' (fun p q => List.Forall₂ R p.rest q.rest) (expect stop k ts) (expect stop' k us) := by
  cases h with
  | nil => exact .error .ended
  | cons h hr => exact .ite (hR.kind_eq h k) (fun _ => .ok hr) fun _ => .error (.unexpected h)

theorem agree_bounds (b : Bounds) (h : List.Forall₂ R ts us) :
    Agree R stop stop' (Parsed.Alike R) (bounds stop b ts) (bounds stop' b us) := by
  induction h generalizing b with
  | nil => exact .error .ended
  | @cons t u ts us h hr ih =>
    rw [bounds, bounds, (hR t u h).1]
    cases t.kind
    case rbracket => exact .ok ⟨b, hr⟩
    case colon => exact .ite Iff.rfl (fun _ => (ih _).map fun _ _ ⟨b, hr⟩ => ⟨b, hr⟩) fun _ => .error (.unexpected h)
    case number =>
      have hnumber : Agree R stop stop' Eq t.number u.number := agree_number hR h
      dsimp only
      generalize t.number = x at hnumber
      generalize u.number = y at hnumber
      cases hnumber with
      | ok hn =>
        cases hn
        exact (ih _).map fun _ _ ⟨b, hr⟩ => ⟨b, hr⟩
      | error h => exact .error h
    all_goals exact .error (.unexpected h)

omit hR

/-! ### Readers

Each reader is settled from the expressions that it reads, which are shorter.  Lists, arguments and entries go on behind
a comma, by an induction of their own.
-/

/-- Expressions of at most `n` tokens are read alike. -/
private def ReadsAlike (R : Token → Token → Prop) (rule : Json.RealRule) (stop stop' n : Nat) : Prop :=
  ∀ ⦃limit ts us⦄, ts.length ≤ n → List.Forall₂ R ts us →
    Agree R stop stop' (Parsed.Alike R) (expression rule stop limit ts) (expression rule stop' limit us)

variable (ih : ReadsAlike R rule stop stop' n) (hts : ts.length ≤ n) (hr : List.Forall₂ R ts us)

include hR ih hts hr

private theorem agree_listItems :
    Agree R stop stop' (Parsed.Alike R) (listItems rule stop ts) (listItems rule stop' us) := by
  obtain ⟨k, hk⟩ : ∃ k, ts.length = k := ⟨_, rfl⟩
  induction k using Nat.strongRecOn generalizing ts us with | ind k ihk
  subst hk
  rw [listItems, listItems]
  refine (ih hts hr).bind ?_
  rintro ⟨_, _, hlt⟩ ⟨_, _, hlt'⟩ ⟨e, hrest⟩
  cases hrest with
  | nil => exact .error .ended
  | @cons t u ts us h hrest =>
    refine .ite (hR.kind_eq h _) (fun _ => .ok ⟨_, hrest⟩) fun _ => ?_
    refine .ite (hR.kind_eq h _) (fun _ => ?_) fun _ => .error (.unexpected h)
    rw [List.length_cons] at hlt
    exact (ihk ts.length (by omega) (by omega) hrest rfl).bind_map_weaken

private theorem agree_arguments :
    Agree R stop stop' (Parsed.Alike R) (arguments rule stop ts) (arguments rule stop' us) := by
  obtain ⟨k, hk⟩ : ∃ k, ts.length = k := ⟨_, rfl⟩
  induction k using Nat.strongRecOn generalizing ts us with | ind k ihk
  subst hk
  cases hr with
  | nil =>
    rw [arguments, arguments]
    exact .error .ended
  | @cons t u ts us h hr =>
    rw [arguments, arguments]
    have hlen : (t :: ts).length = ts.length + 1 := List.length_cons
    refine .ite (hR.kind_eq h _) (fun _ => .ok ⟨[], hr⟩) fun _ => ?_
    refine (ih hts (.cons h hr)).bind ?_
    rintro ⟨_, _, hlt⟩ ⟨_, _, hlt'⟩ ⟨e, hrest⟩
    cases hrest with
    | nil => exact .error .ended
    | @cons v w ts' us' h' hrest =>
      rw [List.length_cons, hlen] at hlt
      refine .ite (hR.kind_eq h' _) (fun _ => ?_) fun _ => ?_
      · exact (ihk ts'.length (by omega) (by omega) hrest rfl).bind_map_weaken
      · have hle : (v :: ts').length ≤ ts.length := by
          rw [List.length_cons]
          omega
        exact (ihk _ (by omega) (by omega) (.cons h' hrest) rfl).bind_map_weaken

private theorem agree_hashEntries :
    Agree R stop stop' (Parsed.Alike R) (hashEntries rule stop ts) (hashEntries rule stop' us) := by
  obtain ⟨k, hk⟩ : ∃ k, ts.length = k := ⟨_, rfl⟩
  induction k using Nat.strongRecOn generalizing ts us with | ind k ihk
  subst hk
  cases hr with
  | nil =>
    rw [hashEntries, hashEntries]
    exact .error .ended
  | @cons t u ts us h hr =>
    rw [hashEntries, hashEntries]
    refine agree_key hR h fun key => ?_
    refine (agree_expect hR _ hr).bind ?_
    rintro ⟨_, vs, hvs⟩ ⟨_, ws, hws⟩ (hr' : List.Forall₂ R vs ws)
    rw [List.length_cons] at hts ihk
    refine (ih (by omega) hr').bind ?_
    rintro ⟨_, _, hlt⟩ ⟨_, _, hlt'⟩ ⟨e, hrest⟩
    cases hrest with
    | nil => exact .error .ended
    | @cons v w ts' us' h' hrest =>
      refine .ite (hR.kind_eq h' _) (fun _ => .ok ⟨_, hrest⟩) fun _ => ?_
      refine .ite (hR.kind_eq h' _) (fun _ => ?_) fun _ => .error (.unexpected h')
      rw [List.length_cons] at hlt
      exact (ihk ts'.length (by omega) (by omega) hrest rfl).bind_map_weaken

private theorem agree_member :
    Agree R stop stop' (Parsed.Alike R) (member rule stop limit ts) (member rule stop' limit us) := by
  cases hr with
  | nil =>
    rw [member, member]
    exact .error .ended
  | @cons t u ts us h hr =>
    rw [member, member, (hR t u h).1]
    have hlt : ts.length ≤ n := Nat.le_of_succ_le hts
    cases t.kind
    case quotedName | name | star => exact ih hts (.cons h hr)
    case lbracket => exact (agree_listItems hR ih hlt hr).bind_map_weaken
    case lbrace => exact (agree_hashEntries hR ih hlt hr).bind_map_weaken
    all_goals exact .error (.unexpected h)

private theorem agree_applied :
    Agree R stop stop' (Parsed.Alike R) (applied rule stop limit ts) (applied rule stop' limit us) := by
  cases hr with
  | nil =>
    rw [applied, applied]
    exact .ok ⟨_, .nil⟩
  | @cons t u ts us h hr =>
    rw [applied, applied]
    have hkind := (hR t u h).1
    refine .ite (by rw [hkind]) (fun _ => .ok ⟨_, .cons h hr⟩) fun _ => ?_
    refine .ite (by rw [hkind]) (fun _ => ?_) fun _ => ?_
    · exact (ih hts (.cons h hr)).bind_weaken
    · refine .ite (hR.kind_eq h _) (fun _ => ?_) fun _ => .error (.unexpected h)
      exact (agree_member hR ih (Nat.le_of_succ_le hts) hr).bind_weaken

private theorem agree_filtered :
    Agree R stop stop' (Parsed.Alike R) (filtered rule stop left ts) (filtered rule stop' left us) := by
  rw [filtered, filtered]
  refine (ih hts hr).bind ?_
  rintro ⟨_, _, hlt⟩ ⟨_, _, hlt'⟩ ⟨e, hrest⟩
  refine (agree_expect hR _ hrest).bind ?_
  rintro ⟨_, vs, hvs⟩ ⟨_, ws, hws⟩ (hr' : List.Forall₂ R vs ws)
  refine .ite (by rw [hR.nextIs_eq _ hr']) (fun _ => .ok ⟨_, hr'⟩) fun _ => ?_
  refine (agree_applied hR ih (by omega) hr').bind ?_
  rintro ⟨_, _, _⟩ ⟨_, _, _⟩ ⟨e', hrest'⟩
  exact .ok ⟨_, hrest'⟩

private theorem agree_indexed :
    Agree R stop stop' (Parsed.Alike R) (indexed rule stop left ts) (indexed rule stop' left us) := by
  cases hr with
  | nil =>
    rw [indexed, indexed]
    exact .error .ended
  | @cons t u ts us h hr =>
    rw [indexed, indexed]
    refine .ite (by rw [(hR t u h).1, hR.nextIs_eq _ hr]) (fun _ => ?_) fun _ => ?_
    · refine (agree_bounds hR _ (.cons h hr)).bind ?_
      rintro ⟨_, vs, hvs⟩ ⟨_, ws, hws⟩ ⟨b, hr'⟩
      refine (agree_applied hR ih (by omega) hr').bind ?_
      rintro ⟨_, _, _⟩ ⟨_, _, _⟩ ⟨e, hrest⟩
      exact .ok ⟨_, hrest⟩
    · refine (agree_number hR h).bind ?_
      rintro i _ rfl
      refine (agree_expect hR _ hr).bind ?_
      rintro ⟨_, vs, hvs⟩ ⟨_, ws, hws⟩ (hr' : List.Forall₂ R vs ws)
      exact .ok ⟨_, hr'⟩

/-- What starts with a bracket. -/
private theorem agree_bracket (hk : t.kind = .lbracket) (hk' : u.kind = .lbracket) :
    Agree R stop stop' (Parsed.Alike R) (operand rule stop t ts) (operand rule stop' u us) := by
  rw [operand.eq_def, operand.eq_def]
  simp only [hk, hk']
  have items := agree_listItems hR ih hts hr
  cases hr with
  | nil => exact .error .ended
  | @cons v w ts us h hr =>
    dsimp only
    rw [(hR v w h).1]
    cases v.kind
    case number | colon =>
      exact (agree_indexed hR ih hts (.cons h hr)).bind_weaken
    case star =>
      cases hr with
      | nil => exact items.bind_map_weaken
      | cons h' hr =>
        refine .ite (hR.kind_eq h' _) (fun _ => ?_) fun _ => items.bind_map_weaken
        exact (agree_applied hR ih (Nat.le_of_succ_le (Nat.le_of_succ_le hts)) hr).bind_map_weaken
    all_goals exact items.bind_map_weaken

private theorem agree_operand (h : R t u) :
    Agree R stop stop' (Parsed.Alike R) (operand rule stop t ts) (operand rule stop' u us) := by
  by_cases hk : t.kind = .lbracket
  · exact agree_bracket hR ih hts hr hk ((hR.kind_eq h _).2 hk)
  rw [operand.eq_def rule stop, operand.eq_def rule stop', hR.text_eq h, Token.rawText, Token.rawText,
    hR.inner_eq h, (hR t u h).1]
  cases hkind : t.kind
  case lbracket => exact absurd hkind hk
  case json => exact (agree_literal hR h).map fun _ _ hl => hl ▸ ⟨_, hr⟩
  case raw | name | current => exact .ok ⟨_, hr⟩
  case quotedName =>
    refine .ite (by rw [hR.nextIs_eq _ hr]) (fun _ => .error (.quotedCall h)) fun _ => ?_
    exact (agree_quotedText hR h).map fun _ _ hname => hname ▸ ⟨_, hr⟩
  case star =>
    refine .ite (by rw [hR.nextIs_eq _ hr]) (fun _ => .ok ⟨_, hr⟩) fun _ => ?_
    exact (agree_applied hR ih hts hr).bind_map
  case filter => exact (agree_filtered hR ih hts hr).bind_weaken
  case lbrace => exact (agree_hashEntries hR ih hts hr).bind_map_weaken
  case lparen =>
    refine (ih hts hr).bind ?_
    rintro ⟨_, _, _⟩ ⟨_, _, _⟩ ⟨e, hrest⟩
    refine (agree_expect hR _ hrest).bind ?_
    rintro ⟨_, _, _⟩ ⟨_, _, _⟩ hr'
    exact .ok ⟨_, hr'⟩
  case flatten => exact (agree_applied hR ih hts hr).bind_map
  case not | reference => exact (ih hts hr).bind_map_weaken
  all_goals exact .error (.unexpected h)

private theorem agree_operator (h : R t u) :
    Agree R stop stop' (Parsed.Alike R) (operator rule stop t left ts) (operator rule stop' u left us) := by
  rw [operator.eq_def rule stop, operator.eq_def rule stop', (hR t u h).1]
  cases t.kind
  case compare | pipe | or | and => exact (ih hts hr).bind_map_weaken
  case dot =>
    cases hr with
    | nil => exact .error .ended
    | cons h' hr =>
      refine .ite (hR.kind_eq h' _) (fun _ => ?_) fun _ => ?_
      · exact (agree_applied hR ih (Nat.le_of_succ_le hts) hr).bind_map_weaken
      · exact (agree_member hR ih hts (.cons h' hr)).bind_map_weaken
  case lparen =>
    cases left
    case field => exact (agree_arguments hR ih hts hr).bind_map_weaken
    all_goals exact .error (.notCallable _ h)
  case filter => exact (agree_filtered hR ih hts hr).bind_weaken
  case flatten => exact (agree_applied hR ih hts hr).bind_map
  case lbracket =>
    cases hr with
    | nil => exact .error .ended
    | @cons v w ts us h' hr =>
      dsimp only
      rw [(hR v w h').1]
      cases v.kind
      case number | colon =>
        exact (agree_indexed hR ih hts (.cons h' hr)).bind_weaken
      case star =>
        refine (agree_expect hR _ hr).bind ?_
        rintro ⟨_, vs, hvs⟩ ⟨_, ws, hws⟩ (hr' : List.Forall₂ R vs ws)
        rw [List.length_cons] at hts
        refine (agree_applied hR ih (by omega) hr').bind ?_
        rintro ⟨_, _, _⟩ ⟨_, _, _⟩ ⟨e, hrest⟩
        exact .ok ⟨_, hrest⟩
      all_goals exact .error (.unexpected h')
  all_goals exact .error (.unexpected h)

private theorem agree_operators :
    Agree R stop stop' (Parsed.Alike R) (operators rule stop limit left ts) (operators rule stop' limit left us) := by
  obtain ⟨k, hk⟩ : ∃ k, ts.length = k := ⟨_, rfl⟩
  induction k using Nat.strongRecOn generalizing left ts us with | ind k ihk
  subst hk
  cases hr with
  | nil =>
    rw [operators, operators]
    exact .ok ⟨_, .nil⟩
  | @cons t u ts us h hr =>
    rw [List.length_cons] at hts ihk
    rw [operators, operators]
    refine .ite (by rw [(hR t u h).1]) (fun _ => ?_) fun _ => .ok ⟨_, .cons h hr⟩
    refine (agree_operator hR ih (Nat.le_of_succ_le hts) hr h).bind ?_
    rintro ⟨_, _, hlt⟩ ⟨_, _, hlt'⟩ ⟨e, hrest⟩
    refine (ihk _ hlt (by omega) hrest rfl).bind ?_
    rintro ⟨_, _, _⟩ ⟨_, _, _⟩ ⟨e', hrest'⟩
    exact .ok ⟨_, hrest'⟩

omit ih hts hr

/-- By induction on the number of tokens: an operand leaves fewer tokens to all the readers that it calls. -/
private theorem readsAlike (n : Nat) : ReadsAlike R rule stop stop' n := by
  induction n using Nat.strongRecOn with | ind n ih
  intro limit ts us hts hr
  cases hr with
  | nil =>
    rw [expression, expression]
    exact .error .ended
  | @cons t u ts us h hr =>
    have hrec := ih ts.length hts
    rw [expression, expression]
    refine (agree_operand hR hrec (Nat.le_refl _) hr h).bind ?_
    rintro ⟨_, _, hlt⟩ ⟨_, _, hlt'⟩ ⟨e, hrest⟩
    refine (agree_operators hR hrec (Nat.le_of_lt_succ hlt) hrest).bind ?_
    rintro ⟨_, _, _⟩ ⟨_, _, _⟩ ⟨e', hrest'⟩
    exact .ok ⟨_, hrest'⟩

/-- Related tokens are read alike. -/
theorem agree_all (hr : List.Forall₂ R ts us) : Agree R stop stop' Eq (all rule stop ts) (all rule stop' us) := by
  refine (readsAlike hR _ (Nat.le_refl _) hr).bind ?_
  rintro ⟨_, _, _⟩ ⟨_, _, _⟩ ⟨e, hrest⟩
  cases hrest with
  | nil => exact .ok rfl
  | cons h _ => exact .error (.unexpected h)

omit hR

/-- A mistake lies at a token or at the end of the text. -/
theorem offset_of_all_error {e : SyntaxError} (h : all rule stop ts = .error e) :
    ∃ n, e.diagnosis.offset = some n ∧ (n = stop ∨ ∃ t ∈ ts, n = t.offset) := by
  have hsame : List.Forall₂ (fun t u => t = u ∧ t ∈ ts) ts ts := List.forall₂_same.2 fun t ht => ⟨rfl, ht⟩
  have hwords : KeepsWords fun t u => t = u ∧ t ∈ ts := by
    rintro t _ ⟨rfl, -⟩
    exact ⟨rfl, rfl⟩
  have hagree : Agree _ stop stop Eq (all rule stop ts) (all rule stop ts) := agree_all hwords hsame
  rw [h] at hagree
  cases hagree with
  | error he =>
    obtain ⟨n, hn, rfl | ⟨t, _, ⟨-, ht⟩, rfl⟩⟩ := he.exists_offset
    · exact ⟨n, hn, .inl rfl⟩
    · exact ⟨_, hn, .inr ⟨t, ht, rfl⟩⟩

/-- What is read of tokens does not depend on where they lie, nor does what the mistake is. -/
theorem all_congr (h : ts.map (fun t => (t.kind, t.lexeme)) = us.map fun t => (t.kind, t.lexeme)) :
    (all rule stop ts).mapError (·.diagnosis.unplaced) = (all rule stop' us).mapError (·.diagnosis.unplaced) := by
  have hwords : KeepsWords fun t u => (t.kind, t.lexeme) = (u.kind, u.lexeme) := fun t u h =>
    ⟨(congrArg Prod.fst h).symm, (congrArg Prod.snd h).symm⟩
  rw [← List.forall₂_eq_eq_eq, List.forall₂_map_left_iff, List.forall₂_map_right_iff] at h
  have hagree : Agree _ stop stop' Eq (all rule stop ts) (all rule stop' us) := agree_all hwords h
  generalize all rule stop ts = x at hagree
  generalize all rule stop' us = y at hagree
  cases hagree with
  | ok he => rw [he]
  | error he => exact congrArg Except.error (he.unplaced_eq hwords)

end Parser

end Signpost.Query
