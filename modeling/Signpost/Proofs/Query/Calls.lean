import Mathlib
import Signpost.Proofs.Query.Balance
import Signpost.Proofs.Query.Parts
import Signpost.Proofs.Query.Reading

/-!
# Calls in queries

Which functions a text calls, seen on its words: what is called stands right before a parenthesis that opens behind an
operand (`callees`).  In a query that is read there is one such word for each call, in the same order
(`calls_of_spells`): the name of the function, or the parenthesis that closes around it.  So all functions are named
without quotes and right before their arguments exactly if no parenthesis opens right behind one that closes
(`Expr.called_eq_callees_iff`).
-/

namespace Signpost.Query

open Word (mark)

/-- The kinds of words that an operand may end with. -/
def Token.Kind.ends : Token.Kind → Bool
  | json | raw | quotedName | name | current | star | flatten | rbracket | rbrace | rparen => true
  | _ => false

/-- The words that end an operand and stand right before a parenthesis. -/
def callees : List Word → List Word
  | u :: v :: ws => (if u.kind.ends = true ∧ v = mark .lparen then [u] else []) ++ callees (v :: ws)
  | _ => []

variable {us vs ws : List Word} {u v w : Word} {k : Token.Kind}

theorem callees_cons (h : u.kind.ends = false) : callees (u :: ws) = callees ws := by
  cases ws with
  | nil => rfl
  | cons v ws => simp [callees, h]

/-- Only a parenthesis joins what stands on its two sides. -/
theorem callees_append (h : ¬ HeadIn [.lparen] vs) : callees (us ++ vs) = callees us ++ callees vs := by
  cases vs with
  | nil => simp [callees]
  | cons v vs =>
    have hv : v ≠ mark .lparen := by
      rintro rfl
      exact h (by simp [HeadIn])
    induction us with
    | nil => rfl
    | cons u us ih =>
      cases us with
      | nil => simp [callees, hv]
      | cons u' us =>
        rw [List.cons_append, List.cons_append, callees, callees, List.append_assoc]
        exact congrArg _ ih

theorem callees_append_call (h : w.kind.ends = true) :
    callees (us ++ w :: mark .lparen :: vs) = callees (us ++ [w]) ++ w :: callees vs := by
  induction us with
  | nil =>
    rw [List.nil_append, callees, if_pos ⟨h, rfl⟩, callees_cons (by rfl)]
    rfl
  | cons u us ih =>
    cases us with
    | nil => simpa [callees] using ih
    | cons u' us =>
      rw [List.cons_append, List.cons_append, callees, List.cons_append, List.cons_append, callees, List.append_assoc]
      exact congrArg _ ih

theorem mem_callees : w ∈ callees ws ↔ w.kind.ends = true ∧ [w, mark .lparen] <:+: ws := by
  induction ws with
  | nil => simp [callees]
  | cons u ws ih =>
    rw [List.infix_cons_iff]
    cases ws with
    | nil => simp [callees]
    | cons v ws =>
      rw [callees, List.mem_append, ih, and_or_left]
      refine or_congr ?_ Iff.rfl
      simp only [List.cons_prefix_cons, List.nil_prefix, and_true]
      by_cases h : u.kind.ends = true ∧ v = mark .lparen <;> grind

/-- Where no parenthesis opens, nothing is called. -/
theorem callees_eq_nil (h : ∀ w ∈ ws, w.kind ≠ .lparen) : callees ws = [] := by
  refine List.eq_nil_iff_forall_not_mem.2 fun w hw => ?_
  have hmem : mark .lparen ∈ ws := (mem_callees.1 hw).2.subset (by simp)
  exact h _ hmem rfl

private theorem callees_separated (hk : k ≠ .lparen) (hends : k.ends = false) :
    callees (us ++ mark k :: vs) = callees us ++ callees vs := by
  rw [callees_append (by simpa [HeadIn] using hk), callees_cons hends]

private theorem callees_closed (hk : k ≠ .lparen) : callees (us ++ [mark k]) = callees us := by
  rw [callees_append (by simpa [HeadIn] using hk)]
  exact List.append_nil _

private theorem callees_key : callees (w :: mark .colon :: ws) = callees ws := by
  rw [← List.singleton_append, callees_separated (by simp) rfl]
  rfl

/-! ### What is called -/

/-- A call of a function by the word right before its arguments: its name, or the end of parentheses around it. -/
def Calls (name : String) (w : Word) : Prop := w = Expr.nameWord name ∨ w = mark .rparen

private theorem map_nameWord {names : List String} (h : List.Forall₂ Calls names ws) (hno : mark .rparen ∉ ws) :
    names.map Expr.nameWord = ws := by
  induction h with
  | nil => rfl
  | cons hw _ ih =>
    rw [List.mem_cons, not_or] at hno
    rw [List.map_cons, ih hno.2, hw.resolve_right (Ne.symm hno.1)]

/-- The functions that are called in a part. -/
def Part.called : Part → List String
  | .expr _ e | .left _ _ e | .base _ _ e | .applied _ e | .member _ e => e.called
  | .items es | .args es => Expr.calledIn es
  | .entries es => Expr.calledInEntries es

variable {rule : Json.RealRule} {part : Part} {limit m : Nat} {e : Expr} {name : String}

/-- A name on its own that leaves room for a parenthesis is written without quotes. -/
private theorem eq_nameWord (h : w.leaf? rule = some (.field name, m)) (hm : maxPower ≤ m) :
    w = Expr.nameWord name := by
  unfold Word.leaf? at h
  split at h <;> rename_i hk
  · cases h
    obtain ⟨k, l⟩ := w
    simp only at hk
    subst hk
    simp [Expr.nameWord, Word.of, Token.Kind.isVariable, Word.token, Token.text]
  · -- behind a name in quotes there is room for less
    obtain ⟨_, -, h⟩ := Option.map_eq_some_iff.1 h
    cases h
    exact absurd hm (by decide)
  · obtain ⟨_, -, h⟩ := Option.map_eq_some_iff.1 h
    cases h
  · cases h
  · cases h
  · cases h

private theorem exists_callee (h : Spells rule (.left limit .lparen (.field name)) us m) :
    ∃ us' w, us = us' ++ [w] ∧ w.kind.ends = true ∧ Calls name w := by
  cases h with
  | left h _ hroom =>
    cases h with
    | leaf h =>
      have hw := eq_nameWord h hroom
      exact ⟨[], _, rfl, by rw [hw]; rfl, .inl hw⟩
    | group h => exact ⟨_, mark .rparen, (List.cons_append ..).symm, rfl, .inr rfl⟩

private theorem not_lparen_of_applied (h : Spells rule (.applied limit e) ws m) : ¬ HeadIn [.lparen] ws := by
  cases h with
  | itself => exact id
  | bracketed h hs =>
    intro hl
    cases ws with
    | nil => exact hl
    | cons w ws => simp_all [HeadIn]
  | dotted h => simp [HeadIn]

private theorem not_lparen_of_power (h : headPower ws = 0) : ¬ HeadIn [.lparen] ws := by
  cases ws with
  | nil => exact id
  | cons w ws =>
    intro hl
    have hk : w.kind = .lparen := by simpa [HeadIn] using hl
    simp [headPower, hk, Token.Kind.power] at h

private theorem callees_applied (hk : k ≠ .lparen) (h : Spells rule (.applied limit e) vs m) :
    callees (us ++ mark k :: vs) = callees us ++ callees vs := by
  rw [callees_append (by simpa [HeadIn] using hk), ← List.singleton_append, callees_append (not_lparen_of_applied h)]
  rfl

/-- The calls of a part are called by the words that stand before a parenthesis and end an operand, in this order. -/
theorem calls_of_spells (h : Spells rule part ws m) : List.Forall₂ Calls part.called (callees ws) := by
  induction h with
  | leaf h =>
    obtain ⟨_, rfl, -⟩ | ⟨_, rfl, -⟩ | ⟨rfl, -⟩ := Word.expr_of_leaf h <;> exact .nil
  | group _ ih =>
    rw [callees_cons rfl, callees_closed (by simp)]
    exact ih
  | not _ ih | reference _ ih | list _ _ ih | hash _ ih =>
    rw [callees_cons rfl]
    exact ih
  | compare _ _ ihl ihr | and _ _ ihl ihr | or _ _ ihl ihr | pipe _ _ ihl ihr | sub _ _ _ ihl ihr =>
    rw [callees_separated (by simp) rfl]
    exact List.rel_append ihl ihr
  | call hl _ ihl iha =>
    obtain ⟨us, w, rfl, hends, hw⟩ := exists_callee hl
    rw [List.append_assoc, List.singleton_append, callees_append_call hends]
    exact List.rel_append ihl (.cons hw iha)
  | @index _ _ _ _ w _ _ hn ihl =>
    have hindex : ∀ u ∈ [mark .lbracket, w, mark .rbracket], u.kind ≠ .lparen := by simp [Word.kind_of_number hn]
    rw [callees_append (by simp [HeadIn]), callees_eq_nil hindex, List.append_nil]
    exact ihl
  | slice _ _ hb hr ihl ihr =>
    have hbs : callees _ = [] := callees_eq_nil fun w hw => by
      rcases kind_of_boundsOf hb w hw with h | h <;> simp [h]
    rw [callees_separated (by simp) rfl, callees_applied (by simp) hr, hbs, List.nil_append]
    exact List.rel_append ihl ihr
  | elements _ hr ihl ihr =>
    rw [callees_separated (by simp) rfl, ← List.singleton_append, callees_applied (by simp) hr]
    exact List.rel_append ihl ihr
  | flatten _ hr ihl ihr =>
    rw [callees_applied (by simp) hr]
    exact List.rel_append ihl ihr
  | filter _ _ hr ihl ihc ihr =>
    rw [callees_separated (by simp) rfl, callees_applied (by simp) hr, ← List.append_assoc]
    exact List.rel_append (List.rel_append ihl ihc) ihr
  | values hr ih =>
    rw [← List.nil_append (mark .star :: _), callees_applied (by simp) hr]
    exact ih
  | valuesOf _ hr ihl ihr =>
    rw [callees_separated (by simp) rfl, ← List.nil_append (mark .star :: _), callees_applied (by simp) hr]
    exact List.rel_append ihl ihr
  | left _ _ _ ih | base _ ih | bracketed _ _ ih | named _ _ ih => exact ih
  | nothing | itself | noArgs => exact .nil
  | dotted _ ih | memberList _ ih | memberHash _ ih =>
    rw [callees_cons rfl]
    exact ih
  | lastItem _ ih =>
    rw [callees_closed (by simp)]
    simpa [Part.called, Expr.calledIn] using ih
  | item _ _ ih ihs | arg _ _ ih ihs =>
    rw [callees_separated (by simp) rfl]
    exact List.rel_append ih ihs
  | lastEntry _ _ ih =>
    rw [callees_key, callees_closed (by simp)]
    simpa [Part.called, Expr.calledInEntries] using ih
  | entry _ _ _ ih ihs =>
    rw [callees_key, callees_separated (by simp) rfl]
    exact List.rel_append ih ihs
  | bareArg _ _ hp ih ihs =>
    -- the next argument does not start with a parenthesis, which would call the one before it
    rw [callees_append (not_lparen_of_power hp)]
    exact List.rel_append ih ihs

namespace Expr

/-- In a query that is read there is one call for each word that ends an operand right before a parenthesis.  These
words are the names of the functions, written without quotes, exactly if no parenthesis opens right behind one that
closes; then every function anywhere in the query has a plain name. -/
theorem called_eq_callees_iff {text : String} (h : ofTextWith rule text = .ok e) (hws : words? text.toList = some ws) :
    e.called.length = (callees ws).length ∧
      (e.called.map nameWord = callees ws ↔ ¬ [mark .rparen, mark .lparen] <:+: ws) ∧
      (¬ [mark .rparen, mark .lparen] <:+: ws →
        ∀ name args, .call name args ∈ e.parts → isPlainName name.toList = true) := by
  obtain ⟨ws', m, hws', hs⟩ := ofTextWith_ok_iff.1 h
  obtain rfl : ws' = ws := Option.some.inj (hws'.symm.trans hws)
  have hcalls := calls_of_spells hs
  have hnamed : ¬ [mark .rparen, mark .lparen] <:+: ws' → e.called.map nameWord = callees ws' := fun hno =>
    map_nameWord hcalls fun hmem => hno (mem_callees.1 hmem).2
  refine ⟨hcalls.length_eq, ⟨fun heq hin => ?_, hnamed⟩, fun hno name args hcall => ?_⟩
  · have hmem : mark .rparen ∈ callees ws' := mem_callees.2 ⟨rfl, hin⟩
    rw [← heq] at hmem
    obtain ⟨name, -, hname⟩ := List.mem_map.1 hmem
    cases hname
  · have hmem : nameWord name ∈ callees ws' := hnamed hno ▸ List.mem_map_of_mem ((mem_called e).2 ⟨args, hcall⟩)
    have hin : nameWord name ∈ ws' := (mem_callees.1 hmem).2.subset (by simp)
    exact isPlainName_of_words? hws _ hin rfl

theorem called_eq_callees_iff_nested :
    ofTextWith .scaled "f(g(a),h())" = .ok (call "f" [call "g" [field "a"], call "h" []]) ∧
      ∃ ws, words? "f(g(a),h())".toList = some ws ∧ ["f", "g", "h"].map nameWord = callees ws ∧
        ¬ [mark .rparen, mark .lparen] <:+: ws := by
  have h : ofTextWith .scaled "f(g(a),h())" = .ok (call "f" [call "g" [field "a"], call "h" []]) := by cbv
  have hws : words? "f(g(a),h())".toList = some [nameWord "f", mark .lparen, nameWord "g", mark .lparen, nameWord "a",
      mark .rparen, mark .comma, nameWord "h", mark .lparen, mark .rparen, mark .rparen] := by cbv
  have hcallees := (called_eq_callees_iff h hws).2.1
  exact ⟨h, _, hws, hcallees.2 (by decide), by decide⟩

/-- A name in quotes is called where it stands in parentheses. -/
example : ofTextWith .scaled "(\"a b\")(c)" = .ok (call "a b" [field "c"]) := by cbv

end Expr

end Signpost.Query
