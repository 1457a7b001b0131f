import Signpost.Proofs.Query.Spelling

/-!
# Brackets of queries

`depth` counts open brackets.  Words that spell an expression close every bracket that they open and have no comma,
no colon and no closing bracket outside of these (`closed_of_spells`), and so do the words of a written expression
(`Expr.closed_words`): the first such word ends both (`Closed.split`).
-/

namespace Signpost.Query

open Word (mark)

/-- The number of open brackets behind a word, given the number in front of it. -/
def Token.Kind.depth (d : Nat) : Token.Kind → Option Nat
  | lparen | lbracket | filter | lbrace => some (d + 1)
  | rparen | rbracket | rbrace => if d = 0 then none else some (d - 1)
  | comma | colon | number => if d = 0 then none else some d
  | _ => some d

/-- The number of open brackets behind words. -/
def depth (d : Nat) : List Word → Option Nat
  | [] => some d
  | w :: ws => (w.kind.depth d).bind fun d => depth d ws

/-- Every bracket is closed, and no number and nothing that separates or closes stands outside of brackets. -/
def Closed (ws : List Word) : Prop := depth 0 ws = some 0

@[simp] theorem depth_nil (d : Nat) : depth d [] = some d := rfl

@[simp] theorem depth_cons (d : Nat) (w : Word) (ws : List Word) :
    depth d (w :: ws) = (w.kind.depth d).bind fun d => depth d ws := rfl

@[simp] theorem depth_append (d : Nat) (us vs : List Word) :
    depth d (us ++ vs) = (depth d us).bind fun d => depth d vs := by
  induction us generalizing d with
  | nil => rfl
  | cons w us ih =>
    rw [List.cons_append, depth_cons, depth_cons, Option.bind_assoc]
    congr 1
    funext d
    exact ih d

private theorem kind_depth_succ {k : Token.Kind} {d n : Nat} (h : k.depth d = some n) :
    k.depth (d + 1) = some (n + 1) := by
  unfold Token.Kind.depth at h ⊢
  split at h <;> grind

private theorem depth_succ {ws : List Word} {d n : Nat} (h : depth d ws = some n) :
    depth (d + 1) ws = some (n + 1) := by
  induction ws generalizing d with
  | nil => simpa using h
  | cons w ws ih =>
    obtain ⟨k, hk, hn⟩ := Option.bind_eq_some_iff.1 h
    exact Option.bind_eq_some_iff.2 ⟨k + 1, kind_depth_succ hk, ih hn⟩

theorem Closed.keeps {ws : List Word} (h : Closed ws) (d : Nat) : depth d ws = some d := by
  induction d with
  | zero => exact h
  | succ d ih => exact depth_succ ih

/-- Nothing that closes or separates stands outside of brackets. -/
theorem Closed.not_append_cons {us vs : List Word} {w : Word} (hu : Closed us) (hw : w.kind.depth 0 = none) :
    ¬ Closed (us ++ w :: vs) := by
  simp [Closed, hu.keeps, hw]

/-- Closed words end where something closes or separates. -/
theorem Closed.split {us us' vs vs' : List Word} {w w' : Word} (hu : Closed us) (hu' : Closed us')
    (hw : w.kind.depth 0 = none) (hw' : w'.kind.depth 0 = none) (h : us ++ w :: vs = us' ++ w' :: vs') :
    us = us' ∧ w = w' ∧ vs = vs' := by
  rcases List.append_eq_append_iff.1 h with ⟨xs, rfl, h'⟩ | ⟨xs, rfl, h'⟩
  · cases xs with
    | nil =>
      obtain ⟨rfl, rfl⟩ := List.cons.inj h'
      exact ⟨by simp, rfl, rfl⟩
    | cons x xs =>
      obtain ⟨rfl, -⟩ := List.cons.inj h'
      exact absurd hu' (hu.not_append_cons hw)
  · cases xs with
    | nil =>
      obtain ⟨rfl, rfl⟩ := List.cons.inj h'
      exact ⟨by simp, rfl, rfl⟩
    | cons x xs =>
      obtain ⟨rfl, -⟩ := List.cons.inj h'
      exact absurd hu (hu'.not_append_cons hw')

/-- Closed words that start with a parenthesis do not end before it is closed. -/
theorem Closed.eq_group {us vs ws : List Word} (hu : Closed us) (hne : us ≠ []) (hw : Closed ws)
    (h : us ++ vs = mark .lparen :: (ws ++ [mark .rparen])) : vs = [] := by
  cases us with
  | nil => exact absurd rfl hne
  | cons u us =>
    obtain ⟨rfl, h'⟩ := List.cons.inj h
    rcases List.append_eq_append_iff.1 h' with ⟨xs, hxs, hvs⟩ | ⟨xs, rfl, hvs⟩
    · -- `us` ends inside of the parentheses
      obtain ⟨n, hn, -⟩ : ∃ n, depth 0 us = some n ∧ depth n xs = some 0 := by
        have hw' := hw
        rw [Closed, hxs, depth_append] at hw'
        exact Option.bind_eq_some_iff.1 hw'
      have h0 : depth 1 us = some 0 := hu
      rw [depth_succ hn] at h0
      simp at h0
    · cases vs with
      | nil => rfl
      | cons v vs =>
        cases xs with
        | nil =>
          -- `us` ends in front of the closing parenthesis
          have h0 : depth 1 (ws ++ []) = some 0 := hu
          rw [List.append_nil, hw.keeps] at h0
          simp at h0
        | cons x xs => simp at hvs

theorem Closed.append {u v : List Word} (hu : Closed u) (hv : Closed v) : Closed (u ++ v) := by
  simp only [Closed, depth_append, hu.keeps, Option.bind_some, hv.keeps]

theorem Closed.cons {w : Word} {ws : List Word} (hw : w.kind.depth 0 = some 0) (h : Closed ws) :
    Closed (w :: ws) := by
  simp only [Closed, depth_cons, hw, Option.bind_some, h.keeps]

/-- Closed words and then the end of a bracket. -/
private theorem depth_close {us : List Word} {w : Word} (hu : Closed us) (hw : w.kind.depth 1 = some 0) :
    depth 1 (us ++ [w]) = some 0 := by
  simp only [depth_append, hu.keeps, Option.bind_some, depth_cons, hw, depth_nil]

private theorem depth_separate {us vs : List Word} {w : Word} (hu : Closed us) (hw : w.kind.depth 1 = some 1)
    (hv : depth 1 vs = some 0) : depth 1 (us ++ w :: vs) = some 0 := by
  simp only [depth_append, hu.keeps, Option.bind_some, depth_cons, hw, hv]

/-- A bracket with what it holds up to its end. -/
private theorem closed_bracket {us : List Word} {w : Word} (hw : w.kind.depth 0 = some 1)
    (hu : depth 1 us = some 0) : Closed (w :: us) := by
  simp only [Closed, depth_cons, hw, Option.bind_some, hu]

/-- A bracket with what it holds, its end and what follows it. -/
private theorem closed_wrap {u v : List Word} {w w' : Word} (hw : w.kind.depth 0 = some 1)
    (hw' : w'.kind.depth 1 = some 0) (hu : depth 1 u = some 1) (hv : Closed v) : Closed (w :: (u ++ w' :: v)) := by
  simp only [Closed, depth_cons, hw, Option.bind_some, depth_append, hu, hw', hv.keeps]

private theorem closed_nil : Closed [] := rfl

/-- Between the brackets of a slice there are colons and numbers. -/
theorem kind_of_boundsOf {ws : List Word} {b b' : Parser.Bounds} (h : boundsOf? b ws = some b') :
    ∀ w ∈ ws, w.kind = .colon ∨ w.kind = .number := by
  induction ws generalizing b with
  | nil => simp
  | cons w ws ih =>
    rw [boundsOf?] at h
    intro v hv
    by_cases hk : w.kind = .colon
    · rw [if_pos hk] at h
      split at h
      · rcases List.mem_cons.1 hv with rfl | hv
        · exact .inl hk
        · exact ih h v hv
      · cases h
    · rw [if_neg hk] at h
      obtain ⟨n, hn, h⟩ := Option.bind_eq_some_iff.1 h
      rcases List.mem_cons.1 hv with rfl | hv
      · exact .inr (Word.kind_of_number hn)
      · exact ih h v hv

private theorem depth_bounds {ws : List Word} (h : ∀ w ∈ ws, w.kind = .colon ∨ w.kind = .number) :
    depth 1 ws = some 1 := by
  induction ws with
  | nil => rfl
  | cons w ws ih =>
    have hw : w.kind.depth 1 = some 1 := by
      rcases h w (by simp) with hk | hk <;> rw [hk] <;> rfl
    rw [depth_cons, hw]
    exact ih fun v hv => h v (by simp [hv])

private theorem depth_entry {w : Word} {key : String} {ws : List Word} (hw : w.key? = some key)
    (h : depth 1 ws = some 0) : depth 1 (w :: mark .colon :: ws) = some 0 := by
  have hk : w.kind.depth 1 = some 1 := by
    have hm := Word.kind_of_key hw
    simp only [List.mem_cons, List.not_mem_nil, or_false] at hm
    rcases hm with hm | hm <;> rw [hm] <;> rfl
  rw [depth_cons, hk]
  exact h

/-- What the words of a part do to the brackets around them. -/
def Balanced : Part → List Word → Prop
  | .items _, ws | .entries _, ws | .args _, ws => depth 1 ws = some 0
  | _, ws => Closed ws

theorem balanced_of_spells {rule : Json.RealRule} {part : Part} {ws : List Word} {m : Nat}
    (h : Spells rule part ws m) : Balanced part ws := by
  induction h with
  | leaf h =>
    refine Closed.cons ?_ closed_nil
    have hk := Word.kind_of_leaf h
    simp only [List.mem_cons, List.not_mem_nil, or_false] at hk
    rcases hk with hk | hk | hk | hk | hk <;> rw [hk] <;> rfl
  | group _ ih => exact closed_wrap (w := mark .lparen) rfl rfl (ih.keeps 1) closed_nil
  | not _ ih => exact .cons rfl ih
  | reference _ ih => exact .cons rfl ih
  | list _ _ ih => exact closed_bracket (w := mark .lbracket) rfl ih
  | hash _ ih => exact closed_bracket (w := mark .lbrace) rfl ih
  | compare _ _ ihl ihr => exact ihl.append (.cons rfl ihr)
  | and _ _ ihl ihr => exact ihl.append (.cons rfl ihr)
  | or _ _ ihl ihr => exact ihl.append (.cons rfl ihr)
  | pipe _ _ ihl ihr => exact ihl.append (.cons rfl ihr)
  | sub _ _ _ ihl ihr => exact ihl.append (.cons rfl ihr)
  | call _ _ ihl iha => exact ihl.append (closed_bracket (w := mark .lparen) rfl iha)
  | index _ hn ihl =>
    refine ihl.append (closed_wrap (u := [_]) (w := mark .lbracket) rfl rfl ?_ closed_nil)
    exact depth_bounds (by simp [Word.kind_of_number hn])
  | slice _ _ hb _ ihl ihr =>
    exact ihl.append (closed_wrap (w := mark .lbracket) rfl rfl (depth_bounds (kind_of_boundsOf hb)) ihr)
  | elements _ _ ihl ihr =>
    exact ihl.append (closed_wrap (u := [mark .star]) (w := mark .lbracket) rfl rfl rfl ihr)
  | flatten _ _ ihl ihr => exact ihl.append (.cons rfl ihr)
  | filter _ _ _ ihl ihc ihr => exact ihl.append (closed_wrap (w := mark .filter) rfl rfl (ihc.keeps 1) ihr)
  | values _ ih => exact .cons rfl ih
  | valuesOf _ _ ihl ihr => exact ihl.append (.cons rfl (.cons rfl ihr))
  | left _ _ _ ih => exact ih
  | nothing => exact closed_nil
  | base _ ih => exact ih
  | itself => exact closed_nil
  | bracketed _ _ ih => exact ih
  | dotted _ ih => exact .cons rfl ih
  | named _ _ ih => exact ih
  | memberList _ ih => exact closed_bracket (w := mark .lbracket) rfl ih
  | memberHash _ ih => exact closed_bracket (w := mark .lbrace) rfl ih
  | lastItem _ ih => exact depth_close ih rfl
  | item _ _ ih ihs => exact depth_separate ih rfl ihs
  | lastEntry hk _ ih => exact depth_entry hk (depth_close ih rfl)
  | entry hk _ _ ih ihs => exact depth_entry hk (depth_separate ih rfl ihs)
  | noArgs => rfl
  | arg _ _ ih ihs => exact depth_separate ih rfl ihs
  | bareArg _ _ _ ih ihs =>
    -- no comma separates the arguments
    show depth 1 _ = some 0
    rw [depth_append, ih.keeps]
    exact ihs

theorem closed_of_spells {rule : Json.RealRule} {limit m : Nat} {e : Expr} {ws : List Word}
    (h : Spells rule (.expr limit e) ws m) : Closed ws := balanced_of_spells h

namespace Expr

theorem closed_operandWords {least : Nat} {e : Expr} {ws : List Word} (h : Closed ws) :
    Closed (operandWords least e ws) := by
  unfold operandWords
  by_cases hp : e.power < least
  · rw [if_pos hp]
    exact closed_wrap (w := mark .lparen) rfl rfl (h.keeps 1) closed_nil
  · rwa [if_neg hp]

theorem closed_baseWords {least : Nat} {e : Expr} {ws : List Word} (h : Closed ws) :
    Closed (baseWords least e ws) := by
  unfold baseWords
  by_cases hc : e.isCurrent = true
  · rw [if_pos hc]
    exact closed_nil
  · rw [if_neg hc]
    exact closed_operandWords h

private theorem closed_appliedWords {e : Expr} {ws : List Word} (h : Closed ws) : Closed (appliedWords e ws) := by
  unfold appliedWords
  by_cases hc : e.isCurrent = true
  · rw [if_pos hc]
    exact closed_nil
  · rw [if_neg hc]
    by_cases hb : e.startsWithBracket = true
    · rwa [if_pos hb]
    · rw [if_neg hb]
      exact .cons rfl (closed_operandWords h)

/-- Between the brackets of a written slice there are colons and numbers. -/
theorem kind_of_sliceWords (start stop step : Option Int) :
    ∀ w ∈ sliceWords start stop step, w.kind = .colon ∨ w.kind = .number := by
  cases start <;> cases stop <;> cases step <;> simp [sliceWords, numberWord, Word.of]

private theorem depth_listWords {es : List Expr} (h : ∀ e ∈ es, Closed e.words) (w : Word)
    (hw : w.kind.depth 1 = some 0) : depth 1 (listWords es ++ [w]) = some 0 := by
  induction es with
  | nil => exact depth_close closed_nil hw
  | cons e es ih =>
    have he := h e (by simp)
    cases es with
    | nil => exact depth_close he hw
    | cons e' es =>
      have hes := ih fun x hx => h x (List.mem_cons_of_mem _ hx)
      simpa [listWords] using depth_separate (w := mark .comma) he rfl hes

private theorem depth_entryWords {es : List (String × Expr)} (h : ∀ x ∈ es, Closed x.2.words) (w : Word)
    (hw : w.kind.depth 1 = some 0) : depth 1 (entryWords es ++ [w]) = some 0 := by
  induction es with
  | nil => exact depth_close closed_nil hw
  | cons x es ih =>
    obtain ⟨name, e⟩ := x
    have he := h (name, e) (by simp)
    have hk : ∀ {ws}, depth 1 ws = some 0 → depth 1 (nameWord name :: mark .colon :: ws) = some 0 := fun h => h
    cases es with
    | nil => exact hk (depth_close he hw)
    | cons e' es =>
      have hes := ih fun x hx => h x (List.mem_cons_of_mem _ hx)
      simpa [entryWords] using hk (depth_separate (w := mark .comma) he rfl hes)

/-- The words of a plain expression are closed. -/
theorem closed_words {e : Expr} (h : Plain e) : Closed e.words := by
  induction h with
  | field _ => exact .cons rfl closed_nil
  | sub _ _ ihl ihr => exact (closed_operandWords ihl).append (.cons rfl (closed_operandWords ihr))
  | index _ _ ih =>
    exact (closed_baseWords ih).append (closed_wrap (u := [_]) (w := mark .lbracket) rfl rfl rfl closed_nil)
  | slices _ _ _ _ _ ihl ihr =>
    refine Closed.append (u := _ ++ _) ?_ (closed_appliedWords ihr)
    refine (closed_baseWords ihl).append (closed_wrap (w := mark .lbracket) rfl rfl ?_ closed_nil)
    exact depth_bounds (kind_of_sliceWords _ _ _)
  | flattened _ _ ihl ihr =>
    refine Closed.append (u := _ ++ _) ?_ (closed_appliedWords ihr)
    exact (closed_baseWords ihl).append (.cons rfl closed_nil)
  | elements hl _ ihl ihr =>
    rw [words, collectionWords_eq hl]
    refine Closed.append (u := _ ++ _) ?_ (closed_appliedWords ihr)
    exact (closed_baseWords ihl).append (closed_wrap (u := [mark .star]) (w := mark .lbracket) rfl rfl rfl closed_nil)
  | filter _ _ _ ihl ihr ihc =>
    exact (closed_baseWords ihl).append
      (closed_wrap (w := mark .filter) rfl rfl (ihc.keeps 1) (closed_appliedWords ihr))
  | @projectValues l r _ _ ihl ihr =>
    rw [words, valuesWords]
    refine Closed.append ?_ (closed_appliedWords ihr)
    by_cases hc : l.isCurrent = true
    · rw [if_pos hc]
      exact .cons rfl closed_nil
    · rw [if_neg hc]
      exact (closed_operandWords ihl).append (.cons rfl (.cons rfl closed_nil))
  | list _ _ ih => exact closed_bracket (w := mark .lbracket) rfl (depth_listWords ih _ rfl)
  | hash _ _ _ ih => exact closed_bracket (w := mark .lbrace) rfl (depth_entryWords ih _ rfl)
  | compare _ _ ihl ihr => exact (closed_operandWords ihl).append (.cons rfl (closed_operandWords ihr))
  | and _ _ ihl ihr => exact (closed_operandWords ihl).append (.cons rfl (closed_operandWords ihr))
  | or _ _ ihl ihr => exact (closed_operandWords ihl).append (.cons rfl (closed_operandWords ihr))
  | not _ ih => exact .cons rfl (closed_operandWords ih)
  | pipe _ _ ihl ihr => exact (closed_operandWords ihl).append (.cons rfl (closed_operandWords ihr))
  | call _ _ ih => exact .cons rfl (closed_bracket (w := mark .lparen) rfl (depth_listWords ih _ rfl))
  | current => exact .cons rfl closed_nil
  | reference _ ih => exact .cons rfl (closed_operandWords ih)

end Expr

end Signpost.Query
