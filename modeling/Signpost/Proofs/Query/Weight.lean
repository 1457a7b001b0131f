import Signpost.Proofs.Query.Balance

/-!
# Weights of queries

Words that spell an expression hold no more than the words that are written for it: each word that stands for a part
of the tree weighs one, and only the current value may be written where it could be left out (`leaner_of_spells`).
So neither side of an operator can give words to the other (`Leaner.split`).
-/

namespace Signpost.Query

open Word (mark)

/-- What a word of the kind adds to a tree.  Numbers, commas and colons may stand where they change nothing; the two
signs of an `and` may have been meant as two references, and weigh more than these. -/
def Token.Kind.weight : Token.Kind → Nat
  | rbracket | rbrace | lparen | rparen | comma | colon | number | current => 0
  | and => 3
  | _ => 1

def weight : List Word → Nat
  | [] => 0
  | w :: ws => w.kind.weight + weight ws

/-- How often the current value is written. -/
def currents : List Word → Nat
  | [] => 0
  | w :: ws => (if w.kind = .current then 1 else 0) + currents ws

@[simp] theorem weight_nil : weight [] = 0 := rfl

@[simp] theorem weight_cons (w : Word) (ws : List Word) : weight (w :: ws) = w.kind.weight + weight ws := rfl

@[simp] theorem weight_append (us vs : List Word) : weight (us ++ vs) = weight us + weight vs := by
  induction us with
  | nil => simp
  | cons w us ih => simp [ih, Nat.add_assoc]

@[simp] theorem currents_nil : currents [] = 0 := rfl

@[simp] theorem currents_cons (w : Word) (ws : List Word) :
    currents (w :: ws) = (if w.kind = .current then 1 else 0) + currents ws := rfl

@[simp] theorem currents_append (us vs : List Word) : currents (us ++ vs) = currents us + currents vs := by
  induction us with
  | nil => simp
  | cons w us ih => simp [ih, Nat.add_assoc]

/-- The words hold no more than others, but perhaps the current value more often. -/
structure Leaner (us vs : List Word) : Prop where
  written : currents vs ≤ currents us
  light : weight us + currents vs ≤ weight vs + currents us

theorem Leaner.refl (ws : List Word) : Leaner ws ws := ⟨Nat.le_refl _, Nat.le_refl _⟩

theorem Leaner.append {us us' vs vs' : List Word} (hu : Leaner us us') (hv : Leaner vs vs') :
    Leaner (us ++ vs) (us' ++ vs') := by
  obtain ⟨h₁, h₂⟩ := hu
  obtain ⟨h₃, h₄⟩ := hv
  constructor <;> simp only [currents_append, weight_append] <;> omega

theorem Leaner.cons {us vs : List Word} (w : Word) (h : Leaner us vs) : Leaner (w :: us) (w :: vs) :=
  (Leaner.refl [w]).append h

/-- Words that weigh nothing make no difference. -/
theorem Leaner.congr {us us' vs vs' : List Word} (h : Leaner us vs) (hu : weight us' = weight us)
    (hu' : currents us' = currents us) (hv : weight vs' = weight vs) (hv' : currents vs' = currents vs) :
    Leaner us' vs' := by
  obtain ⟨h₁, h₂⟩ := h
  constructor <;> omega

private theorem not_current {w : Word} (h : 0 < w.kind.weight) : w.kind ≠ .current := by
  intro hk
  rw [hk] at h
  exact absurd h (by decide)

/-- The words around a word that has a weight are determined if no part holds more than it should. -/
theorem Leaner.split {us us' vs vs' : List Word} {w w' : Word} (hu : Leaner us us') (hv : Leaner vs vs')
    (h : us ++ w :: vs = us' ++ w' :: vs') (hw : 0 < w.kind.weight) (hw' : 0 < w'.kind.weight) :
    us = us' ∧ vs = vs' := by
  rcases List.append_eq_append_iff.1 h with ⟨xs, rfl, h'⟩ | ⟨xs, rfl, h'⟩
  · cases xs with
    | nil =>
      obtain ⟨rfl, rfl⟩ := List.cons.inj h'
      exact ⟨by simp, rfl⟩
    | cons x xs =>
      -- the word would be on the left and on the right, and weigh twice
      obtain ⟨rfl, rfl⟩ := List.cons.inj h'
      have h₁ := hu.written
      have h₂ := hv.light
      simp only [List.append_eq, currents_append, currents_cons, weight_append, weight_cons, if_neg (not_current hw),
        if_neg (not_current hw')] at h₁ h₂
      omega
  · cases xs with
    | nil =>
      obtain ⟨rfl, rfl⟩ := List.cons.inj h'
      exact ⟨by simp, rfl⟩
    | cons x xs =>
      obtain ⟨rfl, rfl⟩ := List.cons.inj h'
      have h₁ := hv.written
      have h₂ := hu.light
      simp only [List.append_eq, currents_append, currents_cons, weight_append, weight_cons, if_neg (not_current hw),
        if_neg (not_current hw')] at h₁ h₂
      omega

/-! ### Written words -/

namespace Expr

@[simp] private theorem weight_operandWords (least : Nat) (e : Expr) (ws : List Word) :
    weight (operandWords least e ws) = weight ws := by
  unfold operandWords
  split <;> simp [Token.Kind.weight]

@[simp] private theorem currents_operandWords (least : Nat) (e : Expr) (ws : List Word) :
    currents (operandWords least e ws) = currents ws := by
  unfold operandWords
  split <;> simp

@[simp] private theorem weight_baseWords (least : Nat) (e : Expr) (ws : List Word) :
    weight (baseWords least e ws) = if e.isCurrent then 0 else weight ws := by
  unfold baseWords
  split <;> simp

@[simp] private theorem currents_baseWords (least : Nat) (e : Expr) (ws : List Word) :
    currents (baseWords least e ws) = if e.isCurrent then 0 else currents ws := by
  unfold baseWords
  split <;> simp

theorem weight_slice {ws : List Word} (h : ∀ w ∈ ws, w.kind = .colon ∨ w.kind = .number) :
    weight ws = 0 ∧ currents ws = 0 := by
  induction ws with
  | nil => simp
  | cons w ws ih =>
    have hws := ih fun v hv => h v (by simp [hv])
    rcases h w (by simp) with hk | hk <;> simp [hk, hws, Token.Kind.weight]

end Expr

open Query.Expr

/-- What the words of a part are compared with: the words that are written for it without parentheses. -/
def Part.words : Part → List Word
  | .expr _ e | .left _ _ e | .member _ e => e.words
  | .base _ _ e => baseWords 0 e e.words
  | .applied _ e => appliedWords e e.words
  | .items es | .args es => listWords es
  | .entries es => entryWords es

/-- Of what stands alone, or before an operator. -/
def Part.Alone : Part → Prop
  | .expr _ e | .left _ _ e | .base _ _ e => e.isBracketed = false
  | _ => True

/-- A slice and a flattening do not stand alone. -/
theorem alone_of_spells {rule : Json.RealRule} {part : Part} {m : Nat} {ws : List Word}
    (h : Spells rule part ws m) : part.Alone := by
  induction h with
  | leaf h => rcases Word.expr_of_leaf h with ⟨_, rfl, -⟩ | ⟨_, rfl, -⟩ | ⟨rfl, -⟩ <;> rfl
  | group _ ih => exact ih
  | left _ _ _ ih => exact ih
  | base _ ih => exact ih
  | _ => first | rfl | trivial

/-- The current value starts with its own sign or is left out. -/
theorem head_of_current {rule : Json.RealRule} {limit m : Nat} {k : Token.Kind} {us vs : List Word}
    (h : Spells rule (.base limit k .current) us m) (hv : ¬ HeadIn [.quotedName, .name, .star] vs) :
    ¬ HeadIn [.quotedName, .name, .star] (us ++ vs) := by
  cases h with
  | nothing => exact hv
  | base h =>
    cases h with
    | left h _ _ =>
      cases h with
      | leaf hw =>
        rcases Word.expr_of_leaf hw with ⟨_, h, -⟩ | ⟨_, h, -⟩ | ⟨-, hk⟩
        · cases h
        · cases h
        · simp [HeadIn, hk]
      | group _ => simp [HeadIn]

private theorem isFlatCurrent_base {rule : Json.RealRule} {limit m : Nat} {k : Token.Kind} {l : Expr} {us : List Word}
    (h : Spells rule (.base limit k l) us m) (hl : l.isFlatCurrent = true) : l = .current := by
  unfold Expr.isFlatCurrent at hl
  split at hl
  · rfl
  · cases alone_of_spells h
  · cases hl

/-- What is applied without a dot does not start with a name or a star. -/
theorem head_of_startsWithBracket {rule : Json.RealRule} {limit m : Nat} {e : Expr} {ws : List Word}
    (h : Spells rule (.expr limit e) ws m) (hb : e.startsWithBracket = true) :
    ¬ HeadIn [.quotedName, .name, .star] ws := by
  cases h with
  | leaf hw => rcases Word.expr_of_leaf hw with ⟨_, rfl, -⟩ | ⟨_, rfl, -⟩ | ⟨rfl, -⟩ <;> cases hb
  | group _ => simp [HeadIn]
  | index hl _ =>
    obtain rfl := eq_current hb
    exact head_of_current hl (by simp [HeadIn])
  | slice hl => cases hb
  | elements hl _ =>
    obtain rfl := isFlatCurrent_base hl hb
    exact head_of_current hl (by simp [HeadIn])
  | @flatten _ l _ _ _ _ _ hl _ =>
    obtain rfl : l = .current := by
      cases l <;> first | rfl | cases hb
    exact head_of_current hl (by simp [HeadIn])
  | filter hl _ _ =>
    obtain rfl := isFlatCurrent_base hl hb
    exact head_of_current hl (by simp [HeadIn])
  | _ => cases hb

private theorem weight_appliedWords (e : Expr) (ws : List Word) : weight (appliedWords e ws) =
    if e.isCurrent then 0 else if e.startsWithBracket then weight ws else weight ws + 1 := by
  unfold appliedWords
  split
  · rfl
  · split
    · rfl
    · simp [Token.Kind.weight, Nat.add_comm]

private theorem currents_appliedWords (e : Expr) (ws : List Word) :
    currents (appliedWords e ws) = if e.isCurrent then 0 else currents ws := by
  unfold appliedWords
  split
  · rfl
  · split <;> simp

private theorem listWords_cons (e : Expr) (es : List Expr) :
    weight (listWords (e :: es)) = weight e.words + weight (listWords es) ∧
      currents (listWords (e :: es)) = currents e.words + currents (listWords es) := by
  cases es <;> simp [listWords, Token.Kind.weight]

private theorem entryWords_cons (name : String) (e : Expr) (es : List (String × Expr)) :
    weight (entryWords ((name, e) :: es)) = 1 + weight e.words + weight (entryWords es) ∧
      currents (entryWords ((name, e) :: es)) = currents e.words + currents (entryWords es) := by
  cases es with
  | nil => simp [entryWords, nameWord, Word.of, Token.Kind.weight]
  | cons x es =>
    simp [entryWords, nameWord, Word.of, Token.Kind.weight]
    omega

private theorem leaner_key {w : Word} {key : String} (h : w.key? = some key) :
    Leaner [w, mark .colon] [nameWord key, mark .colon] := by
  have hk := Word.kind_of_key h
  simp only [List.mem_cons, List.not_mem_nil, or_false] at hk
  refine (Leaner.refl [mark .name, mark .colon]).congr ?_ ?_ rfl rfl <;>
    rcases hk with hk | hk <;> simp [hk, Token.Kind.weight]

theorem Leaner.operand {us ws : List Word} (h : Leaner us ws) (least : Nat) (e : Expr) :
    Leaner us (operandWords least e ws) :=
  h.congr rfl rfl (weight_operandWords _ _ _) (currents_operandWords _ _ _)

theorem Leaner.base {us ws : List Word} {e : Expr} (h : Leaner us (baseWords 0 e ws)) (least : Nat) :
    Leaner us (baseWords least e ws) := by
  refine h.congr rfl rfl ?_ ?_
  · rw [weight_baseWords, weight_baseWords]
  · rw [currents_baseWords, currents_baseWords]

/-- Where the sign of the current value is left out there may be one word more. -/
private theorem Leaner.of_current {us : List Word} (h : Leaner us Expr.current.words) :
    Leaner us [] ∧ Leaner (mark .dot :: us) [] := by
  obtain ⟨-, h⟩ := h
  simp [words, Token.Kind.weight] at h
  constructor <;> exact ⟨Nat.zero_le _, by simp [Token.Kind.weight]; omega⟩

/-- What closes a list weighs nothing. -/
private theorem Leaner.closed {us vs : List Word} (h : Leaner us vs) {k : Token.Kind} (hk : k.weight = 0)
    (hc : k ≠ .current) : Leaner us (vs ++ [mark k]) :=
  h.congr rfl rfl (by simp [hk]) (by simp [hc])

/-- Nor does what stands between two items. -/
private theorem Leaner.separated {us us' vs vs' : List Word} (hu : Leaner us us') (hv : Leaner vs vs') :
    Leaner (us ++ mark .comma :: vs) (us' ++ vs') :=
  (hu.append hv).congr (by simp [Token.Kind.weight]) (by simp) rfl rfl

private theorem Leaner.items {us : List Word} {e : Expr} {es : List Expr} (h : Leaner us (e.words ++ listWords es)) :
    Leaner us (listWords (e :: es)) := by
  obtain ⟨hw, hc⟩ := listWords_cons e es
  exact h.congr rfl rfl (by simpa using hw) (by simpa using hc)

private theorem Leaner.entries {us : List Word} {key : String} {e : Expr} {es : List (String × Expr)}
    (h : Leaner us ([nameWord key, mark .colon] ++ (e.words ++ entryWords es))) :
    Leaner us (entryWords ((key, e) :: es)) := by
  obtain ⟨hw, hc⟩ := entryWords_cons key e es
  refine h.congr rfl rfl (hw.trans ?_) (hc.trans ?_)
  · simp [nameWord, Word.of, Token.Kind.weight, Nat.add_assoc]
  · simp [nameWord, Word.of]

private theorem Leaner.collection {us vs : List Word} {e : Expr} (h : Leaner us (baseWords 0 e e.words))
    (he : e.isBracketed = false) (hv : vs = [mark .lbracket, mark .star, mark .rbracket]) :
    Leaner (us ++ vs) (collectionWords e e.words) := by
  subst hv
  cases e <;> first | exact (h.base 10).append (.refl _) | cases he

private theorem leaner_applied {us : List Word} {e : Expr} (h : Leaner us e.words) :
    Leaner us (appliedWords e e.words) := by
  by_cases hc : e.isCurrent = true
  · obtain rfl := eq_current hc
    exact h.of_current.1
  · obtain ⟨h₁, h₂⟩ := h
    constructor
    · rw [currents_appliedWords, if_neg hc]
      exact h₁
    · rw [currents_appliedWords, if_neg hc, weight_appliedWords, if_neg hc]
      split <;> omega

theorem leaner_of_spells {rule : Json.RealRule} {part : Part} {m : Nat} {ws : List Word}
    (h : Spells rule part ws m) : Leaner ws part.words := by
  induction h with
  | @leaf _ w _ _ h =>
    rcases Word.expr_of_leaf h with ⟨_, rfl, hk⟩ | ⟨_, rfl, hk⟩ | ⟨rfl, hk⟩
    · simp only [List.mem_cons, List.not_mem_nil, or_false] at hk
      refine (Leaner.refl [mark .name]).congr ?_ ?_ rfl rfl <;>
        rcases hk with hk | hk <;> simp [hk, Token.Kind.weight]
    · simp only [List.mem_cons, List.not_mem_nil, or_false] at hk
      refine (Leaner.refl [mark .json]).congr ?_ ?_ rfl rfl <;>
        rcases hk with hk | hk <;> simp [hk, Token.Kind.weight]
    · exact (Leaner.refl [mark .current]).congr (by simp [hk]) (by simp [hk]) rfl rfl
  | group _ ih => exact ih.congr (by simp [Token.Kind.weight]) (by simp) rfl rfl
  | not _ ih => exact (ih.operand _ _).cons _
  | reference _ ih => exact (ih.operand _ _).cons _
  | list _ _ ih => exact (ih.closed rfl (by decide)).cons _
  | hash _ ih => exact (ih.closed rfl (by decide)).cons _
  | compare _ _ ihl ihr => exact (ihl.operand _ _).append ((ihr.operand _ _).cons _)
  | and _ _ ihl ihr => exact (ihl.operand _ _).append ((ihr.operand _ _).cons _)
  | or _ _ ihl ihr => exact (ihl.operand _ _).append ((ihr.operand _ _).cons _)
  | pipe _ _ ihl ihr => exact (ihl.operand _ _).append ((ihr.operand _ _).cons _)
  | sub _ _ _ ihl ihr => exact (ihl.operand _ _).append ((ihr.operand _ _).cons _)
  | call _ _ ihl iha => exact ihl.append ((iha.closed rfl (by decide)).cons _)
  | index _ hn ihl =>
    refine (ihl.base 10).append (Leaner.congr (.refl [mark .lbracket]) ?_ ?_ ?_ ?_)
    all_goals simp [Word.kind_of_number hn, numberWord, Word.of, Token.Kind.weight]
  | @slice _ _ _ _ bs _ b _ _ _ _ hb _ ihl ihr =>
    obtain ⟨hw, hc⟩ := weight_slice (kind_of_boundsOf hb)
    obtain ⟨hw', hc'⟩ := weight_slice (kind_of_sliceWords b.start b.stop b.step)
    have hs : Leaner (mark .lbracket :: (bs ++ [mark .rbracket]))
        (mark .lbracket :: (sliceWords b.start b.stop b.step ++ [mark .rbracket])) :=
      (Leaner.refl [mark .lbracket]).congr (by simp [hw, Token.Kind.weight]) (by simp [hc])
        (by simp [hw', Token.Kind.weight]) (by simp [hc'])
    have h := ((ihl.base 10).append hs).append ihr
    rwa [List.append_assoc, List.cons_append, List.append_assoc] at h
  | elements hl _ ihl ihr =>
    have h := (ihl.collection (alone_of_spells hl) rfl).append ihr
    rwa [List.append_assoc] at h
  | flatten _ _ ihl ihr =>
    have h := ((ihl.base 9).append (.refl [mark .flatten])).append ihr
    rwa [List.append_assoc] at h
  | filter _ _ _ ihl ihc ihr => exact (ihl.base 10).append ((ihc.append (ihr.cons _)).cons _)
  | values _ ih => exact ih.cons _
  | @valuesOf _ l _ us _ _ _ _ _ ihl ihr =>
    have hl : Leaner (us ++ [mark .dot, mark .star]) (valuesWords l l.words) := by
      unfold valuesWords
      by_cases hc : l.isCurrent = true
      · rw [if_pos hc]
        obtain rfl := eq_current hc
        refine ((Leaner.of_current ihl).2.append (.refl [mark .star])).congr ?_ ?_ rfl rfl
        · simp [Nat.add_left_comm]
        · simp
      · rw [if_neg hc]
        exact (ihl.operand _ _).append (.refl _)
    have h := hl.append ihr
    rwa [List.append_assoc] at h
  | left _ _ _ ih => exact ih
  | nothing => exact .refl []
  | @base _ _ e _ _ _ ih =>
    by_cases hc : e.isCurrent = true
    · obtain rfl := eq_current hc
      exact (Leaner.of_current ih).1
    · show Leaner _ (baseWords 0 e e.words)
      simp only [baseWords, operandWords, if_neg hc, Nat.not_lt_zero, if_false]
      exact ih
  | itself => exact .refl []
  | @bracketed _ e _ _ _ _ ih => exact leaner_applied ih
  | @dotted _ e ws _ h ih =>
    by_cases hc : e.isCurrent = true
    · obtain rfl := eq_current hc
      exact (Leaner.of_current ih).2
    · have hb : e.startsWithBracket ≠ true := by
        intro hb
        cases h with
        | named h hs => exact head_of_startsWithBracket h hb hs
        | memberList _ => cases hb
        | memberHash _ => cases hb
      show Leaner _ (appliedWords e e.words)
      rw [appliedWords, if_neg hc, if_neg hb]
      exact (ih.operand _ _).cons _
  | named _ _ ih => exact ih
  | memberList _ ih => exact (ih.closed rfl (by decide)).cons _
  | memberHash _ ih => exact (ih.closed rfl (by decide)).cons _
  | lastItem _ ih => exact ih.congr (by simp [Token.Kind.weight]) (by simp) rfl rfl
  | item _ _ ih ihs => exact (Leaner.separated ih ihs).items
  | lastEntry hk _ ih =>
    exact ((leaner_key hk).append ih).congr (by simp [Token.Kind.weight]) (by simp) rfl rfl
  | entry hk _ _ ih ihs => exact ((leaner_key hk).append (Leaner.separated ih ihs)).entries
  | noArgs => exact (Leaner.refl []).congr rfl rfl rfl rfl
  | arg _ _ ih ihs => exact (Leaner.separated ih ihs).items
  | bareArg _ _ _ ih ihs => exact (Leaner.append ih ihs).items

/-- References that are taken as one word make the words heavier. -/
theorem weight_joined (ws : List Word) :
    currents (joined ws) = currents ws ∧ (joined ws = ws ∨ weight ws < weight (joined ws)) := by
  induction ws using joined.induct with
  | case1 v w ws hk ih =>
    obtain ⟨hc, hw⟩ := ih
    rw [joined, if_pos hk]
    have hle : weight ws ≤ weight (joined ws) := by
      rcases hw with h | h
      · exact Nat.le_of_eq (by rw [h])
      · omega
    refine ⟨by simp [hk.1, hk.2, hc], .inr ?_⟩
    simp [hk.1, hk.2, Token.Kind.weight]
    omega
  | case2 v w ws hk ih =>
    obtain ⟨hc, hw⟩ := ih
    rw [joined, if_neg hk]
    refine ⟨by rw [currents_cons, hc]; rfl, ?_⟩
    rcases hw with h | h
    · exact .inl (by rw [h])
    · exact .inr (Nat.add_lt_add_left h _)
  | case3 ws hws =>
    -- the catch-all equation holds where there are no two words
    have hj : joined ws = ws := by
      rcases ws with _ | ⟨v, _ | ⟨w, ws⟩⟩
      · rfl
      · rfl
      · exact absurd rfl (hws v w ws)
    rw [hj]
    exact ⟨rfl, .inl rfl⟩

end Signpost.Query
