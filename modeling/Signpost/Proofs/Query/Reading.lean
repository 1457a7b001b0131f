import Signpost.Proofs.Query.Success

/-!
# Reading is spelling

The readers of a query accept exactly the words that the grammar derives.  Completeness (`reads`) is an
induction on the derivation: an expression in front of other tokens is read up to its end, and the reader goes on
there as `operators` does.  Soundness (`sound`) is an induction on the number of tokens.  Together they give
`ofTextWith_ok_iff`: a text is a query exactly if its words spell an expression.
-/

namespace Signpost.Query.Parser

variable {rule : Json.RealRule} {stop : Nat}

/-! ### Completeness -/

/-- How a reader takes a part from the front of tokens, if the next word binds with at most the power `m`. -/
def Reads (rule : Json.RealRule) (stop m : Nat) (us : List Token) : Part → Prop
  | .expr limit e => ∀ rest x r, nextPower rest ≤ m → Gives (operators rule stop limit e rest) x r →
    Gives (expression rule stop limit (us ++ rest)) x r
  | .left limit k e => ∀ t rest l vs x r, t.kind = k → Gives (operator rule stop t e rest) l vs →
    Gives (operators rule stop limit l vs) x r → Gives (expression rule stop limit (us ++ t :: rest)) x r
  | .base limit k e => ∀ t rest l vs x r, t.kind = k → Gives (operator rule stop t e rest) l vs →
    (e = .current → Gives (operand rule stop t rest) l vs) →
    Gives (operators rule stop limit l vs) x r → Gives (expression rule stop limit (us ++ t :: rest)) x r
  | .applied limit e => ∀ rest, nextPower rest ≤ m → Gives (applied rule stop limit (us ++ rest)) e rest
  | .member limit e => ∀ rest, nextPower rest ≤ m → Gives (member rule stop limit (us ++ rest)) e rest
  | .items es => ∀ rest, Gives (listItems rule stop (us ++ rest)) es rest
  | .entries es => ∀ rest, Gives (hashEntries rule stop (us ++ rest)) es rest
  | .args es => ∀ rest, Gives (arguments rule stop (us ++ rest)) es rest

variable {t : Token} {us ts rest : List Token} {limit m : Nat} {e l : Expr} {k : Token.Kind}

private theorem wordsOf_mark {ws : List Word} (h : wordsOf ts = .mark k :: ws) :
    ∃ t us, ts = t :: us ∧ t.kind = k ∧ wordsOf us = ws := by
  obtain ⟨t, us, rfl, ht, hus⟩ := List.map_eq_cons_iff.1 h
  exact ⟨t, us, rfl, congrArg Word.kind ht, hus⟩

private theorem wordsOf_between {vs ws : List Word} (h : wordsOf ts = vs ++ .mark k :: ws) :
    ∃ us t us', ts = us ++ t :: us' ∧ wordsOf us = vs ∧ t.kind = k ∧ wordsOf us' = ws := by
  obtain ⟨us, ts', rfl, hus, hts⟩ := List.map_eq_append_iff.1 h
  obtain ⟨t, us', rfl, ht, hus'⟩ := wordsOf_mark hts
  exact ⟨us, t, us', rfl, hus, ht, hus'⟩

private theorem wordsOf_eq_cons {w : Word} {ws : List Word} (h : wordsOf ts = w :: ws) :
    ∃ t us, ts = t :: us ∧ t.word = w ∧ wordsOf us = ws := List.map_eq_cons_iff.1 h

private theorem wordsOf_eq_nil (h : wordsOf ts = []) : ts = [] := List.map_eq_nil_iff.1 h

/-- An expression that starts with its operand. -/
private theorem reads_operand (h : ∀ rest, nextPower rest ≤ m → Gives (operand rule stop t (ts ++ rest)) e rest) :
    Reads rule stop m (t :: ts) (.expr limit e) := by
  intro rest x r hm hx
  exact gives_expression.2 ⟨t, _, e, rest, rfl, h rest hm, hx⟩

/-- An expression whose last operator follows its left side. -/
private theorem reads_operator (hk : t.kind = k) (hl : Reads rule stop maxPower us (.left limit k l))
    (h : ∀ rest, nextPower rest ≤ m → Gives (operator rule stop t l (ts ++ rest)) e rest) :
    Reads rule stop m (us ++ t :: ts) (.expr limit e) := by
  intro rest x r hm hx
  rw [List.append_assoc, List.cons_append]
  exact hl t _ e rest x r hk (h rest hm) hx

/-- The same for an operator that is a bracket, before which the current value is not written. -/
private theorem reads_bracket (hk : t.kind = k) (hl : Reads rule stop maxPower us (.base limit k l))
    (h : ∀ rest, nextPower rest ≤ m → Gives (operator rule stop t l (ts ++ rest)) e rest)
    (h' : l = .current → ∀ rest, nextPower rest ≤ m → Gives (operand rule stop t (ts ++ rest)) e rest) :
    Reads rule stop m (us ++ t :: ts) (.expr limit e) := by
  intro rest x r hm hx
  rw [List.append_assoc, List.cons_append]
  exact hl t _ e rest x r hk (h rest hm) (fun hc => h' hc rest hm) hx

/-- An expression that ends where no operator is left to read. -/
private theorem gives_of_reads (h : Reads rule stop m us (.expr limit e)) (hm : nextPower rest ≤ m)
    (hl : nextPower rest ≤ limit) : Gives (expression rule stop limit (us ++ rest)) e rest :=
  h rest e rest hm ((gives_operators_stop hl).2 ⟨rfl, rfl⟩)

private theorem gives_of_reads_cons (h : Reads rule stop m us (.expr limit e)) (hk : t.kind.power = 0) :
    Gives (expression rule stop limit (us ++ t :: rest)) e (t :: rest) :=
  gives_of_reads h (by simp [nextPower, hk]) (by simp [nextPower, hk])

/-- An operator between two operands. -/
private theorem reads_binary {make : Expr → Expr → Expr} {us vs : List Word} {r : Expr} {m' : Nat}
    (hk : binary? k = some make) (ihl : ∀ ts, wordsOf ts = us → Reads rule stop maxPower ts (.left limit k l))
    (ihr : ∀ ts, wordsOf ts = vs → Reads rule stop m' ts (.expr k.power r)) :
    ∀ ts, wordsOf ts = us ++ .mark k :: vs → Reads rule stop (min k.power m') ts (.expr limit (make l r)) := by
  intro ts hts
  obtain ⟨us, t, vs, rfl, hus, rfl, hvs⟩ := wordsOf_between hts
  refine reads_operator rfl (ihl us hus) fun rest hm => ?_
  exact (gives_operator_binary hk).2 ⟨_, gives_of_reads (ihr vs hvs) (by omega) (by omega), rfl⟩

/-- No expression starts with a word of one of these kinds. -/
private theorem head_of_gives {x : Expr} (h : Gives (expression rule stop limit ts) x rest) :
    ¬ HeadIn [.number, .colon, .rparen, .comma] (wordsOf ts) := by
  obtain ⟨t, us, l, vs, rfl, hl, -⟩ := gives_expression.1 h
  intro hk
  simp only [wordsOf_cons, HeadIn, Token.word_kind, List.mem_cons, List.not_mem_nil, or_false] at hk
  refine not_gives_operand ?_ hl
  rcases hk with hk | hk | hk | hk <;> simp [hk]

/-- The first two tokens of a slice. -/
private theorem slice_head {b : Bounds} (hs : IsSlice (wordsOf us))
    (hb : boundsOf? ⟨none, none, none, 0⟩ (wordsOf us) = some b) : ∃ u vs, us = u :: vs ∧
      u.kind ∈ [.number, .colon] ∧ ∀ ts, u.kind = .colon ∨ nextIs .colon (vs ++ ts) = true := by
  cases us with
  | nil => simp [IsSlice] at hs
  | cons u vs =>
    refine ⟨u, vs, rfl, ?_, ?_⟩
    · simp only [wordsOf_cons, boundsOf?, Token.word_kind] at hb
      by_cases hu : u.kind = .colon
      · simp [hu]
      · rw [if_neg hu] at hb
        obtain ⟨n, hn, -⟩ := Option.bind_eq_some_iff.1 hb
        exact List.mem_cons.2 (.inl (Word.kind_of_number hn))
    · intro ts
      cases vs with
      | nil => exact .inl (by simpa [IsSlice] using hs)
      | cons v vs => simpa [IsSlice, nextIs] using hs

private theorem gives_indexed_slice {b : Bounds} {r : Expr} (hs : IsSlice (wordsOf us))
    (hb : boundsOf? ⟨none, none, none, 0⟩ (wordsOf us) = some b) (hk : t.kind = .rbracket)
    (hr : Gives (applied rule stop Token.Kind.star.power ts) r rest) :
    Gives (indexed rule stop l (us ++ t :: ts)) (.project (.slice l b.start b.stop b.step) r) rest := by
  obtain ⟨u, vs, rfl, -, hc⟩ := slice_head hs hb
  rw [List.cons_append, gives_slice (hc _)]
  exact ⟨b, ts, r, gives_bounds.2 ⟨u :: vs, t, rfl, hk, hb⟩, hr, rfl⟩

private theorem gives_indexed_index {u : Token} {n : Int} (hn : u.word.number? = some n) (hk : t.kind = .rbracket) :
    Gives (indexed rule stop l (u :: t :: rest)) (.index l n) rest := by
  have hu : u.kind = .number := Word.kind_of_number hn
  rw [gives_index (by simp [hu, nextIs, hk])]
  exact ⟨n, t, (number_word hu).2 hn, rfl, hk, rfl⟩

/-- A list has an item and a closing bracket. -/
private theorem list_of_gives {es : List Expr} (h : Gives (listItems rule stop ts) es []) :
    ¬ HeadIn [.number, .colon] (wordsOf ts) ∧ ∃ u v us, ts = u :: v :: us := by
  obtain ⟨e, u, us, he, -⟩ := gives_listItems.1 h
  have hh := head_of_gives he
  have hlt := he.shorter
  match ts, hh, hlt with
  | [_], _, hlt => simp at hlt
  | u :: v :: us, hh, _ =>
    refine ⟨?_, u, v, us, rfl⟩
    simp only [wordsOf_cons, HeadIn, Token.word_kind, List.mem_cons, List.not_mem_nil, or_false, not_or] at hh ⊢
    exact ⟨hh.1, hh.2.1⟩

/-- Arguments do not start with a comma. -/
private theorem args_of_gives {es : List Expr} (h : Gives (arguments rule stop (ts ++ [])) es []) :
    ∃ t us, ts = t :: us ∧ t.kind ≠ .comma := by
  rw [List.append_nil] at h
  cases ts with
  | nil => exact absurd h.shorter (by simp)
  | cons t us =>
    refine ⟨t, us, rfl, fun hk => ?_⟩
    obtain ⟨e, u, us, es', he, -⟩ := (gives_arguments (by simp [HeadIn, hk])).1 h
    exact head_of_gives he (by simp [HeadIn, hk])

theorem reads (stop : Nat) {part : Part} {ws : List Word} (h : Spells rule part ws m) :
    ∀ ts, wordsOf ts = ws → Reads rule stop m ts part := by
  induction h with
  | leaf h =>
    intro ts hts
    obtain ⟨t, us, rfl, rfl, hus⟩ := wordsOf_eq_cons hts
    obtain rfl := wordsOf_eq_nil hus
    exact reads_operand fun rest hm => (gives_operand_leaf (Word.kind_of_leaf h)).2 ⟨rfl, _, h, hm⟩
  | group _ ih =>
    intro ts hts
    obtain ⟨t, us, rfl, ht, hus⟩ := wordsOf_mark hts
    obtain ⟨vs, u, us, rfl, hvs, hu, hus⟩ := wordsOf_between hus
    obtain rfl := wordsOf_eq_nil hus
    refine reads_operand fun rest _ => (gives_operand_lparen ht).2 ⟨u, ?_, hu⟩
    rw [List.append_assoc]
    exact gives_of_reads_cons (ih vs hvs) (by rw [hu]; rfl)
  | not _ ih =>
    intro ts hts
    obtain ⟨t, us, rfl, ht, hus⟩ := wordsOf_mark hts
    refine reads_operand fun rest hm => (gives_operand_not ht).2 ⟨_, ?_, rfl⟩
    exact gives_of_reads (ih us hus) (by omega) (by omega)
  | reference _ ih =>
    intro ts hts
    obtain ⟨t, us, rfl, ht, hus⟩ := wordsOf_mark hts
    refine reads_operand fun rest hm => (gives_operand_reference ht).2 ⟨_, ?_, rfl⟩
    exact gives_of_reads (ih us hus) (by omega) hm
  | list _ hs ih =>
    intro ts hts
    obtain ⟨t, us, rfl, ht, rfl⟩ := wordsOf_mark hts
    -- what is read inside decides which of the brackets this is
    have hes := ih us rfl []
    rw [List.append_nil] at hes
    obtain ⟨hh, u, v, vs, rfl⟩ := list_of_gives hes
    refine reads_operand fun rest _ => (gives_operand_list ht ?_ ?_).2 ⟨_, ih _ rfl rest, rfl⟩
    · exact hh
    · simpa using hs
  | hash _ ih =>
    intro ts hts
    obtain ⟨t, us, rfl, ht, hus⟩ := wordsOf_mark hts
    exact reads_operand fun rest _ => (gives_operand_lbrace ht).2 ⟨_, ih us hus rest, rfl⟩
  | compare _ _ ihl ihr => exact reads_binary rfl ihl ihr
  | and _ _ ihl ihr => exact reads_binary rfl ihl ihr
  | or _ _ ihl ihr => exact reads_binary rfl ihl ihr
  | pipe _ _ ihl ihr => exact reads_binary rfl ihl ihr
  | sub _ _ hs ihl ihr =>
    intro ts hts
    obtain ⟨us, t, vs, rfl, hus, ht, rfl⟩ := wordsOf_between hts
    refine reads_operator ht (ihl us hus) fun rest hm => ?_
    refine (gives_operator_member ht ?_).2 ⟨_, ihr vs rfl rest hm, rfl⟩
    have hlt := (ihr vs rfl [] (by simp [nextPower])).shorter
    cases vs with
    | nil => simp at hlt
    | cons v vs => exact hs
  | call _ _ ihl iha =>
    intro ts hts
    obtain ⟨us, t, vs, rfl, hus, ht, hvs⟩ := wordsOf_between hts
    refine reads_operator ht (ihl us hus) fun rest hm => ?_
    exact (gives_operator_call ht).2 ⟨_, _, rfl, iha vs hvs rest, rfl⟩
  | index _ hn ihl =>
    intro ts hts
    obtain ⟨us, t, vs, rfl, hus, ht, hvs⟩ := wordsOf_between hts
    obtain ⟨u, vs, rfl, rfl, hvs'⟩ := wordsOf_eq_cons hvs
    obtain ⟨v, vs, rfl, hv, hnil⟩ := wordsOf_mark hvs'
    obtain rfl := wordsOf_eq_nil hnil
    have hu : u.kind ∈ [.number, .colon] := List.mem_cons.2 (.inl (Word.kind_of_number hn))
    refine reads_bracket ht (ihl us hus) (fun rest _ => ?_) ?_
    · exact (gives_operator_index ht hu).2 (gives_indexed_index hn hv)
    · rintro rfl rest -
      exact (gives_operand_index ht hu).2 (gives_indexed_index hn hv)
  | slice _ hs hb _ ihl ihr =>
    intro ts hts
    obtain ⟨us, t, vs, rfl, hus, ht, hvs⟩ := wordsOf_between hts
    obtain ⟨bs, u, vs, rfl, rfl, hu, hvs⟩ := wordsOf_between hvs
    have hi : ∀ left rest, nextPower rest ≤ _ → Gives (indexed rule stop left (bs ++ u :: (vs ++ rest))) _ rest :=
      fun left rest hm => gives_indexed_slice hs hb hu (ihr vs hvs rest hm)
    obtain ⟨w, ws, rfl, hw, -⟩ := slice_head hs hb
    refine reads_bracket ht (ihl us hus) (fun rest hm => ?_) ?_
    · rw [List.append_assoc]
      exact (gives_operator_index ht hw).2 (hi _ rest hm)
    · rintro rfl rest hm
      rw [List.append_assoc]
      exact (gives_operand_index ht hw).2 (hi _ rest hm)
  | elements _ _ ihl ihr =>
    intro ts hts
    obtain ⟨us, t, vs, rfl, hus, ht, hvs⟩ := wordsOf_between hts
    obtain ⟨u, vs, rfl, hu, hvs⟩ := wordsOf_mark hvs
    obtain ⟨v, vs, rfl, hv, hvs⟩ := wordsOf_mark hvs
    refine reads_bracket ht (ihl us hus) (fun rest hm => ?_) ?_
    · exact (gives_operator_elements ht hu).2 ⟨v, _, _, rfl, hv, ihr vs hvs rest hm, rfl⟩
    · rintro rfl rest hm
      exact (gives_operand_elements ht hu hv).2 ⟨_, ihr vs hvs rest hm, rfl⟩
  | flatten _ _ ihl ihr =>
    intro ts hts
    obtain ⟨us, t, vs, rfl, hus, ht, hvs⟩ := wordsOf_between hts
    refine reads_bracket ht (ihl us hus) (fun rest hm => ?_) ?_
    · exact (gives_operator_flatten ht).2 ⟨_, ihr vs hvs rest hm, rfl⟩
    · rintro rfl rest hm
      exact (gives_operand_flatten ht).2 ⟨_, ihr vs hvs rest hm, rfl⟩
  | @filter _ _ r c _ _ _ _ m' _ _ _ _ ihl ihc ihr =>
    intro ts hts
    obtain ⟨us, t, vs, rfl, hus, ht, hvs⟩ := wordsOf_between hts
    obtain ⟨cs, u, vs, rfl, hcs, hu, hvs⟩ := wordsOf_between hvs
    have hf : ∀ left rest, nextPower rest ≤ m' →
        Gives (filtered rule stop left (cs ++ u :: vs ++ rest)) (.filter left r c) rest := by
      intro left rest hm
      rw [List.append_assoc]
      exact gives_filtered.2 ⟨_, u, _, _, gives_of_reads_cons (ihc cs hcs) (by rw [hu]; rfl), hu,
        ihr vs hvs rest hm, rfl⟩
    refine reads_bracket ht (ihl us hus) (fun rest hm => ?_) ?_
    · exact (gives_operator_filter ht).2 (hf _ rest hm)
    · rintro rfl rest hm
      exact (gives_operand_filter ht).2 (hf _ rest hm)
  | values _ ih =>
    intro ts hts
    obtain ⟨t, us, rfl, ht, hus⟩ := wordsOf_mark hts
    exact reads_operand fun rest hm => (gives_operand_star ht).2 ⟨_, ih us hus rest hm, rfl⟩
  | valuesOf _ _ ihl ihr =>
    intro ts hts
    obtain ⟨us, t, vs, rfl, hus, ht, hvs⟩ := wordsOf_between hts
    obtain ⟨u, vs, rfl, hu, hvs⟩ := wordsOf_mark hvs
    refine reads_operator ht (ihl us hus) fun rest hm => ?_
    exact (gives_operator_values ht hu).2 ⟨_, ihr vs hvs rest hm, rfl⟩
  | left _ hlt hle ih =>
    rintro us hus t rest l vs x r rfl hl hx
    exact ih us hus (t :: rest) x r hle ((gives_operators_cons hlt).2 ⟨l, vs, hl, hx⟩)
  | nothing =>
    rintro us hus t rest l vs x r rfl - hl hx
    obtain rfl := wordsOf_eq_nil hus
    exact gives_expression.2 ⟨t, rest, l, vs, rfl, hl rfl, hx⟩
  | base _ ih =>
    rintro us hus t rest l vs x r hk hl - hx
    exact ih us hus t rest l vs x r hk hl hx
  | itself =>
    intro us hus rest hm
    obtain rfl := wordsOf_eq_nil hus
    refine (gives_applied_stop ?_).2 ⟨rfl, rfl⟩
    simp only [projectionPower, List.nil_append] at hm ⊢
    omega
  | bracketed _ hs ih =>
    rintro us rfl rest hm
    refine (gives_applied_bracket ?_).2 (gives_of_reads (ih us rfl) (by omega) (by omega))
    rw [wordsOf_append]
    exact (headIn_append_iff hs.ne_nil).2 hs
  | dotted _ ih =>
    intro ts hts rest hm
    obtain ⟨t, us, rfl, ht, hus⟩ := wordsOf_mark hts
    exact (gives_applied_dot ht).2 (ih us hus rest hm)
  | named _ hs ih =>
    rintro us rfl rest hm
    refine (gives_member_name ?_).2 (gives_of_reads (ih us rfl) (by omega) (by omega))
    rw [wordsOf_append]
    exact (headIn_append_iff hs.ne_nil).2 hs
  | memberList _ ih =>
    intro ts hts rest _
    obtain ⟨t, us, rfl, ht, hus⟩ := wordsOf_mark hts
    exact (gives_member_list ht).2 ⟨_, ih us hus rest, rfl⟩
  | memberHash _ ih =>
    intro ts hts rest _
    obtain ⟨t, us, rfl, ht, hus⟩ := wordsOf_mark hts
    exact (gives_member_hash ht).2 ⟨_, ih us hus rest, rfl⟩
  | lastItem _ ih =>
    intro ts hts rest
    obtain ⟨us, t, vs, rfl, hus, ht, hvs⟩ := wordsOf_between hts
    obtain rfl := wordsOf_eq_nil hvs
    rw [List.append_assoc]
    exact gives_listItems.2 ⟨_, t, rest, gives_of_reads_cons (ih us hus) (by rw [ht]; rfl), .inl ⟨ht, rfl, rfl⟩⟩
  | item _ _ ih ihs =>
    intro ts hts rest
    obtain ⟨us, t, vs, rfl, hus, ht, hvs⟩ := wordsOf_between hts
    rw [List.append_assoc]
    exact gives_listItems.2 ⟨_, t, _, gives_of_reads_cons (ih us hus) (by rw [ht]; rfl),
      .inr ⟨ht, _, ihs vs hvs rest, rfl⟩⟩
  | lastEntry hk _ ih =>
    intro ts hts rest
    obtain ⟨t, cs, rfl, rfl, hcs⟩ := wordsOf_eq_cons hts
    obtain ⟨c, cs, rfl, hc, hes⟩ := wordsOf_mark hcs
    obtain ⟨us, u, vs, rfl, hus, hu, hvs⟩ := wordsOf_between hes
    obtain rfl := wordsOf_eq_nil hvs
    refine gives_hashEntries.2 ⟨t, c, _, _, u, us ++ u :: rest, rest, by simp, hk, hc, ?_, .inl ⟨hu, rfl, rfl⟩⟩
    exact gives_of_reads_cons (ih us hus) (by rw [hu]; rfl)
  | entry hk _ _ ih ihs =>
    intro ts hts rest
    obtain ⟨t, cs, rfl, rfl, hcs⟩ := wordsOf_eq_cons hts
    obtain ⟨c, cs, rfl, hc, hes⟩ := wordsOf_mark hcs
    obtain ⟨us, u, vs, rfl, hus, hu, hvs⟩ := wordsOf_between hes
    refine gives_hashEntries.2 ⟨t, c, _, _, u, us ++ u :: (vs ++ rest), _, by simp, hk, hc, ?_,
      .inr ⟨hu, _, ihs vs hvs rest, rfl⟩⟩
    exact gives_of_reads_cons (ih us hus) (by rw [hu]; rfl)
  | noArgs =>
    intro ts hts rest
    obtain ⟨t, us, rfl, ht, hus⟩ := wordsOf_mark hts
    obtain rfl := wordsOf_eq_nil hus
    exact (gives_arguments_end ht).2 ⟨rfl, rfl⟩
  | arg _ _ ih ihs =>
    intro ts hts rest
    obtain ⟨us, t, vs, rfl, hus, ht, hvs⟩ := wordsOf_between hts
    rw [List.append_assoc]
    have he : Gives (expression rule stop 0 (us ++ t :: (vs ++ rest))) _ (t :: (vs ++ rest)) :=
      gives_of_reads_cons (ih us hus) (by rw [ht]; rfl)
    exact (gives_arguments fun h => head_of_gives he (h.mono (by simp))).2
      ⟨_, t, _, _, he, rfl, .inl ⟨ht, ihs vs hvs rest⟩⟩
  | bareArg _ _ hp ih ihs =>
    intro ts hts rest
    obtain ⟨us, vs, rfl, hus, rfl⟩ := List.map_eq_append_iff.1 hts
    obtain ⟨t, vs, rfl, hc⟩ := args_of_gives (ihs vs rfl [])
    rw [List.append_assoc]
    have he : Gives (expression rule stop 0 (us ++ t :: (vs ++ rest))) _ (t :: (vs ++ rest)) :=
      gives_of_reads_cons (ih us hus) hp
    exact (gives_arguments fun h => head_of_gives he (h.mono (by simp))).2
      ⟨_, t, _, _, he, rfl, .inr ⟨hc, ihs _ rfl rest⟩⟩

/-! ### Soundness -/

/-- The tokens in front of the others spell the part, and the others may follow it. -/
def Read (rule : Json.RealRule) (part : Part) (ts rest : List Token) : Prop :=
  ∃ us m, ts = us ++ rest ∧ Spells rule part (wordsOf us) m ∧ nextPower rest ≤ m

/-- Expressions in up to `n` tokens are read as they are spelled. -/
def Sound (rule : Json.RealRule) (stop n : Nat) : Prop := ∀ {limit ts e rest}, ts.length ≤ n →
  Gives (expression rule stop limit ts) e rest → Read rule (.expr limit e) ts rest ∧ nextPower rest ≤ limit

variable {n : Nat}

private theorem word_mark (hk : t.kind = k) (hv : k.isVariable = false) : t.word = .mark k :=
  (Token.word_eq_mark hv).2 hk

private theorem cons_of_shorter (h : rest.length < (us ++ rest).length) : ∃ u vs, us = u :: vs := by
  cases us with
  | nil => simp at h
  | cons u vs => exact ⟨u, vs, rfl⟩

private theorem read_items (ih : Sound rule stop n) {ts : List Token} {es : List Expr} (hts : ts.length ≤ n)
    (h : Gives (listItems rule stop ts) es rest) : Read rule (.items es) ts rest := by
  induction hn : ts.length using Nat.strongRecOn generalizing ts es with | ind k ihk
  subst hn
  obtain ⟨e, u, us, he, h'⟩ := gives_listItems.1 h
  have hlt := he.shorter
  rw [List.length_cons] at hlt
  obtain ⟨⟨vs, m, rfl, hs, -⟩, -⟩ := ih hts he
  rcases h' with ⟨hk, rfl, rfl⟩ | ⟨hk, es', hes, rfl⟩
  · refine ⟨vs ++ [u], maxPower, by simp, ?_, nextPower_le _⟩
    simpa [word_mark hk rfl] using Spells.lastItem hs
  · obtain ⟨ws, m', rfl, hs', -⟩ := ihk us.length (by omega) (by omega) hes rfl
    refine ⟨vs ++ u :: ws, maxPower, by simp, ?_, nextPower_le _⟩
    simpa [word_mark hk rfl] using Spells.item hs hs'

private theorem read_entries (ih : Sound rule stop n) {ts : List Token} {es : List (String × Expr)}
    (hts : ts.length ≤ n) (h : Gives (hashEntries rule stop ts) es rest) : Read rule (.entries es) ts rest := by
  induction hn : ts.length using Nat.strongRecOn generalizing ts es with | ind k ihk
  subst hn
  obtain ⟨t, c, key, e, u, us, vs, rfl, ht, hc, he, h'⟩ := gives_hashEntries.1 h
  have hlt := he.shorter
  simp only [List.length_cons] at hts hlt ihk
  obtain ⟨⟨ws, m, rfl, hs, -⟩, -⟩ := ih (by omega) he
  rcases h' with ⟨hk, rfl, rfl⟩ | ⟨hk, es', hes, rfl⟩
  · refine ⟨t :: c :: (ws ++ [u]), maxPower, by simp, ?_, nextPower_le _⟩
    simpa [word_mark hk rfl, word_mark hc rfl] using Spells.lastEntry ht hs
  · obtain ⟨xs, m', rfl, hs', -⟩ := ihk vs.length (by omega) (by omega) hes rfl
    refine ⟨t :: c :: (ws ++ u :: xs), maxPower, by simp, ?_, nextPower_le _⟩
    simpa [word_mark hk rfl, word_mark hc rfl] using Spells.entry ht hs hs'

private theorem read_arguments (ih : Sound rule stop n) {ts : List Token} {es : List Expr} (hts : ts.length ≤ n)
    (h : Gives (arguments rule stop ts) es rest) : Read rule (.args es) ts rest := by
  induction hn : ts.length using Nat.strongRecOn generalizing ts es with | ind k ihk
  subst hn
  by_cases hh : HeadIn [.rparen] (wordsOf ts)
  · cases ts with
    | nil => exact absurd hh id
    | cons t us =>
      have hk : t.kind = .rparen := by simpa [HeadIn] using hh
      obtain ⟨rfl, rfl⟩ := (gives_arguments_end hk).1 h
      refine ⟨[t], maxPower, rfl, ?_, nextPower_le _⟩
      simpa [word_mark hk rfl] using Spells.noArgs
  · obtain ⟨e, u, us, es', he, rfl, h'⟩ := (gives_arguments hh).1 h
    have hlt := he.shorter
    rw [List.length_cons] at hlt
    obtain ⟨⟨vs, m, rfl, hs, -⟩, hl⟩ := ih hts he
    rcases h' with ⟨hk, hes⟩ | ⟨hk, hes⟩
    · obtain ⟨ws, m', rfl, hs', -⟩ := ihk us.length (by omega) (by omega) hes rfl
      refine ⟨vs ++ u :: ws, maxPower, by simp, ?_, nextPower_le _⟩
      simpa [word_mark hk rfl] using Spells.arg hs hs'
    · -- the word behind the argument belongs to the next one
      obtain ⟨ws, m', hws, hs', -⟩ := ihk (us.length + 1) (by omega) (by simp only [List.length_cons]; omega) hes (by simp)
      obtain ⟨w, ws, rfl⟩ := cons_of_shorter (hws ▸ hes.shorter)
      obtain ⟨rfl, rfl⟩ := List.cons.inj hws
      refine ⟨vs ++ u :: ws, maxPower, by simp, ?_, nextPower_le _⟩
      rw [wordsOf_append]
      exact .bareArg hs hs' (Nat.le_zero.1 hl)

private theorem read_member (ih : Sound rule stop n) (hts : ts.length ≤ n)
    (h : Gives (member rule stop limit ts) e rest) : Read rule (.member limit e) ts rest := by
  by_cases hn : HeadIn [.quotedName, .name, .star] (wordsOf ts)
  · obtain ⟨⟨us, m, rfl, hs, hm⟩, hl⟩ := ih hts ((gives_member_name hn).1 h)
    obtain ⟨u, us, rfl⟩ := cons_of_shorter h.shorter
    exact ⟨u :: us, min limit m, rfl, .named hs hn, by omega⟩
  · cases ts with
    | nil => exact absurd h (not_gives_member id)
    | cons t ts =>
      simp only [List.length_cons] at hts
      by_cases hk : t.kind = .lbracket
      · obtain ⟨es, hes, rfl⟩ := (gives_member_list hk).1 h
        obtain ⟨us, m, rfl, hs, -⟩ := read_items ih (by omega) hes
        refine ⟨t :: us, maxPower, by simp, ?_, nextPower_le _⟩
        simpa [word_mark hk rfl] using Spells.memberList hs
      · by_cases hk' : t.kind = .lbrace
        · obtain ⟨es, hes, rfl⟩ := (gives_member_hash hk').1 h
          obtain ⟨us, m, rfl, hs, -⟩ := read_entries ih (by omega) hes
          refine ⟨t :: us, maxPower, by simp, ?_, nextPower_le _⟩
          simpa [word_mark hk' rfl] using Spells.memberHash hs
        · refine absurd h (not_gives_member ?_)
          simp only [wordsOf_cons, HeadIn, Token.word_kind, List.mem_cons, List.not_mem_nil, or_false] at hn ⊢
          simp [hk, hk', hn]

private theorem read_applied (ih : Sound rule stop n) (hts : ts.length ≤ n)
    (h : Gives (applied rule stop limit ts) e rest) : Read rule (.applied limit e) ts rest := by
  by_cases hp : nextPower ts < projectionPower
  · obtain ⟨rfl, rfl⟩ := (gives_applied_stop hp).1 h
    exact ⟨[], projectionPower - 1, rfl, .itself, by omega⟩
  · by_cases hh : HeadIn [.lbracket, .filter] (wordsOf ts)
    · obtain ⟨⟨us, m, rfl, hs, hm⟩, hl⟩ := ih hts ((gives_applied_bracket hh).1 h)
      obtain ⟨u, us, rfl⟩ := cons_of_shorter ((gives_applied_bracket hh).1 h).shorter
      exact ⟨u :: us, min limit m, rfl, .bracketed hs hh, by omega⟩
    · cases ts with
      | nil => simp [nextPower, projectionPower] at hp
      | cons t ts =>
        by_cases hk : t.kind = .dot
        · obtain ⟨us, m, rfl, hs, hm⟩ := read_member ih (Nat.le_of_succ_le hts) ((gives_applied_dot hk).1 h)
          refine ⟨t :: us, m, by simp, ?_, hm⟩
          simpa [word_mark hk rfl] using Spells.dotted hs
        · refine absurd h (not_gives_applied (Nat.le_of_not_lt hp) ?_)
          simp only [wordsOf_cons, HeadIn, Token.word_kind, List.mem_cons, List.not_mem_nil, or_false] at hh ⊢
          simp [hk, hh]

/-! A bracket is read in the same way after something and on its own: `us` spells what stands before it. -/

private theorem read_filtered (ih : Sound rule stop n) (hk : t.kind = .filter)
    (hl : Spells rule (.base limit .filter l) (wordsOf us) m) (hts : ts.length ≤ n)
    (h : Gives (filtered rule stop l ts) e rest) : Read rule (.expr limit e) (us ++ t :: ts) rest := by
  obtain ⟨c, u, vs, r, hc, hu, hr, rfl⟩ := gives_filtered.1 h
  have hlt := hc.shorter
  rw [List.length_cons] at hlt
  obtain ⟨⟨cs, m', rfl, hcs, -⟩, -⟩ := ih hts hc
  obtain ⟨ws, m'', rfl, hws, hm⟩ := read_applied ih (by omega) hr
  refine ⟨us ++ t :: (cs ++ u :: ws), m'', by simp, ?_, hm⟩
  simpa [word_mark hk rfl, word_mark hu rfl] using Spells.filter hl hcs hws

private theorem read_flatten {r : Expr} (ih : Sound rule stop n) (hk : t.kind = .flatten)
    (hl : Spells rule (.base limit .flatten l) (wordsOf us) m) (hts : ts.length ≤ n)
    (h : Gives (applied rule stop Token.Kind.flatten.power ts) r rest) :
    Read rule (.expr limit (.project (.flatten l) r)) (us ++ t :: ts) rest := by
  obtain ⟨ws, m', rfl, hws, hm⟩ := read_applied ih hts h
  refine ⟨us ++ t :: ws, m', by simp, ?_, hm⟩
  simpa [word_mark hk rfl] using Spells.flatten hl hws

private theorem read_elements {u v : Token} {r : Expr} (ih : Sound rule stop n) (hk : t.kind = .lbracket)
    (hu : u.kind = .star) (hv : v.kind = .rbracket) (hl : Spells rule (.base limit .lbracket l) (wordsOf us) m)
    (hts : ts.length ≤ n) (h : Gives (applied rule stop Token.Kind.star.power ts) r rest) :
    Read rule (.expr limit (.project l r)) (us ++ t :: u :: v :: ts) rest := by
  obtain ⟨ws, m', rfl, hws, hm⟩ := read_applied ih hts h
  refine ⟨us ++ t :: u :: v :: ws, m', by simp, ?_, hm⟩
  simpa [word_mark hk rfl, word_mark hu rfl, word_mark hv rfl] using Spells.elements hl hws

private theorem isSlice_of {u : Token} {bs : List Token} (ht : t.kind ≠ .rbracket)
    (hc : t.kind = .colon ∨ nextIs .colon ts = true) (hts : t :: ts = bs ++ u :: us) (hu : u.kind = .rbracket) :
    IsSlice (wordsOf bs) := by
  match bs with
  | [] =>
    cases hts
    exact absurd hu ht
  | [b] =>
    cases hts
    simpa [nextIs, hu, IsSlice] using hc
  | b :: c :: bs =>
    cases hts
    simpa [nextIs, IsSlice] using hc

private theorem read_indexed (ih : Sound rule stop n) (hk : t.kind = .lbracket)
    (hl : Spells rule (.base limit .lbracket l) (wordsOf us) m) (hts : ts.length ≤ n)
    (hh : HeadIn [.number, .colon] (wordsOf ts)) (h : Gives (indexed rule stop l ts) e rest) :
    Read rule (.expr limit e) (us ++ t :: ts) rest := by
  cases ts with
  | nil => exact absurd hh id
  | cons u ts =>
    by_cases hc : u.kind = .colon ∨ nextIs .colon ts = true
    · have hu : u.kind ≠ .rbracket := by
        intro hu
        simp [HeadIn, hu] at hh
      obtain ⟨b, vs, r, hb, hr, rfl⟩ := (gives_slice hc).1 h
      have hlt := hb.shorter
      obtain ⟨bs, v, hbs, hv, hb'⟩ := gives_bounds.1 hb
      obtain ⟨ws, m', rfl, hws, hm⟩ := read_applied ih (by omega) hr
      refine ⟨us ++ t :: (bs ++ v :: ws), m', by simp [hbs], ?_, hm⟩
      simpa [word_mark hk rfl, word_mark hv rfl] using Spells.slice hl (isSlice_of hu hc hbs hv) hb' hws
    · obtain ⟨i, v, hi, rfl, hv, rfl⟩ := (gives_index hc).1 h
      have hu : u.kind = .number := by
        simp only [wordsOf_cons, HeadIn, Token.word_kind, List.mem_cons, List.not_mem_nil, or_false] at hh
        exact hh.resolve_right fun h => hc (.inl h)
      refine ⟨us ++ [t, u, v], maxPower, by simp, ?_, nextPower_le _⟩
      simpa [word_mark hk rfl, word_mark hv rfl] using Spells.index hl ((number_word hu).1 hi)

private theorem elements_of_prefix (h : [Word.mark .star, Word.mark .rbracket] <+: wordsOf ts) :
    ∃ u v us, ts = u :: v :: us ∧ u.kind = .star ∧ v.kind = .rbracket := by
  obtain ⟨ws, hws⟩ := h
  obtain ⟨u, vs, rfl, hu, hvs⟩ := wordsOf_mark hws.symm
  obtain ⟨v, us, rfl, hv, -⟩ := wordsOf_mark hvs
  exact ⟨u, v, us, rfl, hu, hv⟩

private theorem read_operand (ih : Sound rule stop n) (hts : ts.length ≤ n) (limit : Nat)
    (h : Gives (operand rule stop t ts) e rest) : Read rule (.expr limit e) (t :: ts) rest := by
  have hb : ∀ {k}, Spells rule (.base limit k .current) (wordsOf []) maxPower := .nothing
  by_cases hk : t.kind ∈ [.json, .raw, .quotedName, .name, .current]
  · obtain ⟨rfl, m, hm, hle⟩ := (gives_operand_leaf hk).1 h
    exact ⟨[t], m, rfl, .leaf hm, hle⟩
  · cases hkind : t.kind
    case star =>
      obtain ⟨r, hr, rfl⟩ := (gives_operand_star hkind).1 h
      obtain ⟨us, m, rfl, hs, hm⟩ := read_applied ih hts hr
      refine ⟨t :: us, m, rfl, ?_, hm⟩
      simpa [word_mark hkind rfl] using Spells.values hs
    case filter => exact read_filtered ih hkind hb hts ((gives_operand_filter hkind).1 h)
    case lbrace =>
      obtain ⟨es, hes, rfl⟩ := (gives_operand_lbrace hkind).1 h
      obtain ⟨us, m, rfl, hs, -⟩ := read_entries ih hts hes
      refine ⟨t :: us, maxPower, rfl, ?_, nextPower_le _⟩
      simpa [word_mark hkind rfl] using Spells.hash hs
    case lparen =>
      obtain ⟨u, he, hu⟩ := (gives_operand_lparen hkind).1 h
      obtain ⟨⟨us, m, rfl, hs, -⟩, -⟩ := ih hts he
      refine ⟨t :: (us ++ [u]), maxPower, by simp, ?_, nextPower_le _⟩
      simpa [word_mark hkind rfl, word_mark hu rfl] using Spells.group hs
    case flatten =>
      obtain ⟨r, hr, rfl⟩ := (gives_operand_flatten hkind).1 h
      exact read_flatten ih hkind hb hts hr
    case not =>
      obtain ⟨r, hr, rfl⟩ := (gives_operand_not hkind).1 h
      obtain ⟨⟨us, m, rfl, hs, hm⟩, hl⟩ := ih hts hr
      refine ⟨t :: us, min Token.Kind.not.power m, rfl, ?_, by omega⟩
      simpa [word_mark hkind rfl] using Spells.not hs
    case reference =>
      obtain ⟨r, hr, rfl⟩ := (gives_operand_reference hkind).1 h
      obtain ⟨⟨us, m, rfl, hs, hm⟩, hl⟩ := ih hts hr
      refine ⟨t :: us, 0, rfl, ?_, hl⟩
      simpa [word_mark hkind rfl] using Spells.reference hs
    case lbracket =>
      by_cases hn : HeadIn [.number, .colon] (wordsOf ts)
      · cases ts with
        | nil => exact absurd hn id
        | cons u ts => exact read_indexed ih hkind hb hts hn ((gives_operand_index hkind hn).1 h)
      · by_cases hs : [Word.mark .star, Word.mark .rbracket] <+: wordsOf ts
        · obtain ⟨u, v, ts, rfl, hu, hv⟩ := elements_of_prefix hs
          obtain ⟨r, hr, rfl⟩ := (gives_operand_elements hkind hu hv).1 h
          simp only [List.length_cons] at hts
          exact read_elements ih hkind hu hv hb (by omega) hr
        · obtain ⟨es, hes, rfl⟩ := (gives_operand_list hkind hn hs).1 h
          obtain ⟨us, m, rfl, hes, -⟩ := read_items ih hts hes
          refine ⟨t :: us, maxPower, rfl, ?_, nextPower_le _⟩
          rw [wordsOf_cons, word_mark hkind rfl]
          refine .list hes fun hp => hs ?_
          rw [wordsOf_append]
          exact hp.trans (List.prefix_append _ _)
    all_goals exact absurd h (not_gives_operand (by simp_all))

private theorem read_binary {make : Expr → Expr → Expr} (ht : t.kind = k) (hk : binary? k = some make)
    (hspells : ∀ {r ws m'}, Spells rule (.expr k.power r) ws m' →
      Spells rule (.expr limit (make l r)) (wordsOf us ++ .mark k :: ws) (min k.power m'))
    (ih : Sound rule stop n) (hts : ts.length ≤ n) (h : Gives (operator rule stop t l ts) e rest) :
    Read rule (.expr limit e) (us ++ t :: ts) rest := by
  subst ht
  obtain ⟨r, hr, rfl⟩ := (gives_operator_binary hk).1 h
  obtain ⟨⟨vs, m', rfl, hs, hm⟩, hle⟩ := ih hts hr
  have hv : t.kind.isVariable = false := by
    cases hkind : t.kind <;> first | rfl | (rw [hkind] at hk; cases hk)
  refine ⟨us ++ t :: vs, min t.kind.power m', by simp, ?_, by omega⟩
  rw [wordsOf_append, wordsOf_cons, word_mark rfl hv]
  exact hspells hs

private theorem read_operator (ih : Sound rule stop n) (hl : Spells rule (.left limit t.kind l) (wordsOf us) m)
    (hts : ts.length ≤ n) (h : Gives (operator rule stop t l ts) e rest) :
    Read rule (.expr limit e) (us ++ t :: ts) rest := by
  cases hkind : t.kind
  case compare op => exact read_binary hkind rfl (.compare (hkind ▸ hl)) ih hts h
  case and => exact read_binary hkind rfl (.and (hkind ▸ hl)) ih hts h
  case or => exact read_binary hkind rfl (.or (hkind ▸ hl)) ih hts h
  case pipe => exact read_binary hkind rfl (.pipe (hkind ▸ hl)) ih hts h
  case dot =>
    rw [hkind] at hl
    by_cases hs : HeadIn [.star] (wordsOf ts)
    · cases ts with
      | nil => exact absurd hs id
      | cons u ts =>
        have hu : u.kind = .star := by simpa [HeadIn] using hs
        obtain ⟨r, hr, rfl⟩ := (gives_operator_values hkind hu).1 h
        obtain ⟨vs, m', rfl, hr, hm⟩ := read_applied ih (Nat.le_of_succ_le hts) hr
        refine ⟨us ++ t :: u :: vs, m', by simp, ?_, hm⟩
        simpa [word_mark hkind rfl, word_mark hu rfl] using Spells.valuesOf hl hr
    · obtain ⟨r, hr, rfl⟩ := (gives_operator_member hkind hs).1 h
      obtain ⟨vs, m', rfl, hr', hm⟩ := read_member ih hts hr
      obtain ⟨v, vs, rfl⟩ := cons_of_shorter hr.shorter
      refine ⟨us ++ t :: v :: vs, m', by simp, ?_, hm⟩
      rw [wordsOf_append, wordsOf_cons t, word_mark hkind rfl]
      exact .sub hl hr' hs
  case lparen =>
    rw [hkind] at hl
    obtain ⟨name, es, rfl, hes, rfl⟩ := (gives_operator_call hkind).1 h
    obtain ⟨vs, m', rfl, hs, -⟩ := read_arguments ih hts hes
    refine ⟨us ++ t :: vs, maxPower, by simp, ?_, nextPower_le _⟩
    simpa [word_mark hkind rfl] using Spells.call hl hs
  case filter => exact read_filtered ih hkind (.base (hkind ▸ hl)) hts ((gives_operator_filter hkind).1 h)
  case flatten =>
    obtain ⟨r, hr, rfl⟩ := (gives_operator_flatten hkind).1 h
    exact read_flatten ih hkind (.base (hkind ▸ hl)) hts hr
  case lbracket =>
    rw [hkind] at hl
    by_cases hn : HeadIn [.number, .colon] (wordsOf ts)
    · cases ts with
      | nil => exact absurd hn id
      | cons u ts => exact read_indexed ih hkind (.base hl) hts hn ((gives_operator_index hkind hn).1 h)
    · by_cases hs : HeadIn [.star] (wordsOf ts)
      · cases ts with
        | nil => exact absurd hs id
        | cons u ts =>
          have hu : u.kind = .star := by simpa [HeadIn] using hs
          obtain ⟨v, vs, r, rfl, hv, hr, rfl⟩ := (gives_operator_elements hkind hu).1 h
          simp only [List.length_cons] at hts
          exact read_elements ih hkind hu hv (.base hl) (by omega) hr
      · refine absurd h (not_gives_operator_bracket hkind fun hh => ?_)
        cases ts with
        | nil => exact hh
        | cons u ts =>
          simp only [wordsOf_cons, HeadIn, Token.word_kind, List.mem_cons, List.not_mem_nil, or_false] at hh hn hs
          exact hn (hh.elim .inl fun hh => hh.elim .inr fun hh => absurd hh hs)
  all_goals exact absurd h (not_gives_operator (by simp [hkind, Token.Kind.power]))

private theorem read_operators (ih : Sound rule stop n) (hl : Spells rule (.expr limit l) (wordsOf us) m)
    (hm : nextPower ts ≤ m) (hts : ts.length ≤ n) (h : Gives (operators rule stop limit l ts) e rest) :
    Read rule (.expr limit e) (us ++ ts) rest ∧ nextPower rest ≤ limit := by
  induction hn : ts.length using Nat.strongRecOn generalizing ts l us m with | ind k ihk
  subst hn
  by_cases hp : nextPower ts ≤ limit
  · obtain ⟨rfl, rfl⟩ := (gives_operators_stop hp).1 h
    exact ⟨⟨us, m, rfl, hl, hm⟩, hp⟩
  · cases ts with
    | nil => simp [nextPower] at hp
    | cons t ts =>
      have hlt : limit < t.kind.power := Nat.lt_of_not_le hp
      obtain ⟨x, vs, hx, he⟩ := (gives_operators_cons hlt).1 h
      have hlen := hx.shorter
      simp only [List.length_cons] at hts ihk
      obtain ⟨ws, m', hws, hs, hm'⟩ := read_operator ih (.left hl hlt hm) (by omega) hx
      rw [hws]
      exact ihk vs.length (by omega) hs hm' (by omega) he rfl

theorem sound (n : Nat) : Sound rule stop n := by
  induction n with
  | zero =>
    intro limit ts e rest hts h
    have hlt := h.shorter
    omega
  | succ n ih =>
    intro limit ts e rest hts h
    obtain ⟨t, us, l, vs, rfl, hl, he⟩ := gives_expression.1 h
    simp only [List.length_cons] at hts
    have hlen := hl.shorter
    obtain ⟨ws, m, hws, hs, hm⟩ := read_operand ih (by omega) limit hl
    rw [hws]
    exact read_operators ih hs hm (by omega) he

theorem all_ok_iff : all rule stop ts = .ok e ↔ ∃ m, Spells rule (.expr 0 e) (wordsOf ts) m := by
  constructor
  · intro h
    unfold all at h
    rcases hp : expression rule stop 0 ts with x | ⟨e', us, hlt⟩
    · rw [hp] at h
      cases h
    · rw [hp] at h
      cases us with
      | nil =>
        cases h
        obtain ⟨⟨us, m, hus, hs, -⟩, -⟩ := sound _ (Nat.le_refl _) ⟨hlt, hp⟩
        rw [List.append_nil] at hus
        exact ⟨m, hus ▸ hs⟩
      | cons u us => cases h
  · rintro ⟨m, hs⟩
    have hg : Gives (expression rule stop 0 (ts ++ [])) e [] :=
      gives_of_reads (reads stop hs ts rfl) (Nat.zero_le _) (Nat.zero_le _)
    rw [List.append_nil] at hg
    obtain ⟨_, hp⟩ := hg
    unfold all
    rw [hp]
    rfl

end Signpost.Query.Parser

namespace Signpost.Query

/-- A text is a query exactly if its words spell an expression, which is then what is read. -/
theorem Expr.ofTextWith_ok_iff {rule : Json.RealRule} {text : String} {e : Expr} : ofTextWith rule text = .ok e ↔
    ∃ ws m, words? text.toList = some ws ∧ Spells rule (.expr 0 e) ws m := by
  unfold ofTextWith words?
  cases Token.scan text.toList with
  | error offset => simp [Except.toOption]
  | ok ts => simp [Except.toOption, Parser.all_ok_iff]

/-- Words spell at most one expression. -/
theorem Spells.unique {rule : Json.RealRule} {e e' : Expr} {ts : List Token} {m m' : Nat}
    (h : Spells rule (.expr 0 e) (wordsOf ts) m) (h' : Spells rule (.expr 0 e') (wordsOf ts) m') : e = e' := by
  have h₁ : Parser.all rule 0 ts = .ok e := Parser.all_ok_iff.2 ⟨m, h⟩
  have h₂ : Parser.all rule 0 ts = .ok e' := Parser.all_ok_iff.2 ⟨m', h'⟩
  exact Except.ok.inj (h₁.symm.trans h₂)

end Signpost.Query
