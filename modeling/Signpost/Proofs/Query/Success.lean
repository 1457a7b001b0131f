import Signpost.Proofs.Query.Grammar

/-!
# When the readers of a query succeed

`Gives r a rest` says that a reader succeeds with `a` and leaves `rest`.  For each reader there is a lemma that
says when it does, in terms of the readers that it calls; nothing after this module opens a reader.
-/

namespace Signpost.Query.Parser

/-- The reader succeeds with `a` and leaves `rest`. -/
def Gives {α : Type} {n : Nat} (r : Result α n) (a : α) (rest : List Token) : Prop := ∃ h, r = .ok ⟨a, rest, h⟩

theorem Gives.shorter {α : Type} {n : Nat} {r : Result α n} {a : α} {rest : List Token} (h : Gives r a rest) :
    rest.length < n := h.1

private theorem bind_ok {ε α β : Type} {x : Except ε α} {f : α → Except ε β} {b : β} :
    x >>= f = .ok b ↔ ∃ a, x = .ok a ∧ f a = .ok b := by
  cases x <;> simp [bind, Except.bind]

private theorem gives_ok {α : Type} {n : Nat} {a b : α} {us vs : List Token} {h : us.length < n} :
    Gives (.ok ⟨a, us, h⟩ : Result α n) b vs ↔ a = b ∧ us = vs := by
  constructor
  · rintro ⟨_, h⟩
    cases h
    exact ⟨rfl, rfl⟩
  · rintro ⟨rfl, rfl⟩
    exact ⟨h, rfl⟩

private theorem gives_error {α : Type} {n : Nat} {x : SyntaxError} {b : α} {vs : List Token} :
    ¬ Gives (.error x : Result α n) b vs := by
  rintro ⟨_, h⟩
  cases h

private theorem gives_weaken {α : Type} {m n : Nat} {r : Result α m} {h : m ≤ n} {a : α} {rest : List Token} :
    Gives (r >>= fun p => pure (p.weaken h)) a rest ↔ Gives r a rest := by
  constructor
  · rintro ⟨_, h'⟩
    obtain ⟨⟨b, us, hu⟩, hr, hp⟩ := bind_ok.1 h'
    cases hp
    exact ⟨hu, hr⟩
  · rintro ⟨hu, hr⟩
    exact ⟨Nat.lt_of_lt_of_le hu h, bind_ok.2 ⟨_, hr, rfl⟩⟩

private theorem gives_map {α β : Type} {n : Nat} {r : Result α n} {f : α → β} {b : β} {rest : List Token} :
    Gives (r >>= fun p => pure (p.map f)) b rest ↔ ∃ a, Gives r a rest ∧ f a = b := by
  constructor
  · rintro ⟨_, h'⟩
    obtain ⟨⟨a, us, hu⟩, hr, hp⟩ := bind_ok.1 h'
    cases hp
    exact ⟨a, ⟨hu, hr⟩, rfl⟩
  · rintro ⟨a, ⟨hu, hr⟩, rfl⟩
    exact ⟨hu, bind_ok.2 ⟨_, hr, rfl⟩⟩

private theorem gives_map_weaken {α β : Type} {m n : Nat} {r : Result α m} {f : α → β} {h : m ≤ n} {b : β}
    {rest : List Token} :
    Gives (r >>= fun p => pure ((p.map f).weaken h)) b rest ↔ ∃ a, Gives r a rest ∧ f a = b := by
  constructor
  · rintro ⟨_, h'⟩
    obtain ⟨⟨a, us, hu⟩, hr, hp⟩ := bind_ok.1 h'
    cases hp
    exact ⟨a, ⟨hu, hr⟩, rfl⟩
  · rintro ⟨a, ⟨hu, hr⟩, rfl⟩
    exact ⟨Nat.lt_of_lt_of_le hu h, bind_ok.2 ⟨_, hr, rfl⟩⟩

variable {rule : Json.RealRule} {stop limit : Nat} {t : Token} {ts rest : List Token} {left e : Expr}

theorem gives_expect {k : Token.Kind} :
    Gives (expect stop k ts) t rest ↔ ts = t :: rest ∧ t.kind = k := by
  cases ts with
  | nil => simp [expect, gives_error]
  | cons u us =>
    by_cases hk : u.kind = k
    · simp only [expect, hk, if_true, gives_ok, List.cons.injEq]
      constructor
      · rintro ⟨rfl, rfl⟩
        exact ⟨⟨rfl, rfl⟩, hk⟩
      · rintro ⟨h, -⟩
        exact h
    · simp only [expect, hk, if_false, gives_error, false_iff, List.cons.injEq, not_and]
      rintro ⟨rfl, rfl⟩
      exact hk

private theorem gives_expect_cons (stop : Nat) {k : Token.Kind} (h : t.kind = k) :
    Gives (expect stop k (t :: rest)) t rest := gives_expect.2 ⟨rfl, h⟩

theorem gives_expression : Gives (expression rule stop limit ts) e rest ↔
    ∃ t us l vs, ts = t :: us ∧ Gives (operand rule stop t us) l vs ∧
      Gives (operators rule stop limit l vs) e rest := by
  cases ts with
  | nil => simp [expression, gives_error]
  | cons t us =>
    rw [expression]
    constructor
    · rintro ⟨_, h⟩
      obtain ⟨⟨l, vs, hl⟩, h₁, h'⟩ := bind_ok.1 h
      obtain ⟨⟨e', ws, he⟩, h₂, hp⟩ := bind_ok.1 h'
      cases hp
      exact ⟨t, us, l, vs, rfl, ⟨hl, h₁⟩, ⟨he, h₂⟩⟩
    · rintro ⟨_, _, l, vs, h, ⟨hl, h₁⟩, ⟨he, h₂⟩⟩
      cases h
      exact ⟨by simp only [List.length_cons]; omega, bind_ok.2 ⟨_, h₁, bind_ok.2 ⟨_, h₂, rfl⟩⟩⟩

theorem gives_operators_stop (h : nextPower ts ≤ limit) :
    Gives (operators rule stop limit left ts) e rest ↔ left = e ∧ ts = rest := by
  cases ts with
  | nil => rw [operators, gives_ok]
  | cons t us =>
    rw [operators, if_neg (by simpa [nextPower] using h), gives_ok]

theorem gives_operators_cons (h : limit < t.kind.power) :
    Gives (operators rule stop limit left (t :: ts)) e rest ↔
      ∃ l vs, Gives (operator rule stop t left ts) l vs ∧ Gives (operators rule stop limit l vs) e rest := by
  rw [operators, if_pos h]
  constructor
  · rintro ⟨_, h⟩
    obtain ⟨⟨l, vs, hl⟩, h₁, h'⟩ := bind_ok.1 h
    obtain ⟨⟨e', ws, he⟩, h₂, hp⟩ := bind_ok.1 h'
    cases hp
    exact ⟨l, vs, ⟨hl, h₁⟩, ⟨he, h₂⟩⟩
  · rintro ⟨l, vs, ⟨hl, h₁⟩, ⟨he, h₂⟩⟩
    exact ⟨by simp only [List.length_cons]; omega, bind_ok.2 ⟨_, h₁, bind_ok.2 ⟨_, h₂, rfl⟩⟩⟩

/-! ### Operands -/

private theorem power_lt_max {k : Token.Kind} (h : k ≠ .lparen) : k.power ≤ maxPower - 1 := by
  cases k <;> simp_all [Token.Kind.power, maxPower]

private theorem nextIs_lparen : nextIs .lparen ts = false ↔ nextPower ts ≤ maxPower - 1 := by
  cases ts with
  | nil => simp [nextIs, nextPower]
  | cons t us =>
    by_cases h : t.kind = .lparen
    · simp [nextIs, nextPower, h, Token.Kind.power, maxPower]
    · simpa [nextIs, nextPower, h] using power_lt_max h

theorem nextPower_le (ts : List Token) : nextPower ts ≤ maxPower := by
  cases ts with
  | nil => simp [nextPower]
  | cons t us => exact t.kind.power_le

private theorem token_word (h : t.kind.isVariable = true) : t.word.token = ⟨t.kind, t.lexeme, 0⟩ := by
  simp [Token.word, Word.of, Word.token, h]

private theorem quotedText_word (h : t.kind = .quotedName) {name : String} :
    t.quotedText = .ok name ↔ t.word.token.quotedText.toOption = some name := by
  rw [token_word (by simp [h, Token.Kind.isVariable])]
  unfold Token.quotedText
  rcases Token.jsonString t.lexeme with f | s <;> simp [Except.toOption]

private theorem literal_word (h : t.kind = .json) {l : Literal} :
    t.literal rule = .ok l ↔ (t.word.token.literal rule).toOption = some l := by
  rw [token_word (by simp [h, Token.Kind.isVariable])]
  unfold Token.literal
  simp only [Token.inner]
  split
  · simp [Except.toOption]
  · split <;> simp [Except.toOption]

theorem number_word (h : t.kind = .number) {n : Int} : t.number = .ok n ↔ t.word.number? = some n := by
  unfold Word.number?
  rw [Token.word_kind, if_pos h, token_word (by simp [h, Token.Kind.isVariable])]
  simp only [Token.number]
  split <;> split <;> simp [Except.toOption]

private theorem map_ok {ε α β : Type} {x : Except ε α} {f : α → β} {b : β} :
    x.map f = .ok b ↔ ∃ a, x = .ok a ∧ f a = b := by
  cases x <;> simp [Except.map]

private theorem gives_free {n : Nat} {h : ts.length < n} {a : Expr} :
    Gives (.ok ⟨a, ts, h⟩ : Result Expr n) e rest ↔
      ts = rest ∧ ∃ m, some (a, maxPower) = some (e, m) ∧ nextPower ts ≤ m := by
  rw [gives_ok]
  constructor
  · rintro ⟨rfl, rfl⟩
    exact ⟨rfl, _, rfl, nextPower_le ts⟩
  · rintro ⟨rfl, m, hm, -⟩
    cases hm
    exact ⟨rfl, rfl⟩

/-- An operand of one word. -/
theorem gives_operand_leaf (hk : t.kind ∈ [.json, .raw, .quotedName, .name, .current]) :
    Gives (operand rule stop t ts) e rest ↔
      ts = rest ∧ ∃ m, t.word.leaf? rule = some (e, m) ∧ nextPower ts ≤ m := by
  rw [operand.eq_def]
  simp only [List.mem_cons, List.not_mem_nil, or_false] at hk
  unfold Word.leaf?
  rcases hk with hk | hk | hk | hk | hk <;> simp only [hk, Token.word_kind]
  · constructor
    · rintro ⟨_, h⟩
      obtain ⟨l, hl, hp⟩ := map_ok.1 h
      cases hp
      exact ⟨rfl, _, by rw [(literal_word hk).1 hl]; rfl, nextPower_le _⟩
    · rintro ⟨rfl, m, hm, -⟩
      obtain ⟨l, hl, hp⟩ := Option.map_eq_some_iff.1 hm
      cases hp
      exact ⟨by simp, map_ok.2 ⟨l, (literal_word hk).2 hl, rfl⟩⟩
  · rw [token_word (by simp [hk, Token.Kind.isVariable])]
    exact gives_free
  · by_cases hn : nextIs .lparen ts = true
    · rw [if_pos hn]
      simp only [gives_error, false_iff, not_and, not_exists]
      rintro rfl m hm
      obtain ⟨name, -, hp⟩ := Option.map_eq_some_iff.1 hm
      cases hp
      rw [← nextIs_lparen]
      simp [hn]
    · rw [if_neg hn]
      have hle := nextIs_lparen.1 (by simpa using hn)
      constructor
      · rintro ⟨_, h⟩
        obtain ⟨name, hname, hp⟩ := map_ok.1 h
        cases hp
        exact ⟨rfl, _, by rw [(quotedText_word hk).1 hname]; rfl, hle⟩
      · rintro ⟨rfl, m, hm, -⟩
        obtain ⟨name, hname, hp⟩ := Option.map_eq_some_iff.1 hm
        cases hp
        exact ⟨by simp, map_ok.2 ⟨name, (quotedText_word hk).2 hname, rfl⟩⟩
  · rw [token_word (by simp [hk, Token.Kind.isVariable])]
    exact gives_free
  · exact gives_free

theorem gives_operand_star (hk : t.kind = .star) : Gives (operand rule stop t ts) e rest ↔
    ∃ r, Gives (applied rule stop Token.Kind.star.power ts) r rest ∧ .projectValues .current r = e := by
  rw [operand.eq_def]
  simp only [hk]
  by_cases hn : nextIs .rbracket ts = true
  · obtain ⟨u, us, rfl, hu⟩ : ∃ u us, ts = u :: us ∧ u.kind = .rbracket := by
      cases ts with
      | nil => simp [nextIs] at hn
      | cons u us => exact ⟨u, us, rfl, by simpa [nextIs] using hn⟩
    rw [if_pos hn, applied, if_pos (by simp [hu, Token.Kind.power, projectionPower])]
    simp only [gives_ok]
    constructor
    · rintro ⟨rfl, rfl⟩
      exact ⟨_, ⟨rfl, rfl⟩, rfl⟩
    · rintro ⟨_, ⟨rfl, rfl⟩, rfl⟩
      exact ⟨rfl, rfl⟩
  · rw [if_neg hn, gives_map]

theorem gives_operand_filter (hk : t.kind = .filter) : Gives (operand rule stop t ts) e rest ↔
    Gives (filtered rule stop .current ts) e rest := by
  rw [operand.eq_def]
  simp only [hk, gives_weaken]

theorem gives_operand_lbrace (hk : t.kind = .lbrace) : Gives (operand rule stop t ts) e rest ↔
    ∃ es, Gives (hashEntries rule stop ts) es rest ∧ .hash es = e := by
  rw [operand.eq_def]
  simp only [hk, gives_map_weaken]

theorem gives_operand_lparen (hk : t.kind = .lparen) : Gives (operand rule stop t ts) e rest ↔
    ∃ u, Gives (expression rule stop 0 ts) e (u :: rest) ∧ u.kind = .rparen := by
  rw [operand.eq_def]
  simp only [hk]
  constructor
  · rintro ⟨_, h⟩
    obtain ⟨⟨e', us, he⟩, h₁, h'⟩ := bind_ok.1 h
    obtain ⟨⟨u, vs, hu⟩, h₂, hp⟩ := bind_ok.1 h'
    cases hp
    obtain ⟨hu', hk⟩ := gives_expect.1 ⟨hu, h₂⟩
    exact ⟨u, hu' ▸ ⟨he, h₁⟩, hk⟩
  · rintro ⟨u, ⟨he, h₁⟩, hu⟩
    obtain ⟨hr, h₂⟩ := gives_expect_cons stop hu
    exact ⟨by simp at he; omega, bind_ok.2 ⟨_, h₁, bind_ok.2 ⟨_, h₂, rfl⟩⟩⟩

theorem gives_operand_flatten (hk : t.kind = .flatten) : Gives (operand rule stop t ts) e rest ↔
    ∃ r, Gives (applied rule stop Token.Kind.flatten.power ts) r rest ∧
      .project (.flatten .current) r = e := by
  rw [operand.eq_def]
  simp only [hk, gives_map]

theorem gives_operand_not (hk : t.kind = .not) : Gives (operand rule stop t ts) e rest ↔
    ∃ r, Gives (expression rule stop Token.Kind.not.power ts) r rest ∧ .not r = e := by
  rw [operand.eq_def]
  simp only [hk, gives_map_weaken]

theorem gives_operand_reference (hk : t.kind = .reference) : Gives (operand rule stop t ts) e rest ↔
    ∃ r, Gives (expression rule stop 0 ts) r rest ∧ .reference r = e := by
  rw [operand.eq_def]
  simp only [hk, gives_map_weaken, Token.Kind.power]

theorem gives_operand_index {u : Token} (hk : t.kind = .lbracket) (hu : u.kind ∈ [.number, .colon]) :
    Gives (operand rule stop t (u :: ts)) e rest ↔ Gives (indexed rule stop .current (u :: ts)) e rest := by
  rw [operand.eq_def]
  simp only [List.mem_cons, List.not_mem_nil, or_false] at hu
  rcases hu with hu | hu <;> simp only [hk, hu, gives_weaken]

theorem gives_operand_elements {u v : Token} (hk : t.kind = .lbracket) (hu : u.kind = .star)
    (hv : v.kind = .rbracket) : Gives (operand rule stop t (u :: v :: ts)) e rest ↔
      ∃ r, Gives (applied rule stop Token.Kind.star.power ts) r rest ∧ .project .current r = e := by
  rw [operand.eq_def]
  simp only [hk, hu, hv, if_true, gives_map_weaken]

theorem gives_operand_list (hk : t.kind = .lbracket) (hn : ¬ HeadIn [.number, .colon] (wordsOf ts))
    (hs : ¬ [Word.mark .star, Word.mark .rbracket] <+: wordsOf ts) :
    Gives (operand rule stop t ts) e rest ↔ ∃ es, Gives (listItems rule stop ts) es rest ∧ .list es = e := by
  rw [operand.eq_def]
  simp only [hk]
  cases ts with
  | nil =>
    rw [listItems, expression]
    simp [gives_error, bind, Except.bind]
  | cons u us =>
    simp only [wordsOf_cons, HeadIn, Token.word_kind, List.mem_cons, List.not_mem_nil, or_false, not_or] at hn
    dsimp only
    split
    · exact absurd ‹_› hn.1
    · exact absurd ‹_› hn.2
    · cases us with
      | nil => simp only [gives_map_weaken]
      | cons v vs =>
        have hv : v.kind ≠ .rbracket := by
          intro hv
          apply hs
          simp [wordsOf_cons, (Token.word_eq_mark (k := .star) rfl).2 ‹_›,
            (Token.word_eq_mark (k := .rbracket) rfl).2 hv]
        simp only [hv, if_false, gives_map_weaken]
    · simp only [gives_map_weaken]

/-- Nothing else starts an expression. -/
theorem not_gives_operand (hk : t.kind ∉ [.json, .raw, .quotedName, .name, .current, .star, .filter, .lbrace, .lparen,
    .flatten, .not, .reference, .lbracket]) : ¬ Gives (operand rule stop t ts) e rest := by
  rw [operand.eq_def]
  split <;> simp_all [gives_error]

/-! ### Operators -/

/-- What an operator between two operands makes of them. -/
def binary? : Token.Kind → Option (Expr → Expr → Expr)
  | .compare op => some (.compare op)
  | .and => some .and
  | .or => some .or
  | .pipe => some .pipe
  | _ => none

theorem gives_operator_binary {make : Expr → Expr → Expr} (hk : binary? t.kind = some make) :
    Gives (operator rule stop t left ts) e rest ↔
      ∃ r, Gives (expression rule stop t.kind.power ts) r rest ∧ make left r = e := by
  rw [operator.eq_def]
  cases hkind : t.kind with
  | compare | and | or | pipe =>
    rw [hkind] at hk
    cases hk
    simp only [gives_map_weaken]
  | _ =>
    rw [hkind] at hk
    cases hk

theorem gives_operator_values {u : Token} (hk : t.kind = .dot) (hu : u.kind = .star) :
    Gives (operator rule stop t left (u :: ts)) e rest ↔
      ∃ r, Gives (applied rule stop Token.Kind.dot.power ts) r rest ∧ .projectValues left r = e := by
  rw [operator.eq_def]
  simp only [hk, hu, if_true, gives_map_weaken]

theorem gives_operator_member (hk : t.kind = .dot) (hs : ¬ HeadIn [.star] (wordsOf ts)) :
    Gives (operator rule stop t left ts) e rest ↔
      ∃ r, Gives (member rule stop Token.Kind.dot.power ts) r rest ∧ .sub left r = e := by
  rw [operator.eq_def]
  simp only [hk]
  cases ts with
  | nil =>
    rw [member]
    simp [gives_error]
  | cons u us =>
    have hu : u.kind ≠ .star := by simpa [HeadIn] using hs
    simp only [hu, if_false, gives_map_weaken]

theorem gives_operator_call (hk : t.kind = .lparen) : Gives (operator rule stop t left ts) e rest ↔
    ∃ name es, left = .field name ∧ Gives (arguments rule stop ts) es rest ∧ .call name es = e := by
  rw [operator.eq_def]
  simp only [hk]
  split
  · simp only [gives_map_weaken, Expr.field.injEq]
    constructor
    · rintro ⟨es, hes, rfl⟩
      exact ⟨_, es, rfl, hes, rfl⟩
    · rintro ⟨name, es, rfl, hes, rfl⟩
      exact ⟨es, hes, rfl⟩
  · rename_i hf
    simp only [gives_error, false_iff, not_exists]
    rintro name es ⟨rfl, -⟩
    exact hf name rfl

theorem gives_operator_filter (hk : t.kind = .filter) : Gives (operator rule stop t left ts) e rest ↔
    Gives (filtered rule stop left ts) e rest := by
  rw [operator.eq_def]
  simp only [hk, gives_weaken]

theorem gives_operator_flatten (hk : t.kind = .flatten) : Gives (operator rule stop t left ts) e rest ↔
    ∃ r, Gives (applied rule stop Token.Kind.flatten.power ts) r rest ∧ .project (.flatten left) r = e := by
  rw [operator.eq_def]
  simp only [hk, gives_map]

theorem gives_operator_index {u : Token} (hk : t.kind = .lbracket) (hu : u.kind ∈ [.number, .colon]) :
    Gives (operator rule stop t left (u :: ts)) e rest ↔ Gives (indexed rule stop left (u :: ts)) e rest := by
  rw [operator.eq_def]
  simp only [List.mem_cons, List.not_mem_nil, or_false] at hu
  rcases hu with hu | hu <;> simp only [hk, hu, gives_weaken]

theorem gives_operator_elements {u : Token} (hk : t.kind = .lbracket) (hu : u.kind = .star) :
    Gives (operator rule stop t left (u :: ts)) e rest ↔
      ∃ v us r, ts = v :: us ∧ v.kind = .rbracket ∧ Gives (applied rule stop Token.Kind.star.power us) r rest ∧
        .project left r = e := by
  rw [operator.eq_def]
  simp only [hk, hu]
  constructor
  · rintro ⟨_, h⟩
    obtain ⟨⟨v, us, hv⟩, h₁, h'⟩ := bind_ok.1 h
    obtain ⟨⟨r, vs, hr⟩, h₂, hp⟩ := bind_ok.1 h'
    cases hp
    obtain ⟨hts, hk⟩ := gives_expect.1 ⟨hv, h₁⟩
    exact ⟨v, us, r, hts, hk, ⟨hr, h₂⟩, rfl⟩
  · rintro ⟨v, us, r, rfl, hv, ⟨hr, h₂⟩, rfl⟩
    obtain ⟨hv', h₁⟩ := gives_expect_cons stop hv
    exact ⟨by simp only [List.length_cons]; omega, bind_ok.2 ⟨_, h₁, bind_ok.2 ⟨_, h₂, rfl⟩⟩⟩

theorem not_gives_operator_bracket (hk : t.kind = .lbracket) (hn : ¬ HeadIn [.number, .colon, .star] (wordsOf ts)) :
    ¬ Gives (operator rule stop t left ts) e rest := by
  rw [operator.eq_def]
  simp only [hk]
  cases ts with
  | nil => exact gives_error
  | cons u us =>
    simp only [wordsOf_cons, HeadIn, Token.word_kind, List.mem_cons, List.not_mem_nil, or_false, not_or] at hn
    dsimp only
    split
    · exact absurd ‹_› hn.1
    · exact absurd ‹_› hn.2.1
    · exact absurd ‹_› hn.2.2
    · exact gives_error

/-- Nothing else is an operator. -/
theorem not_gives_operator (hk : t.kind.power = 0 ∨ t.kind ∈ [.star, .not, .lbrace]) :
    ¬ Gives (operator rule stop t left ts) e rest := by
  rw [operator.eq_def]
  split <;> simp_all [Token.Kind.power, gives_error]

/-! ### What follows an operator -/

theorem gives_applied_stop (h : nextPower ts < projectionPower) :
    Gives (applied rule stop limit ts) e rest ↔ .current = e ∧ ts = rest := by
  cases ts with
  | nil => rw [applied, gives_ok]
  | cons t us => rw [applied, if_pos (by simpa [nextPower] using h), gives_ok]

theorem gives_applied_bracket (h : HeadIn [.lbracket, .filter] (wordsOf ts)) :
    Gives (applied rule stop limit ts) e rest ↔ Gives (expression rule stop limit ts) e rest := by
  cases ts with
  | nil => exact absurd h id
  | cons t us =>
    have hk : t.kind = .lbracket ∨ t.kind = .filter := by simpa [HeadIn] using h
    rw [applied, if_neg, if_pos hk, gives_weaken]
    rcases hk with hk | hk <;> simp [hk, Token.Kind.power, projectionPower]

theorem gives_applied_dot (h : t.kind = .dot) :
    Gives (applied rule stop limit (t :: ts)) e rest ↔ Gives (member rule stop limit ts) e rest := by
  rw [applied, if_neg (by simp [h, Token.Kind.power, projectionPower]), if_neg (by simp [h]), if_pos h, gives_weaken]

theorem not_gives_applied (h : projectionPower ≤ nextPower ts)
    (hn : ¬ HeadIn [.lbracket, .filter, .dot] (wordsOf ts)) : ¬ Gives (applied rule stop limit ts) e rest := by
  cases ts with
  | nil => simp [nextPower, projectionPower] at h
  | cons t us =>
    simp only [wordsOf_cons, HeadIn, Token.word_kind, List.mem_cons, List.not_mem_nil, or_false, not_or] at hn
    rw [applied, if_neg (by simpa [nextPower] using h), if_neg (by simp [hn]), if_neg hn.2.2]
    exact gives_error

theorem gives_member_name (h : HeadIn [.quotedName, .name, .star] (wordsOf ts)) :
    Gives (member rule stop limit ts) e rest ↔ Gives (expression rule stop limit ts) e rest := by
  cases ts with
  | nil => exact absurd h id
  | cons t us =>
    have hk : t.kind = .quotedName ∨ t.kind = .name ∨ t.kind = .star := by simpa [HeadIn] using h
    rw [member]
    rcases hk with hk | hk | hk <;> simp only [hk]

theorem gives_member_list (h : t.kind = .lbracket) : Gives (member rule stop limit (t :: ts)) e rest ↔
    ∃ es, Gives (listItems rule stop ts) es rest ∧ .list es = e := by
  rw [member]
  simp only [h, gives_map_weaken]

theorem gives_member_hash (h : t.kind = .lbrace) : Gives (member rule stop limit (t :: ts)) e rest ↔
    ∃ es, Gives (hashEntries rule stop ts) es rest ∧ .hash es = e := by
  rw [member]
  simp only [h, gives_map_weaken]

theorem not_gives_member (hn : ¬ HeadIn [.quotedName, .name, .star, .lbracket, .lbrace] (wordsOf ts)) :
    ¬ Gives (member rule stop limit ts) e rest := by
  cases ts with
  | nil =>
    rw [member]
    exact gives_error
  | cons t us =>
    simp only [wordsOf_cons, HeadIn, Token.word_kind, List.mem_cons, List.not_mem_nil, or_false, not_or] at hn
    rw [member]
    split <;> simp_all [gives_error]

private theorem nextIs_flatten (h : nextIs .flatten ts = true) : nextPower ts < projectionPower := by
  cases ts with
  | nil => simp [nextIs] at h
  | cons t us =>
    have hk : t.kind = .flatten := by simpa [nextIs] using h
    simp [nextPower, hk, Token.Kind.power, projectionPower]

theorem gives_filtered : Gives (filtered rule stop left ts) e rest ↔
    ∃ c u us r, Gives (expression rule stop 0 ts) c (u :: us) ∧ u.kind = .rbracket ∧
      Gives (applied rule stop Token.Kind.filter.power us) r rest ∧ .filter left r c = e := by
  rw [filtered.eq_def]
  constructor
  · rintro ⟨_, h⟩
    obtain ⟨⟨c, us, hc⟩, h₁, h'⟩ := bind_ok.1 h
    obtain ⟨⟨u, vs, hu⟩, h₂, h''⟩ := bind_ok.1 h'
    obtain ⟨rfl, hk⟩ := gives_expect.1 ⟨hu, h₂⟩
    dsimp only at h''
    split at h''
    · rename_i hn
      cases h''
      exact ⟨c, u, rest, .current, ⟨hc, h₁⟩, hk, (gives_applied_stop (nextIs_flatten hn)).2 ⟨rfl, rfl⟩, rfl⟩
    · obtain ⟨⟨r, ws, hr⟩, h₃, hp⟩ := bind_ok.1 h''
      cases hp
      exact ⟨c, u, vs, r, ⟨hc, h₁⟩, hk, ⟨hr, h₃⟩, rfl⟩
  · rintro ⟨c, u, us, r, ⟨hc, h₁⟩, hk, hr, rfl⟩
    obtain ⟨hu, h₂⟩ := gives_expect_cons stop hk
    have hlt := hr.shorter
    refine ⟨by simp at hc; omega, bind_ok.2 ⟨_, h₁, bind_ok.2 ⟨_, h₂, ?_⟩⟩⟩
    dsimp only
    split
    · rename_i hn
      obtain ⟨rfl, rfl⟩ := (gives_applied_stop (nextIs_flatten hn)).1 hr
      rfl
    · obtain ⟨hr, h₃⟩ := hr
      exact bind_ok.2 ⟨_, h₃, rfl⟩

private theorem gives_bounds_cons {b' : Bounds} {m n : Nat} {r : Result Bounds m} {h : m ≤ n} :
    Gives (r.map (·.weaken h) : Result Bounds n) b' rest ↔ Gives r b' rest := by
  cases r with
  | error x => simp [Except.map, gives_error]
  | ok p =>
    obtain ⟨b, us, hu⟩ := p
    exact gives_ok.trans gives_ok.symm

theorem gives_bounds {b b' : Bounds} : Gives (bounds stop b ts) b' rest ↔
    ∃ us u, ts = us ++ u :: rest ∧ u.kind = .rbracket ∧ boundsOf? b (wordsOf us) = some b' := by
  induction ts generalizing b with
  | nil => simp [bounds, gives_error]
  | cons t ts ih =>
    have hcons : (∃ us u, t :: ts = us ++ u :: rest ∧ u.kind = .rbracket ∧ boundsOf? b (wordsOf us) = some b') ↔
        (t.kind = .rbracket ∧ ts = rest ∧ b = b') ∨
          ∃ us u, ts = us ++ u :: rest ∧ u.kind = .rbracket ∧ boundsOf? b (wordsOf (t :: us)) = some b' := by
      constructor
      · rintro ⟨us, u, h, hk, hb⟩
        cases us with
        | nil =>
          cases h
          exact .inl ⟨hk, rfl, by simpa [boundsOf?] using hb⟩
        | cons v us =>
          cases h
          exact .inr ⟨us, u, rfl, hk, hb⟩
      · rintro (⟨hk, rfl, rfl⟩ | ⟨us, u, rfl, hk, hb⟩)
        · exact ⟨[], t, rfl, hk, rfl⟩
        · exact ⟨t :: us, u, rfl, hk, hb⟩
    rw [hcons]
    simp only [wordsOf_cons, boundsOf?, Token.word_kind]
    rw [bounds]
    split <;> rename_i hk
    · simp [hk, gives_ok, Word.number?, and_comm]
    · by_cases hp : b.place < 2
      · rw [if_pos hp, gives_bounds_cons, ih]
        simp [hk, hp]
      · simp [hk, hp, gives_error]
    · simp only [hk, reduceCtorEq, false_and, false_or, if_false]
      split <;> rename_i hn
      · have hw : t.word.number? = none := by
          rw [Option.eq_none_iff_forall_ne_some]
          intro n h
          rw [← number_word hk, hn] at h
          cases h
        simp [hw, gives_error]
      · rw [(number_word hk).1 hn]
        exact gives_bounds_cons.trans ih
    · simp_all [Word.number?, gives_error]

theorem gives_slice (hs : t.kind = .colon ∨ nextIs .colon ts = true) :
    Gives (indexed rule stop left (t :: ts)) e rest ↔
      ∃ b us r, Gives (bounds stop ⟨none, none, none, 0⟩ (t :: ts)) b us ∧
        Gives (applied rule stop Token.Kind.star.power us) r rest ∧
          .project (.slice left b.start b.stop b.step) r = e := by
  rw [indexed, if_pos hs]
  constructor
  · rintro ⟨_, h⟩
    obtain ⟨⟨b, us, hb⟩, h₁, h'⟩ := bind_ok.1 h
    obtain ⟨⟨r, vs, hr⟩, h₂, hp⟩ := bind_ok.1 h'
    cases hp
    exact ⟨b, us, r, ⟨hb, h₁⟩, ⟨hr, h₂⟩, rfl⟩
  · rintro ⟨b, us, r, ⟨hb, h₁⟩, ⟨hr, h₂⟩, rfl⟩
    exact ⟨by simp at hb ⊢; omega, bind_ok.2 ⟨_, h₁, bind_ok.2 ⟨_, h₂, rfl⟩⟩⟩

theorem gives_index (hs : ¬ (t.kind = .colon ∨ nextIs .colon ts = true)) :
    Gives (indexed rule stop left (t :: ts)) e rest ↔
      ∃ n u, t.number = .ok n ∧ ts = u :: rest ∧ u.kind = .rbracket ∧ .index left n = e := by
  rw [indexed, if_neg hs]
  constructor
  · rintro ⟨_, h⟩
    obtain ⟨n, h₁, h'⟩ := bind_ok.1 h
    obtain ⟨⟨u, us, hu⟩, h₂, hp⟩ := bind_ok.1 h'
    cases hp
    obtain ⟨hts, hk⟩ := gives_expect.1 ⟨hu, h₂⟩
    exact ⟨n, u, h₁, hts, hk, rfl⟩
  · rintro ⟨n, u, h₁, rfl, hk, rfl⟩
    obtain ⟨hu, h₂⟩ := gives_expect_cons stop hk
    exact ⟨by simp only [List.length_cons]; omega, bind_ok.2 ⟨_, h₁, bind_ok.2 ⟨_, h₂, rfl⟩⟩⟩

/-! ### Lists, hashes and arguments -/

theorem gives_listItems {es : List Expr} : Gives (listItems rule stop ts) es rest ↔
    ∃ e u us, Gives (expression rule stop 0 ts) e (u :: us) ∧
      ((u.kind = .rbracket ∧ us = rest ∧ es = [e]) ∨
        (u.kind = .comma ∧ ∃ es', Gives (listItems rule stop us) es' rest ∧ es = e :: es')) := by
  rw [listItems]
  constructor
  · rintro ⟨_, h⟩
    obtain ⟨⟨e, us, he⟩, h₁, h'⟩ := bind_ok.1 h
    cases us with
    | nil => cases h'
    | cons u us =>
      dsimp only at h'
      split at h'
      · cases h'
        exact ⟨e, u, _, ⟨he, h₁⟩, .inl ⟨‹_›, rfl, rfl⟩⟩
      · split at h'
        · obtain ⟨es', hes, rfl⟩ := gives_map_weaken.1 ⟨_, h'⟩
          exact ⟨e, u, us, ⟨he, h₁⟩, .inr ⟨‹_›, es', hes, rfl⟩⟩
        · cases h'
  · rintro ⟨e, u, us, ⟨he, h₁⟩, ⟨hk, rfl, rfl⟩ | ⟨hk, es', hes, rfl⟩⟩
    · exact ⟨by simp at he; omega, bind_ok.2 ⟨_, h₁, by simp only [hk, if_true]; rfl⟩⟩
    · have hlt := hes.shorter
      refine ⟨by simp at he; omega, bind_ok.2 ⟨_, h₁, ?_⟩⟩
      simp only [hk, reduceCtorEq, if_false, if_true]
      exact (gives_map_weaken.2 ⟨es', hes, rfl⟩).2

private theorem key_bind {α : Type} {f : String → Except SyntaxError α} {a : α} :
    (match t.kind with
      | .name => Except.ok t.text >>= f
      | .quotedName => t.quotedText >>= f
      | _ => .error (.unexpected t) >>= f) = .ok a ↔ ∃ key, t.word.key? = some key ∧ f key = .ok a := by
  unfold Word.key?
  rw [Token.word_kind]
  cases hk : t.kind with
  | name =>
    rw [token_word (by simp [hk, Token.Kind.isVariable])]
    simp [Token.text, bind, Except.bind]
  | quotedName =>
    rw [bind_ok]
    constructor
    · rintro ⟨key, hkey, h⟩
      exact ⟨key, (quotedText_word hk).1 hkey, h⟩
    · rintro ⟨key, hkey, h⟩
      exact ⟨key, (quotedText_word hk).2 hkey, h⟩
  | _ => simp [bind, Except.bind]

theorem gives_hashEntries {es : List (String × Expr)} : Gives (hashEntries rule stop ts) es rest ↔
    ∃ t c key e u us vs, ts = t :: c :: us ∧ t.word.key? = some key ∧ c.kind = .colon ∧
      Gives (expression rule stop 0 us) e (u :: vs) ∧
        ((u.kind = .rbrace ∧ vs = rest ∧ es = [(key, e)]) ∨
          (u.kind = .comma ∧ ∃ es', Gives (hashEntries rule stop vs) es' rest ∧ es = (key, e) :: es')) := by
  cases ts with
  | nil =>
    rw [hashEntries]
    simp [gives_error]
  | cons t ts =>
    rw [hashEntries]
    constructor
    · rintro ⟨_, h⟩
      obtain ⟨key, h₀, h⟩ := key_bind.1 h
      obtain ⟨⟨c, us, hc⟩, h₁, h⟩ := bind_ok.1 h
      obtain ⟨⟨e, vs, he⟩, h₂, h⟩ := bind_ok.1 h
      obtain ⟨rfl, hk⟩ := gives_expect.1 ⟨hc, h₁⟩
      cases vs with
      | nil => cases h
      | cons u vs =>
        refine ⟨t, c, key, e, u, us, vs, rfl, h₀, hk, ⟨he, h₂⟩, ?_⟩
        dsimp only at h
        split at h
        · cases h
          exact .inl ⟨‹_›, rfl, rfl⟩
        · split at h
          · obtain ⟨es', hes, rfl⟩ := gives_map_weaken.1 ⟨_, h⟩
            exact .inr ⟨‹_›, es', hes, rfl⟩
          · cases h
    · rintro ⟨t', c, key, e, u, us, vs, h, h₀, hk, ⟨he, h₂⟩, h'⟩
      cases h
      obtain ⟨hc, h₁⟩ := gives_expect_cons stop hk
      rcases h' with ⟨hk, rfl, rfl⟩ | ⟨hk, es', hes, rfl⟩
      · refine ⟨by simp at he ⊢; omega, key_bind.2 ⟨_, h₀, bind_ok.2 ⟨_, h₁, bind_ok.2 ⟨_, h₂, ?_⟩⟩⟩⟩
        simp only [hk, if_true]
        rfl
      · have hlt := hes.shorter
        refine ⟨by simp at he ⊢; omega, key_bind.2 ⟨_, h₀, bind_ok.2 ⟨_, h₁, bind_ok.2 ⟨_, h₂, ?_⟩⟩⟩⟩
        simp only [hk, reduceCtorEq, if_false, if_true]
        exact (gives_map_weaken.2 ⟨es', hes, rfl⟩).2

theorem gives_arguments_end (hk : t.kind = .rparen) {es : List Expr} :
    Gives (arguments rule stop (t :: ts)) es rest ↔ es = [] ∧ ts = rest := by
  rw [arguments, if_pos hk, gives_ok, eq_comm]

theorem gives_arguments (hk : ¬ HeadIn [.rparen] (wordsOf ts)) {es : List Expr} :
    Gives (arguments rule stop ts) es rest ↔
      ∃ e u us es', Gives (expression rule stop 0 ts) e (u :: us) ∧ es = e :: es' ∧
        ((u.kind = .comma ∧ Gives (arguments rule stop us) es' rest) ∨
          (u.kind ≠ .comma ∧ Gives (arguments rule stop (u :: us)) es' rest)) := by
  cases ts with
  | nil =>
    rw [arguments, expression]
    simp [gives_error]
  | cons t ts =>
    rw [arguments, if_neg (by simpa [HeadIn] using hk)]
    constructor
    · rintro ⟨_, h⟩
      obtain ⟨⟨e, us, he⟩, h₁, h⟩ := bind_ok.1 h
      cases us with
      | nil => cases h
      | cons u us =>
        dsimp only at h
        split at h
        · obtain ⟨es', hes, rfl⟩ := gives_map_weaken.1 ⟨_, h⟩
          exact ⟨e, u, us, es', ⟨he, h₁⟩, rfl, .inl ⟨‹_›, hes⟩⟩
        · obtain ⟨es', hes, rfl⟩ := gives_map_weaken.1 ⟨_, h⟩
          exact ⟨e, u, us, es', ⟨he, h₁⟩, rfl, .inr ⟨‹_›, hes⟩⟩
    · rintro ⟨e, u, us, es', ⟨he, h₁⟩, rfl, ⟨hk, hes⟩ | ⟨hk, hes⟩⟩
      · have hlt := hes.shorter
        refine ⟨by simp at he ⊢; omega, bind_ok.2 ⟨_, h₁, ?_⟩⟩
        simp only [hk, if_true]
        exact (gives_map_weaken.2 ⟨es', hes, rfl⟩).2
      · have hlt := hes.shorter
        refine ⟨by simp at he hlt ⊢; omega, bind_ok.2 ⟨_, h₁, ?_⟩⟩
        simp only [hk, if_false]
        exact (gives_map_weaken.2 ⟨es', hes, rfl⟩).2

end Signpost.Query.Parser
