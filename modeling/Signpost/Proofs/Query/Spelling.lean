import Signpost.Proofs.Query.Grammar
import Signpost.Proofs.Query.Lexemes

/-!
# The words of a written query

`Expr.words` says which words the text of an expression consists of.  Two signs `&` with nothing between them are
one word, which `joined` takes care of: `words?_write` says that the text of a plain expression is cut into its
words, joined.
-/

namespace Signpost.Query

open Word (mark)

namespace Expr

theorem eq_current {e : Expr} (h : e.isCurrent = true) : e = current := by
  unfold isCurrent at h
  split at h
  · rfl
  · cases h

/-- Whether a number fits into 64 bits with a sign. -/
def InRange (n : Int) : Prop := -0x8000000000000000 ≤ n ∧ n < 0x8000000000000000

/-- Expressions as they are read from a text without quotes. -/
inductive Plain : Expr → Prop
  | field {name} (h : isPlainName name.toList = true) : Plain (field name)
  | sub {l r} (hl : Plain l) (hr : Plain r) : Plain (sub l r)
  | index {l n} (hl : Plain l) (hn : InRange n) : Plain (index l n)
  | slices {l r a b c} (hl : Plain l) (ha : ∀ n ∈ a, InRange n) (hb : ∀ n ∈ b, InRange n)
    (hc : ∀ n ∈ c, InRange n) (hr : Plain r) : Plain (project (slice l a b c) r)
  | flattened {l r} (hl : Plain l) (hr : Plain r) : Plain (project (flatten l) r)
  | elements {l r} (hl : Plain l) (hr : Plain r) : Plain (project l r)
  | filter {l r c} (hl : Plain l) (hr : Plain r) (hc : Plain c) : Plain (filter l r c)
  | projectValues {l r} (hl : Plain l) (hr : Plain r) : Plain (projectValues l r)
  | list {es} (hne : es ≠ []) (h : ∀ e ∈ es, Plain e) : Plain (list es)
  | hash {es} (hne : es ≠ []) (hk : ∀ x ∈ es, isPlainName x.1.toList = true) (h : ∀ x ∈ es, Plain x.2) :
    Plain (hash es)
  | compare {op l r} (hl : Plain l) (hr : Plain r) : Plain (compare op l r)
  | and {l r} (hl : Plain l) (hr : Plain r) : Plain (and l r)
  | or {l r} (hl : Plain l) (hr : Plain r) : Plain (or l r)
  | not {e} (h : Plain e) : Plain (not e)
  | pipe {l r} (hl : Plain l) (hr : Plain r) : Plain (pipe l r)
  | call {name es} (hk : isPlainName name.toList = true) (h : ∀ e ∈ es, Plain e) : Plain (call name es)
  | current : Plain current
  | reference {e} (h : Plain e) : Plain (reference e)

/-- The words of an operand in a place that asks for at least this power. -/
def operandWords (least : Nat) (e : Expr) (ws : List Word) : List Word :=
  if e.power < least then mark .lparen :: (ws ++ [mark .rparen]) else ws

/-- The words before a bracket. -/
def baseWords (least : Nat) (e : Expr) (ws : List Word) : List Word :=
  if e.isCurrent then [] else operandWords least e ws

/-- The words of what a projection applies. -/
def appliedWords (e : Expr) (ws : List Word) : List Word :=
  if e.isCurrent then []
  else if e.startsWithBracket then ws
  else mark .dot :: operandWords 10 e ws

/-- The word of a number. -/
def numberWord (n : Int) : Word := .of .number (writeInt n)

/-- The word of a name. -/
def nameWord (name : String) : Word := .of .name name.toList

theorem leaf_nameWord {rule : Json.RealRule} (name : String) :
    (nameWord name).leaf? rule = some (field name, maxPower) := by
  simp [Word.leaf?, nameWord, Word.of, Word.token, Token.text, Token.Kind.isVariable]

/-- The words between the brackets of a slice. -/
def sliceWords (start stop step : Option Int) : List Word :=
  start.toList.map numberWord ++ mark .colon ::
    (stop.toList.map numberWord ++ (step.toList.flatMap fun n => [mark .colon, numberWord n]))

/-- Whether what a projection ranges over brings its own bracket. -/
def isBracketed : Expr → Bool
  | slice _ _ _ _ | flatten _ => true
  | _ => false

/-- The words of what a projection ranges over, with its bracket. -/
def collectionWords (e : Expr) (ws : List Word) : List Word :=
  match e with
  | flatten _ => ws
  | slice _ _ _ _ => ws
  | e => baseWords 10 e ws ++ [mark .lbracket, mark .star, mark .rbracket]

/-- The words of the object whose values are projected, with its star. -/
def valuesWords (e : Expr) (ws : List Word) : List Word :=
  if e.isCurrent then [mark .star] else operandWords 10 e ws ++ [mark .dot, mark .star]

mutual

/-- The words of an expression, with one word for any literal. -/
def words : Expr → List Word
  | field name => [nameWord name]
  | sub l r => operandWords 10 l l.words ++ mark .dot :: operandWords 10 r r.words
  | index l n => baseWords 10 l l.words ++ [mark .lbracket, numberWord n, mark .rbracket]
  | slice l a b c => baseWords 10 l l.words ++ mark .lbracket :: (sliceWords a b c ++ [mark .rbracket])
  | project l r => collectionWords l l.words ++ appliedWords r r.words
  | filter l r c =>
    baseWords 10 l l.words ++ mark .filter :: (c.words ++ mark .rbracket :: appliedWords r r.words)
  | projectValues l r => valuesWords l l.words ++ appliedWords r r.words
  | flatten e => baseWords 9 e e.words ++ [mark .flatten]
  | list es => mark .lbracket :: (listWords es ++ [mark .rbracket])
  | hash es => mark .lbrace :: (entryWords es ++ [mark .rbrace])
  | compare op l r => operandWords 6 l l.words ++ mark (.compare op) :: operandWords 6 r r.words
  | and l r => operandWords 3 l l.words ++ mark .and :: operandWords 4 r r.words
  | or l r => operandWords 2 l l.words ++ mark .or :: operandWords 3 r r.words
  | not e => mark .not :: operandWords 45 e e.words
  | pipe l r => operandWords 1 l l.words ++ mark .pipe :: operandWords 2 r r.words
  | call name args => nameWord name :: mark .lparen :: (listWords args ++ [mark .rparen])
  | literal _ => [mark .json]
  | current => [mark .current]
  | reference e => mark .reference :: operandWords 10 e e.words

def listWords : List Expr → List Word
  | [] => []
  | [e] => e.words
  | e :: es => e.words ++ mark .comma :: listWords es

def entryWords : List (String × Expr) → List Word
  | [] => []
  | [(k, e)] => nameWord k :: mark .colon :: e.words
  | (k, e) :: es => nameWord k :: mark .colon :: (e.words ++ mark .comma :: entryWords es)

end

end Expr

/-! ### Signs `&` next to each other -/

/-- The words with each two references next to each other taken as one word. -/
def joined : List Word → List Word
  | v :: w :: ws =>
    if v.kind = .reference ∧ w.kind = .reference then mark .and :: joined ws else v :: joined (w :: ws)
  | ws => ws

/-- The words do not end with the sign of a reference. -/
def Closes (ws : List Word) : Prop := ∀ w ∈ ws.getLast?, w.kind ≠ .reference

private theorem joined_cons {w : Word} {ws : List Word} (h : w.kind ≠ .reference) :
    joined (w :: ws) = w :: joined ws := by
  cases ws with
  | nil => rfl
  | cons v ws => rw [joined, if_neg fun hk => h hk.1]

private theorem joined_append_cons {us vs : List Word} {w : Word} (h : w.kind ≠ .reference) :
    joined (us ++ w :: vs) = joined us ++ w :: joined vs := by
  induction us using joined.induct with
  | case1 v w' ws hk ih => simp only [List.cons_append, joined, if_pos hk, ih]
  | case2 v w' ws hk ih =>
    rw [List.cons_append, List.cons_append, joined, if_neg hk, joined, if_neg hk, ← List.cons_append, ih]
    rfl
  | case3 ws hws =>
    match ws, hws with
    | [], _ => exact joined_cons h
    | [v], _ =>
      rw [List.cons_append, List.nil_append, joined, if_neg fun hk => h hk.2, joined_cons h]
      rfl
    | v :: w' :: ws, hws => exact absurd rfl (hws v w' ws)

private theorem joined_append {us vs : List Word} (h : Closes us) : joined (us ++ vs) = joined us ++ joined vs := by
  rcases List.eq_nil_or_concat us with rfl | ⟨us, w, rfl⟩
  · rfl
  · have hw : w.kind ≠ .reference := h w (by simp)
    rw [List.concat_eq_append, List.append_assoc, List.singleton_append, joined_append_cons hw, joined_append_cons hw]
    simp [joined]

private theorem closes_append {us vs : List Word} (hu : Closes us) (hv : Closes vs) : Closes (us ++ vs) := by
  intro w hw
  rw [List.getLast?_append] at hw
  cases hv' : vs.getLast? with
  | none => exact hu w (by simpa [hv'] using hw)
  | some x => exact hv w (by simpa [hv'] using hw)

private theorem closes_append_cons {us vs : List Word} {w : Word} (h : Closes (w :: vs)) :
    Closes (us ++ w :: vs) := by
  intro x hx
  exact h x (by simpa [List.getLast?_append, List.getLast?_cons] using hx)

/-! ### Texts that are cut into words -/

/-- Nothing that goes on with a name comes next. -/
def Free (cs : List Char) : Prop := ∀ c ∈ cs.head?, isNamePart c = false

/-- The text starts with no character that would go on with a token. -/
def Opens (cs : List Char) : Prop := ∃ c ds, cs = c :: ds ∧ c ∉ ['=', '?', ']']

/-- In front of other text, the text is cut into the words. -/
structure Follows (cs : List Char) (ws : List Word) : Prop where
  closes : Closes ws
  cut : ∀ rest, Free rest → words? (cs ++ rest) = (words? rest).map (joined ws ++ ·)

/-- The same behind signs `&`. -/
structure Cuts (cs : List Char) (ws : List Word) : Prop where
  opens : Opens cs
  follows : ∀ n, Follows (List.replicate n '&' ++ cs) (List.replicate n (mark .reference) ++ ws)

variable {cs ds : List Char} {us vs : List Word} {c : Char} {k : Token.Kind}

private theorem Cuts.plain (h : Cuts cs us) : Follows cs us := h.follows 0

private theorem Follows.nil : Follows [] [] := by
  refine ⟨by simp [Closes], fun rest _ => ?_⟩
  rw [List.nil_append]
  cases words? rest <;> rfl

private theorem Follows.blank (h : Follows ds vs) : Follows (' ' :: ds) vs := by
  refine ⟨h.closes, fun rest hr => ?_⟩
  rw [List.cons_append, words?_blank _ rfl]
  exact h.cut rest hr

private theorem free_append (hd : Free ds) {rest : List Char} (hr : Free rest) : Free (ds ++ rest) := by
  cases ds with
  | nil => exact hr
  | cons c ds => exact hd

private theorem Follows.append (h : Follows cs us) (hd : Follows ds vs) (hf : Free ds) :
    Follows (cs ++ ds) (us ++ vs) := by
  refine ⟨closes_append h.closes hd.closes, fun rest hr => ?_⟩
  rw [List.append_assoc, h.cut _ (free_append hf hr), hd.cut rest hr, joined_append h.closes]
  cases words? rest <;> simp

private theorem Opens.append (h : Opens cs) (ds : List Char) : Opens (cs ++ ds) := by
  obtain ⟨c, es, rfl, hc⟩ := h
  exact ⟨c, es ++ ds, rfl, hc⟩

private theorem Cuts.append (h : Cuts cs us) (hd : Follows ds vs) (hf : Free ds) : Cuts (cs ++ ds) (us ++ vs) := by
  refine ⟨h.opens.append ds, fun n => ?_⟩
  rw [← List.append_assoc, ← List.append_assoc]
  exact (h.follows n).append hd hf

/-- A token in front of a text. -/
private theorem Follows.token {l : List Char} (hb : Token.isBlank c = false) (hk : k ≠ .reference)
    (ht : ∀ rest, Free rest → Token.first? (c :: (l ++ (ds ++ rest))) = some (k, c :: l)) (hd : Follows ds vs) :
    Follows (c :: (l ++ ds)) (.of k (c :: l) :: vs) := by
  have hw : Closes [.of k (c :: l)] := by simpa [Closes, Word.of] using hk
  refine ⟨closes_append hw hd.closes, fun rest hr => ?_⟩
  rw [List.cons_append, List.append_assoc, words?_cons hb, ht rest hr]
  simp only [Option.bind_some, List.length_cons, List.drop_succ_cons, List.drop_left, hd.cut rest hr]
  rw [joined_cons (by exact hk)]
  cases words? rest <;> rfl

private theorem first?_and (cs : List Char) : Token.first? ('&' :: '&' :: cs) = some (.and, ['&', '&']) := rfl

private theorem first?_reference (hc : c ≠ '&') (cs : List Char) :
    Token.first? ('&' :: c :: cs) = some (.reference, ['&']) :=
  Token.first?_eq_some_iff.2 ⟨c :: cs, rfl, .sign (k := .reference) rfl, by simpa [Token.Kind.goesOn] using hc⟩

/-- Signs in front of a text are taken two by two. -/
private theorem words?_signs (hc : c ≠ '&') : ∀ n, words? (List.replicate n '&' ++ c :: cs) =
    (words? (c :: cs)).map (joined (List.replicate n (mark .reference)) ++ ·)
  | 0 => by
    simp only [List.replicate_zero, List.nil_append, joined]
    cases words? (c :: cs) <;> rfl
  | 1 => by
    rw [List.replicate_one, List.singleton_append, words?_cons rfl, first?_reference hc]
    rfl
  | n + 2 => by
    have hj : joined (List.replicate (n + 2) (mark .reference)) =
      mark .and :: joined (List.replicate n (mark .reference)) := rfl
    rw [hj, List.replicate_succ, List.replicate_succ, List.cons_append, List.cons_append, words?_cons rfl, first?_and]
    simp only [Option.bind_some, List.length_cons, List.length_nil, List.drop_succ_cons, List.drop_zero,
      words?_signs hc n]
    cases words? (c :: cs) <;> rfl

private theorem Cuts.token {l : List Char} (hb : Token.isBlank c = false) (hk : k ≠ .reference)
    (hc : c ∉ ['&', '=', '?', ']'])
    (ht : ∀ rest, Free rest → Token.first? (c :: (l ++ (ds ++ rest))) = some (k, c :: l)) (hd : Follows ds vs) :
    Cuts (c :: (l ++ ds)) (.of k (c :: l) :: vs) := by
  have hp := hd.token hb hk ht
  refine ⟨⟨c, _, rfl, fun h => hc (List.mem_cons_of_mem _ h)⟩, fun n => ⟨?_, fun rest hr => ?_⟩⟩
  · exact closes_append_cons hp.closes
  · have hj : joined (List.replicate n (mark .reference) ++ .of k (c :: l) :: vs) =
        joined (List.replicate n (mark .reference)) ++ joined (.of k (c :: l) :: vs) := by
      rw [joined_append_cons (by exact hk), joined_cons (by exact hk)]
    rw [List.append_assoc, List.cons_append, words?_signs (by simp_all), ← List.cons_append, hp.cut rest hr, hj]
    cases words? rest <;> simp

/-! ### Numbers -/

private theorem natOf_toDigits (n : Nat) : Token.natOf 0 (Nat.toDigits 10 n) = n := by
  have h := @Nat.ofDigitChars_ten_toDigits n
  rwa [Nat.ofDigitChars_eq_foldl] at h

private theorem digits_cons (n : Nat) : ∃ c cs, Nat.toDigits 10 n = c :: cs ∧ ∀ d ∈ c :: cs, d.isDigit = true := by
  cases h : Nat.toDigits 10 n with
  | nil => exact absurd h Nat.toDigits_ne_nil
  | cons c cs => exact ⟨c, cs, rfl, fun d hd => Nat.isDigit_of_mem_toDigits (by omega) (by omega) (h ▸ hd)⟩

/-- A written number is a sign, or none, and digits. -/
private theorem writeInt_eq (n : Int) : (∃ m : Nat, n = m ∧ writeInt n = Nat.toDigits 10 m) ∨
    ∃ m : Nat, n = -m ∧ writeInt n = '-' :: Nat.toDigits 10 m := by
  unfold writeInt
  rw [Int.toString_eq_repr, Int.repr_eq_if]
  by_cases h : 0 ≤ n
  · exact .inl ⟨n.toNat, by omega, by simp [h, Nat.toList_repr]⟩
  · exact .inr ⟨(-n).toNat, by omega, by simp [h, Nat.toList_repr]⟩

private theorem isLexeme_writeInt (n : Int) : Token.IsLexeme .number (writeInt n) := by
  rcases writeInt_eq n with ⟨m, -, h⟩ | ⟨m, -, h⟩
  · obtain ⟨d, ds, hd, hds⟩ := digits_cons m
    rw [h, hd]
    exact .number (List.cons_ne_nil d ds) hds
  · obtain ⟨d, ds, hd, hds⟩ := digits_cons m
    rw [h, hd]
    exact .negative (List.cons_ne_nil d ds) hds

private theorem number_of_digits {t : Token} {m : Nat} (ht : t.lexeme = Nat.toDigits 10 m) (h : Expr.InRange m) :
    t.number = .ok m := by
  obtain ⟨d, ds, hd, hds⟩ := digits_cons m
  have hm : d ≠ '-' := by
    rintro rfl
    exact absurd (hds '-' (by simp)) (by decide)
  unfold Token.number
  rw [ht, hd]
  simp only
  split
  · simp_all
  · rw [← hd, natOf_toDigits]
    exact if_pos h

private theorem number_of_minus {t : Token} {m : Nat} (ht : t.lexeme = '-' :: Nat.toDigits 10 m)
    (h : Expr.InRange (-m)) : t.number = .ok (-m : Int) := by
  unfold Token.number
  rw [ht]
  simp only [natOf_toDigits]
  exact if_pos h

theorem number?_numberWord {n : Int} (h : Expr.InRange n) : (Expr.numberWord n).number? = some n := by
  have hn : (Expr.numberWord n).token.number = .ok n := by
    rcases writeInt_eq n with ⟨m, rfl, hm⟩ | ⟨m, rfl, hm⟩
    · exact number_of_digits hm h
    · exact number_of_minus hm h
  unfold Word.number?
  rw [hn]
  rfl

/-! ### The text of a plain expression -/

private theorem free_cons (h : isNamePart c = false) : Free (c :: cs) := by
  intro d hd
  cases hd
  exact h

private theorem Word.of_mark (hv : k.isVariable = false) (l : List Char) : Word.of k l = mark k := by
  simp [Word.of, mark, hv]

/-- A sign that nothing at the front of the text goes on with. -/
private theorem Follows.sign (hv : k.isVariable = false) (hk : k ≠ .reference)
    (hgo : ∀ rest, ∀ c ∈ (ds ++ rest).head?, k.goesOn c = false) (h : Follows ds vs) :
    Follows (k.sign ++ ds) (mark k :: vs) := by
  obtain ⟨c, l, hl, hb⟩ := (Token.IsLexeme.sign hv).exists_cons
  rw [← Word.of_mark hv k.sign, hl]
  refine h.token hb hk fun rest _ => ?_
  rw [← List.cons_append, ← hl]
  exact Token.first?_eq_some_iff.2 ⟨_, rfl, .sign hv, hgo rest⟩

private theorem Cuts.sign (hv : k.isVariable = false) (hk : k ≠ .reference)
    (hc : ∀ c ∈ k.sign.head?, c ∉ ['&', '=', '?', ']'])
    (hgo : ∀ rest, ∀ c ∈ (ds ++ rest).head?, k.goesOn c = false) (h : Follows ds vs) :
    Cuts (k.sign ++ ds) (mark k :: vs) := by
  obtain ⟨c, l, hl, hb⟩ := (Token.IsLexeme.sign hv).exists_cons
  rw [← Word.of_mark hv k.sign, hl]
  refine Cuts.token hb hk (hc c (by rw [hl]; rfl)) (fun rest _ => ?_) h
  rw [← List.cons_append, ← hl]
  exact Token.first?_eq_some_iff.2 ⟨_, rfl, .sign hv, hgo rest⟩

/-- No longer sign starts with one of these. -/
private theorem follows_sign (k : Token.Kind)
    (hk : k ∈ [.dot, .comma, .colon, .rparen, .rbracket, .rbrace]) (h : Follows ds vs) :
    Follows (k.sign ++ ds) (mark k :: vs) := by
  simp only [List.mem_cons, List.not_mem_nil, or_false] at hk
  rcases hk with rfl | rfl | rfl | rfl | rfl | rfl <;>
    exact h.sign rfl (by simp) fun _ _ _ => rfl

private theorem cuts_sign (k : Token.Kind) (hk : k ∈ [.lparen, .lbrace, .star, .flatten, .filter, .current])
    (h : Follows ds vs) : Cuts (k.sign ++ ds) (mark k :: vs) := by
  simp only [List.mem_cons, List.not_mem_nil, or_false] at hk
  rcases hk with rfl | rfl | rfl | rfl | rfl | rfl <;>
    exact .sign rfl (by simp) (by simp [Token.Kind.sign]) (fun _ _ _ => rfl) h

/-- Longer signs start with these, but not in front of a text that opens. -/
private theorem cuts_opening (k : Token.Kind) (hk : k ∈ [.lbracket, .not]) (ho : Opens ds) (h : Follows ds vs) :
    Cuts (k.sign ++ ds) (mark k :: vs) := by
  obtain ⟨c, ds, rfl, hc⟩ := ho
  simp only [List.mem_cons, List.not_mem_nil, or_false] at hk hc
  rcases hk with rfl | rfl <;>
    exact .sign rfl (by simp) (by simp [Token.Kind.sign]) (fun _ => by simp_all [Token.Kind.goesOn]) h

private theorem follows_number {n : Int} (hd : ∀ c ∈ ds.head?, c.isDigit = false) (hne : ds ≠ [])
    (h : Follows ds vs) :
    Follows (writeInt n ++ ds) (Expr.numberWord n :: vs) := by
  obtain ⟨c, l, hl, hb⟩ := (isLexeme_writeInt n).exists_cons
  rw [Expr.numberWord, hl, List.cons_append]
  refine h.token hb (by simp) fun rest _ => ?_
  rw [← List.cons_append, ← hl]
  refine Token.first?_eq_some_iff.2 ⟨_, rfl, isLexeme_writeInt n, ?_⟩
  cases ds with
  | nil => exact absurd rfl hne
  | cons c ds => exact hd

private theorem cuts_name {name : String} (hn : isPlainName name.toList = true) (hd : Free ds) (h : Follows ds vs) :
    Cuts (name.toList ++ ds) (Expr.nameWord name :: vs) := by
  have hlexeme : Token.IsLexeme .name name.toList := .name hn
  obtain ⟨c, l, hl, hb⟩ := hlexeme.exists_cons
  rw [hl] at hn hlexeme
  simp only [isPlainName, Bool.and_eq_true] at hn
  rw [Expr.nameWord, hl]
  refine Cuts.token hb (by simp) ?_ (fun rest hr => ?_) h
  · simp only [List.mem_cons, List.not_mem_nil, or_false, not_or]
    refine ⟨?_, ?_, ?_, ?_⟩ <;> rintro rfl <;> exact absurd hn.1 (by decide)
  · exact Token.first?_eq_some_iff.2 ⟨ds ++ rest, rfl, hlexeme, free_append hd hr⟩

/-- The first word of a text that starts with a name. -/
theorem words?_name {name : String} (hn : isPlainName name.toList = true) (hf : Free cs) :
    words? (name.toList ++ cs) = (words? cs).map (Expr.nameWord name :: ·) := by
  have h := (cuts_name hn (by simp [Free]) .nil).plain.cut cs hf
  rwa [List.append_nil] at h

namespace Expr

private theorem cuts_operand (least : Nat) {e : Expr} (h : Cuts cs us) :
    Cuts (operand least e cs) (operandWords least e us) := by
  unfold operand parenthesize operandWords
  by_cases hp : e.power < least
  · rw [if_pos hp, if_pos hp]
    exact cuts_sign .lparen (by simp) (h.plain.append (follows_sign .rparen (by simp) .nil) (free_cons rfl))
  · rw [if_neg hp, if_neg hp]
    exact h

private theorem cuts_base {least : Nat} {e : Expr} (h : Cuts cs us) (hd : Cuts ds vs) (hf : Free ds) :
    Cuts (prefixed least e cs ++ ds) (baseWords least e us ++ vs) := by
  unfold prefixed baseWords
  by_cases hc : e.isCurrent = true
  · rw [if_pos hc, if_pos hc]
    exact hd
  · rw [if_neg hc, if_neg hc]
    exact (cuts_operand _ h).append hd.plain hf

private theorem follows_applied {e : Expr} (h : Cuts cs us) : Follows (applied e cs) (appliedWords e us) := by
  unfold applied appliedWords
  by_cases hc : e.isCurrent = true
  · rw [if_pos hc, if_pos hc]
    exact .nil
  · rw [if_neg hc, if_neg hc]
    by_cases hb : e.startsWithBracket = true
    · rw [if_pos hb, if_pos hb]
      exact h.plain
    · rw [if_neg hb, if_neg hb]
      exact follows_sign .dot (by simp) (cuts_operand _ h).plain

private theorem follows_bound {n : Option Int} (hd : ∀ c ∈ ds.head?, c.isDigit = false) (hne : ds ≠ [])
    (h : Follows ds vs) : Follows ((n.map writeInt).getD [] ++ ds) (n.toList.map numberWord ++ vs) := by
  cases n with
  | none => exact h
  | some n => exact follows_number hd hne h

private theorem opens_writeInt (n : Int) : Opens (writeInt n) := by
  rcases writeInt_eq n with ⟨m, -, hm⟩ | ⟨m, -, hm⟩
  · obtain ⟨d, ds, hd, hds⟩ := digits_cons m
    refine ⟨d, ds, hm.trans hd, ?_⟩
    have h := hds d (by simp)
    simp only [List.mem_cons, List.not_mem_nil, or_false, not_or]
    refine ⟨?_, ?_, ?_⟩ <;> rintro rfl <;> exact absurd h (by decide)
  · exact ⟨'-', _, hm, by simp⟩

private theorem follows_step (step : Option Int) (h : Follows ds vs) :
    Follows ((step.map fun n => ':' :: writeInt n).getD [] ++ ']' :: ds)
      (step.toList.flatMap (fun n => [mark .colon, numberWord n]) ++ mark .rbracket :: vs) := by
  have hb := follows_sign .rbracket (by simp) h
  cases step with
  | none => exact hb
  | some n => exact follows_sign .colon (by simp) (follows_number (by simp) (by simp) hb)

private theorem cuts_slice {start stop step : Option Int} (h : Follows ds vs) :
    Cuts (writeSlice start stop step ++ ds)
      (mark .lbracket :: (sliceWords start stop step ++ mark .rbracket :: vs)) := by
  have hstep := follows_step step h
  have hstop := follows_bound (n := stop) (by cases step <;> simp) (by cases step <;> simp) hstep
  have hcolon : Follows (':' :: _) (mark .colon :: _) := follows_sign .colon (by simp) hstop
  have hstart := follows_bound (n := start) (by simp) (by simp) hcolon
  have ho : Opens ((start.map writeInt).getD [] ++ ':' :: ((stop.map writeInt).getD [] ++
      ((step.map fun n => ':' :: writeInt n).getD [] ++ ']' :: ds))) := by
    cases start with
    | none => exact ⟨':', _, rfl, by simp⟩
    | some n => exact (opens_writeInt n).append _
  simpa [writeSlice, sliceWords, Token.Kind.sign] using cuts_opening .lbracket (by simp) ho hstart

private theorem follows_list {es : List Expr} (h : ∀ e ∈ es, Cuts e.write e.words) (hd : Follows ds vs)
    (hf : Free ds) :
    Follows (writeList es ++ ds) (listWords es ++ vs) := by
  induction es with
  | nil => exact hd
  | cons e es ih =>
    have he := h e (by simp)
    cases es with
    | nil => exact he.plain.append hd hf
    | cons e' es =>
      have hes := ih fun x hx => h x (List.mem_cons_of_mem _ hx)
      have hcomma := follows_sign .comma (by simp) hes.blank
      simpa [writeList, listWords, Token.Kind.sign] using he.plain.append hcomma (free_cons rfl)

private theorem follows_entries {es : List (String × Expr)} (hk : ∀ x ∈ es, isPlainName x.1.toList = true)
    (h : ∀ x ∈ es, Cuts x.2.write x.2.words) (hd : Follows ds vs) (hf : Free ds) :
    Follows (writeEntries es ++ ds) (entryWords es ++ vs) := by
  induction es with
  | nil => exact hd
  | cons x es ih =>
    obtain ⟨name, e⟩ := x
    have he := h (name, e) (by simp)
    have hn := hk (name, e) (by simp)
    have hkey : ∀ {cs us}, Follows cs us →
        Follows (writeName name ++ ':' :: ' ' :: cs) (nameWord name :: mark .colon :: us) := by
      intro cs us hc
      rw [writeName, if_pos hn]
      exact (cuts_name hn (free_cons rfl) (follows_sign .colon (by simp) hc.blank)).plain
    cases es with
    | nil => simpa [writeEntries, entryWords] using hkey (he.plain.append hd hf)
    | cons e' es =>
      have hes := ih (fun x hx => hk x (List.mem_cons_of_mem _ hx)) fun x hx => h x (List.mem_cons_of_mem _ hx)
      have hcomma := follows_sign .comma (by simp) hes.blank
      simpa [writeEntries, entryWords, Token.Kind.sign] using hkey (he.plain.append hcomma (free_cons rfl))

private theorem opens_list {es : List Expr} (hne : es ≠ []) (h : ∀ e ∈ es, Cuts e.write e.words) :
    Opens (writeList es) := by
  match es with
  | [] => exact absurd rfl hne
  | [e] => exact (h e (by simp)).opens
  | e :: e' :: es =>
    rw [writeList]
    · exact (h e (by simp)).opens.append _
    · simp

theorem collectionWords_eq {l : Expr} (h : Plain l) (ws : List Word) :
    collectionWords l ws = baseWords 10 l ws ++ [mark .lbracket, mark .star, mark .rbracket] := by
  cases h <;> rfl

private theorem collection_eq {l : Expr} (h : Plain l) (cs : List Char) :
    collection l cs = prefixed 10 l cs ++ ['[', '*', ']'] := by
  cases h <;> rfl

private theorem cuts_elements (h : Follows ds vs) :
    Cuts ('[' :: '*' :: ']' :: ds) (mark .lbracket :: mark .star :: mark .rbracket :: vs) :=
  have hstar := cuts_sign .star (by simp) (follows_sign .rbracket (by simp) h)
  cuts_opening .lbracket (by simp) ⟨'*', _, rfl, by simp⟩ hstar.plain

/-- An operator between blanks: none of the signs goes on with a blank. -/
private theorem cuts_operator (k : Token.Kind) (hk : k.isVariable = false) (hr : k ≠ .reference) {n n' : Nat}
    {l r : Expr} (ihl : Cuts l.write l.words) (ihr : Cuts r.write r.words) :
    Cuts (operand n l l.write ++ ' ' :: (k.sign ++ ' ' :: operand n' r r.write))
      (operandWords n l l.words ++ mark k :: operandWords n' r r.words) := by
  have hright : Follows (k.sign ++ ' ' :: operand n' r r.write) (mark k :: operandWords n' r r.words) :=
    (cuts_operand n' ihr).plain.blank.sign hk hr fun _ c hc => by
      cases hc
      exact Token.goesOn_of_isBlank k rfl
  exact (cuts_operand n ihl).append hright.blank (free_cons rfl)

/-- The text of a plain expression is cut into the words of the expression. -/
theorem cuts_write {e : Expr} (h : Plain e) : Cuts e.write e.words := by
  induction h with
  | field hn =>
    have hc := cuts_name hn (by simp [Free]) .nil
    simpa [write, words, writeName, hn] using hc
  | sub _ _ ihl ihr =>
    rw [write, words]
    exact (cuts_operand _ ihl).append (follows_sign .dot (by simp) (cuts_operand _ ihr).plain) (free_cons rfl)
  | @index l n _ _ ih =>
    rw [write, words]
    have hn : Follows (writeInt n ++ [']']) [numberWord n, mark .rbracket] :=
      follows_number (by simp) (by simp) (follows_sign .rbracket (by simp) .nil)
    exact cuts_base ih (cuts_opening .lbracket (by simp) ((opens_writeInt n).append _) hn) (free_cons rfl)
  | slices _ _ _ _ _ ihl ihr =>
    simp only [write, words, collection, collectionWords, List.append_assoc, List.cons_append, List.nil_append]
    exact cuts_base ihl (cuts_slice (follows_applied ihr)) (free_cons rfl)
  | flattened _ _ ihl ihr =>
    simp only [write, words, collection, collectionWords, List.append_assoc, List.cons_append, List.nil_append]
    exact cuts_base ihl (cuts_sign .flatten (by simp) (follows_applied ihr)) (free_cons rfl)
  | elements hl _ ihl ihr =>
    rw [write, words, collection_eq hl, collectionWords_eq hl, List.append_assoc, List.append_assoc]
    exact cuts_base ihl (cuts_elements (follows_applied ihr)) (free_cons rfl)
  | @filter l r c _ _ _ ihl ihr ihc =>
    rw [write, words]
    have hc := ihc.plain.append (follows_sign .rbracket (by simp) (follows_applied (e := r) ihr)) (free_cons rfl)
    exact cuts_base ihl (cuts_sign .filter (by simp) hc) (free_cons rfl)
  | @projectValues l r _ _ ihl ihr =>
    have hr := cuts_sign .star (by simp) (follows_applied (e := r) ihr)
    rw [write, words, values, valuesWords]
    by_cases hc : l.isCurrent = true
    · rw [if_pos hc, if_pos hc]
      exact hr
    · rw [if_neg hc, if_neg hc, List.append_assoc, List.append_assoc]
      exact (cuts_operand _ ihl).append (follows_sign .dot (by simp) hr.plain) (free_cons rfl)
  | list hne _ ih =>
    rw [write, words]
    have hclose : Follows [']'] [mark .rbracket] := follows_sign .rbracket (by simp) .nil
    exact cuts_opening .lbracket (by simp) ((opens_list hne ih).append _) (follows_list ih hclose (free_cons rfl))
  | hash _ hk _ ih =>
    rw [write, words]
    exact cuts_sign .lbrace (by simp) (follows_entries hk ih (follows_sign .rbrace (by simp) .nil) (free_cons rfl))
  | compare _ _ ihl ihr =>
    rw [write, words]
    exact cuts_operator (.compare _) rfl (by simp) ihl ihr
  | and _ _ ihl ihr =>
    rw [write, words, List.append_assoc]
    exact cuts_operator .and rfl (by simp) ihl ihr
  | or _ _ ihl ihr =>
    rw [write, words, List.append_assoc]
    exact cuts_operator .or rfl (by simp) ihl ihr
  | not _ ih =>
    rw [write, words]
    exact cuts_opening .not (by simp) (cuts_operand _ ih).opens (cuts_operand _ ih).plain
  | pipe _ _ ihl ihr =>
    rw [write, words, List.append_assoc]
    exact cuts_operator .pipe rfl (by simp) ihl ihr
  | call hk _ ih =>
    rw [write, words]
    have hclose : Follows [')'] [mark .rparen] := follows_sign .rparen (by simp) .nil
    exact cuts_name hk (free_cons rfl) (cuts_sign .lparen (by simp) (follows_list ih hclose (free_cons rfl))).plain
  | current =>
    rw [write, words]
    exact cuts_sign .current (by simp) .nil
  | @reference x _ ih =>
    rw [write, words]
    refine ⟨⟨'&', _, rfl, by simp⟩, fun n => ?_⟩
    have h := (cuts_operand 10 (e := x) ih).follows (n + 1)
    rwa [List.replicate_succ', List.replicate_succ', List.append_assoc, List.append_assoc] at h

/-- The words in the text of a plain expression. -/
theorem words?_write {e : Expr} (h : Plain e) : words? e.write = some (joined e.words) := by
  have hc := (cuts_write h).plain.cut [] (by simp [Free])
  rw [List.append_nil, words?_nil] at hc
  simpa using hc

end Expr

end Signpost.Query
