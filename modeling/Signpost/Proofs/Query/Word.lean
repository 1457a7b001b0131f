import Signpost.Query.Parser

/-!
# Words of a query

What reading a query sees of its tokens: the kind, and the lexeme where tokens of a kind differ in it, but not
the place.  `words?` cuts a text into words: what every token at the front of a text has, all its words have
(`forall_of_words?`).
-/

namespace Signpost.Query

/-- Whether the lexemes of a kind differ from each other. -/
def Token.Kind.isVariable : Token.Kind → Bool
  | json | raw | quotedName | name | number => true
  | _ => false

/-- A token without its place. -/
structure Word where
  kind : Token.Kind
  lexeme : List Char
  deriving DecidableEq, Repr

/-- The word of a kind and a lexeme. -/
def Word.of (k : Token.Kind) (lexeme : List Char) : Word := ⟨k, if k.isVariable then lexeme else []⟩

/-- The word of a kind whose lexemes do not differ. -/
def Word.mark (k : Token.Kind) : Word := ⟨k, []⟩

/-- The word as a token at the start of a text. -/
def Word.token (w : Word) : Token := ⟨w.kind, w.lexeme, 0⟩

def Token.word (t : Token) : Word := .of t.kind t.lexeme

@[simp] theorem Token.word_kind (t : Token) : t.word.kind = t.kind := rfl

@[simp] theorem Word.mark_kind (k : Token.Kind) : (Word.mark k).kind = k := rfl

/-- The words of tokens. -/
def wordsOf (ts : List Token) : List Word := ts.map Token.word

@[simp] theorem wordsOf_nil : wordsOf [] = [] := rfl

@[simp] theorem wordsOf_cons (t : Token) (ts : List Token) : wordsOf (t :: ts) = t.word :: wordsOf ts := rfl

@[simp] theorem wordsOf_append (ts us : List Token) : wordsOf (ts ++ us) = wordsOf ts ++ wordsOf us :=
  List.map_append

theorem Token.word_eq_mark {t : Token} {k : Token.Kind} (hk : k.isVariable = false) :
    t.word = .mark k ↔ t.kind = k := by
  constructor
  · intro h
    exact congrArg Word.kind h
  · rintro rfl
    simp [word, Word.of, Word.mark, hk]

/-! ### Cutting a text into words -/

/-- The words of a text, if it can be cut into tokens. -/
def words? (cs : List Char) : Option (List Word) := (Token.scan cs).toOption.map wordsOf

private theorem scanFrom_cons (i : Nat) {c : Char} (cs : List Char) (h : Token.isBlank c = false) :
    (Token.scanFrom i (c :: cs)).toOption.map wordsOf = (Token.first? (c :: cs)).bind fun x =>
      ((Token.scanFrom (i + byteLength x.2) ((c :: cs).drop x.2.length)).toOption.map wordsOf).map
        (Word.of x.1 x.2 :: ·) := by
  rw [Token.scanFrom]
  simp only [h, Bool.false_eq_true, if_false]
  split
  · rename_i hn
    simp [hn, Except.toOption]
  · rename_i k l hl
    simp only [hl, Option.bind_some]
    cases Token.scanFrom (i + byteLength l) ((c :: cs).drop l.length) <;> simp [Except.toOption, Token.word]

/-- The words do not depend on where the text starts. -/
private theorem words_scanFrom (n : Nat) : ∀ (cs : List Char) (i j : Nat), cs.length ≤ n →
    (Token.scanFrom i cs).toOption.map wordsOf = (Token.scanFrom j cs).toOption.map wordsOf := by
  induction n with
  | zero =>
    intro cs i j h
    obtain rfl : cs = [] := List.length_eq_zero_iff.1 (Nat.le_zero.1 h)
    simp [Token.scanFrom]
  | succ n ih =>
    intro cs i j h
    cases cs with
    | nil => simp [Token.scanFrom]
    | cons c cs =>
      by_cases hb : Token.isBlank c = true
      · rw [Token.scanFrom, Token.scanFrom, if_pos hb, if_pos hb]
        exact ih cs _ _ (by simpa using h)
      · rw [scanFrom_cons _ _ (by simpa using hb), scanFrom_cons _ _ (by simpa using hb)]
        rcases hf : Token.first? (c :: cs) with _ | ⟨k, l⟩
        · rfl
        · have hpos := Token.length_first?_pos hf
          simp only [Option.bind_some]
          rw [ih _ (i + byteLength l) (j + byteLength l) (by simp at h ⊢; omega)]

theorem words?_nil : words? [] = some [] := by simp [words?, Token.scan, Token.scanFrom, Except.toOption]

theorem words?_blank {c : Char} (cs : List Char) (h : Token.isBlank c = true) : words? (c :: cs) = words? cs := by
  unfold words? Token.scan
  rw [Token.scanFrom, if_pos h]
  exact words_scanFrom _ cs _ _ (Nat.le_refl _)

/-- The first word of a text that starts with no blank. -/
theorem words?_cons {c : Char} {cs : List Char} (h : Token.isBlank c = false) :
    words? (c :: cs) = (Token.first? (c :: cs)).bind fun x =>
      (words? ((c :: cs).drop x.2.length)).map (Word.of x.1 x.2 :: ·) := by
  unfold words? Token.scan
  rw [scanFrom_cons _ _ h]
  congr 1
  funext x
  rw [words_scanFrom _ _ _ 0 (Nat.le_refl _)]

/-- What the tokens have that stand at the front of some end of a text, all its words have. -/
theorem forall_of_words? {P : Word → Prop} {cs : List Char} {ws : List Word} (h : words? cs = some ws)
    (hP : ∀ c ds k l, c :: ds <:+ cs → Token.first? (c :: ds) = some (k, l) → P (.of k l)) : ∀ w ∈ ws, P w := by
  induction hn : cs.length using Nat.strongRecOn generalizing cs ws with
  | ind n ih =>
    cases cs with
    | nil =>
      rw [words?_nil] at h
      cases h
      simp
    | cons c cs =>
      simp only [List.length_cons] at hn
      by_cases hb : Token.isBlank c = true
      · rw [words?_blank cs hb] at h
        exact ih cs.length (by omega) h (fun d ds k l hd => hP d ds k l (hd.trans (List.suffix_cons c cs))) rfl
      · rw [words?_cons (by simpa using hb)] at h
        obtain ⟨⟨k, l⟩, hf, h⟩ := Option.bind_eq_some_iff.1 h
        obtain ⟨vs, hvs, rfl⟩ := Option.map_eq_some_iff.1 h
        have hpos := Token.length_first?_pos hf
        have hdrop : ((c :: cs).drop l.length).length < n := by
          rw [List.length_drop, List.length_cons]
          omega
        refine List.forall_mem_cons.2 ⟨hP c cs k l List.suffix_rfl hf, ?_⟩
        exact ih _ hdrop hvs (fun d ds k l hd => hP d ds k l (hd.trans (List.drop_suffix _ _))) rfl

end Signpost.Query
