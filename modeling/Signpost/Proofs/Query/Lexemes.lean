import Signpost.Proofs.Query.Quoting
import Signpost.Proofs.Query.Word

/-!
# Lexemes

Which texts are lexemes of a kind (`Token.IsLexeme`), and which characters go on with a lexeme when they stand behind
it (`Token.Kind.goesOn`).  A token at the front of a text is a lexeme that the next character does not go on with
(`first?_eq_some_iff`): nothing else of what follows has a say in where it ends.
-/

namespace Signpost.Query

/-- The lexeme of a kind that has only one. -/
def Token.Kind.sign : Token.Kind → List Char
  | flatten => ['[', ']']
  | filter => ['[', '?']
  | lbracket => ['[']
  | rbracket => [']']
  | lbrace => ['{']
  | rbrace => ['}']
  | lparen => ['(']
  | rparen => [')']
  | comma => [',']
  | colon => [':']
  | dot => ['.']
  | star => ['*']
  | current => ['@']
  | and => ['&', '&']
  | reference => ['&']
  | or => ['|', '|']
  | pipe => ['|']
  | not => ['!']
  | compare op => op.sign.toList
  | json | raw | quotedName | name | number => []

/-- Whether a lexeme of the kind goes on with the character. -/
def Token.Kind.goesOn (k : Token.Kind) (c : Char) : Bool :=
  match k with
  | name => isNamePart c
  | number => c.isDigit
  | lbracket => c == ']' || c == '?'
  | reference => c == '&'
  | pipe => c == '|'
  | not | compare .less | compare .greater => c == '='
  | _ => false

namespace Token

/-- The text is a lexeme of the kind. -/
inductive IsLexeme : Kind → List Char → Prop
  | json {cs} (h : upToBacktick cs = some cs) : IsLexeme .json ('\x60' :: cs)
  | raw {cs} (h : quotedBy '\'' cs = some cs) : IsLexeme .raw ('\'' :: cs)
  | quotedName {cs} (h : quotedBy '"' cs = some cs) : IsLexeme .quotedName ('"' :: cs)
  | name {cs} (h : isPlainName cs = true) : IsLexeme .name cs
  | number {ds} (hne : ds ≠ []) (h : ∀ d ∈ ds, d.isDigit = true) : IsLexeme .number ds
  | negative {ds} (hne : ds ≠ []) (h : ∀ d ∈ ds, d.isDigit = true) : IsLexeme .number ('-' :: ds)
  | sign {k} (h : k.isVariable = false) : IsLexeme k k.sign

variable {cs l rest : List Char} {k : Kind} {c q : Char}

/-! ### Quotes -/

private theorem quotedBy_append (hq : q ≠ '\\') (h : quotedBy q cs = some l) (rest : List Char) :
    quotedBy q (cs ++ rest) = some l := by
  fun_induction quotedBy q cs generalizing l with
  | case1 => cases h
  | case2 c cs ih =>
    obtain ⟨l', hl, rfl⟩ := Option.map_eq_some_iff.1 h
    rw [List.cons_append, List.cons_append, quotedBy, ih hl]
    rfl
  | case3 cs hne =>
    cases h
    rw [List.cons_append, quotedBy, if_pos rfl]
    rintro c ds rfl
    exact absurd rfl hq
  | case4 c cs hne hc ih =>
    obtain ⟨l', hl, rfl⟩ := Option.map_eq_some_iff.1 h
    have hcs : cs ≠ [] := by
      rintro rfl
      cases hl
    obtain ⟨d, ds, rfl⟩ := List.exists_cons_of_ne_nil hcs
    rw [List.cons_append, quotedBy, if_neg hc, ih hl]
    · rfl
    · rintro d' ds' rfl heq
      exact hne d ds rfl rfl

private theorem prefix_of_quotedBy (h : quotedBy q cs = some l) : l <+: cs ∧ quotedBy q l = some l := by
  fun_induction quotedBy q cs generalizing l with
  | case1 => cases h
  | case2 c cs ih =>
    obtain ⟨l', hl, rfl⟩ := Option.map_eq_some_iff.1 h
    obtain ⟨hp, hl⟩ := ih hl
    refine ⟨by simpa using hp, ?_⟩
    rw [quotedBy, hl]
    rfl
  | case3 cs hne =>
    cases h
    refine ⟨by simp, ?_⟩
    rw [quotedBy, if_pos rfl]
    rintro c ds rfl h
    cases h
  | case4 c cs hne hc ih =>
    obtain ⟨l', hl, rfl⟩ := Option.map_eq_some_iff.1 h
    obtain ⟨hp, hl⟩ := ih hl
    refine ⟨by simpa using hp, ?_⟩
    rw [quotedBy, if_neg hc, hl]
    · rfl
    · rintro d ds rfl rfl
      obtain ⟨ws, rfl⟩ := hp
      exact hne d (ds ++ ws) rfl rfl

private theorem upToBacktick_append (h : upToBacktick cs = some l) (rest : List Char) :
    upToBacktick (cs ++ rest) = some l := by
  fun_induction upToBacktick cs generalizing l with
  | case1 => cases h
  | case2 cs ih =>
    obtain ⟨l', hl, rfl⟩ := Option.map_eq_some_iff.1 h
    rw [List.cons_append, List.cons_append, upToBacktick, ih hl]
    rfl
  | case3 cs hne =>
    cases h
    rw [List.cons_append, upToBacktick, if_pos rfl]
    rintro ds h
    cases h
  | case4 c cs hne hc ih =>
    obtain ⟨l', hl, rfl⟩ := Option.map_eq_some_iff.1 h
    have hcs : cs ≠ [] := by
      rintro rfl
      cases hl
    obtain ⟨d, ds, rfl⟩ := List.exists_cons_of_ne_nil hcs
    rw [List.cons_append, upToBacktick, if_neg hc, ih hl]
    · rfl
    · rintro ds' rfl heq
      obtain ⟨rfl, -⟩ := List.cons.inj heq
      exact hne ds rfl rfl

private theorem prefix_of_upToBacktick (h : upToBacktick cs = some l) : l <+: cs ∧ upToBacktick l = some l := by
  fun_induction upToBacktick cs generalizing l with
  | case1 => cases h
  | case2 cs ih =>
    obtain ⟨l', hl, rfl⟩ := Option.map_eq_some_iff.1 h
    obtain ⟨hp, hl⟩ := ih hl
    refine ⟨by simpa using hp, ?_⟩
    rw [upToBacktick, hl]
    rfl
  | case3 cs hne =>
    cases h
    refine ⟨by simp, ?_⟩
    rw [upToBacktick, if_pos rfl]
    rintro ds h
    cases h
  | case4 c cs hne hc ih =>
    obtain ⟨l', hl, rfl⟩ := Option.map_eq_some_iff.1 h
    obtain ⟨hp, hl⟩ := ih hl
    refine ⟨by simpa using hp, ?_⟩
    rw [upToBacktick, if_neg hc, hl]
    · rfl
    · rintro ds rfl rfl
      obtain ⟨ws, rfl⟩ := hp
      exact hne (ds ++ ws) rfl rfl

/-! ### Names and numbers -/

/-- Characters of a sort in front of one that is not of the sort. -/
private theorem takeWhile_append_eq {p : Char → Bool} (hl : ∀ c ∈ l, p c = true) (hr : ∀ c ∈ rest.head?, p c = false) :
    (l ++ rest).takeWhile p = l := by
  rw [List.takeWhile_append_of_pos hl]
  cases rest with
  | nil => simp
  | cons c rest => simp [hr c rfl]

/-- The characters of a sort at the front of a text, and what follows them. -/
private theorem exists_takeWhile (p : Char → Bool) (cs : List Char) :
    ∃ rest, cs = cs.takeWhile p ++ rest ∧ ∀ c ∈ rest.head?, p c = false := by
  refine ⟨cs.dropWhile p, List.takeWhile_append_dropWhile.symm, fun c hc => ?_⟩
  have h := List.head?_dropWhile_not p cs
  rw [hc] at h
  simpa using h

theorem not_isNameStart_of_isDigit (h : c.isDigit = true) : isNameStart c = false := by
  have hc : c ≠ '_' := by
    rintro rfl
    exact absurd h (by decide)
  unfold isNameStart Char.isAlpha Char.isUpper Char.isLower
  unfold Char.isDigit at h
  grind

theorem first?_digit (h : c.isDigit = true) (cs : List Char) :
    first? (c :: cs) = some (.number, c :: cs.takeWhile Char.isDigit) := by
  unfold first?
  split <;> simp_all [not_isNameStart_of_isDigit]

theorem first?_name (hc : isNameStart c = true) (cs : List Char) :
    first? (c :: cs) = some (.name, c :: cs.takeWhile isNamePart) := by
  unfold first?
  split <;> simp_all [isNameStart]
  grind

/-! ### The token at the front of a text -/

/-- A sign of one character with which longer ones start. -/
private theorem first?_short (hc : (c, k) ∈ [('[', Kind.lbracket), ('&', .reference), ('|', .pipe), ('!', .not),
      ('<', .compare .less), ('>', .compare .greater)]) (hr : ∀ d ∈ rest.head?, k.goesOn d = false) :
    first? (c :: rest) = some (k, [c]) := by
  cases rest with
  | nil =>
    have hsigns : ∀ x ∈ [('[', Kind.lbracket), ('&', .reference), ('|', .pipe), ('!', .not),
        ('<', .compare .less), ('>', .compare .greater)], first? [x.1] = some (x.2, [x.1]) := by decide
    exact hsigns _ hc
  | cons d ds =>
    have hd := hr d rfl
    simp only [List.mem_cons, List.not_mem_nil, or_false, Prod.mk.injEq] at hc
    unfold first?
    split <;> grind [Kind.goesOn]

private theorem first?_sign (hk : k.isVariable = false) (hr : ∀ c ∈ rest.head?, k.goesOn c = false) :
    first? (k.sign ++ rest) = some (k, k.sign) := by
  cases k with
  | lbracket | reference | pipe | not => exact first?_short (by simp) hr
  | compare op =>
    cases op with
    | less => exact first?_short (c := '<') (by simp) hr
    | greater => exact first?_short (c := '>') (by simp) hr
    | _ => rfl
  | json | raw | quotedName | name | number => cases hk
  | _ => rfl

/-- What goes on with none of the lexemes of a kind. -/
private theorem exists_of_first? (h : first? cs = some (k, l)) :
    ∃ rest, cs = l ++ rest ∧ IsLexeme k l ∧ ∀ c ∈ rest.head?, k.goesOn c = false := by
  unfold first? at h
  split at h
  case h_1 =>
    obtain ⟨l', hl, heq⟩ := Option.map_eq_some_iff.1 h
    cases heq
    obtain ⟨⟨rest, rfl⟩, hl'⟩ := prefix_of_upToBacktick hl
    exact ⟨rest, rfl, .json hl', fun _ _ => rfl⟩
  case h_2 =>
    obtain ⟨l', hl, heq⟩ := Option.map_eq_some_iff.1 h
    cases heq
    obtain ⟨⟨rest, rfl⟩, hl'⟩ := prefix_of_quotedBy hl
    exact ⟨rest, rfl, .raw hl', fun _ _ => rfl⟩
  case h_3 =>
    obtain ⟨l', hl, heq⟩ := Option.map_eq_some_iff.1 h
    cases heq
    obtain ⟨⟨rest, rfl⟩, hl'⟩ := prefix_of_quotedBy hl
    exact ⟨rest, rfl, .quotedName hl', fun _ _ => rfl⟩
  case h_4 cs =>
    obtain ⟨rest, hcs, hr⟩ := exists_takeWhile Char.isDigit cs
    split at h
    · cases h
    · rename_i hne
      cases h
      refine ⟨rest, congrArg _ hcs, .negative hne fun d hd => ?_, hr⟩
      exact List.all_eq_true.1 List.all_takeWhile d hd
  case h_29 c cs _ _ _ _ _ _ _ _ _ _ _ _ _ _ _ _ _ _ _ _ _ _ _ _ _ _ _ _ =>
    split at h
    · rename_i hc
      obtain ⟨rest, hcs, hr⟩ := exists_takeWhile isNamePart cs
      cases h
      refine ⟨rest, congrArg _ hcs, .name ?_, hr⟩
      rw [isPlainName, hc, List.all_takeWhile, Bool.and_self]
    · split at h
      · rename_i hc
        obtain ⟨rest, hcs, hr⟩ := exists_takeWhile Char.isDigit cs
        cases h
        refine ⟨rest, congrArg _ hcs, .number (List.cons_ne_nil _ _) ?_, hr⟩
        exact List.forall_mem_cons.2 ⟨hc, fun d hd => List.all_eq_true.1 List.all_takeWhile d hd⟩
      · cases h
  case h_30 => cases h
  -- signs that start longer ones: the longer ones were tried before
  case h_7 | h_19 | h_21 | h_23 | h_26 | h_28 =>
    cases h
    refine ⟨_, rfl, .sign rfl, fun c hc => ?_⟩
    obtain ⟨ds, rfl⟩ := List.head?_eq_some_iff.1 hc
    simp_all [Kind.goesOn]
  all_goals
    cases h
    exact ⟨_, rfl, .sign rfl, fun _ _ => rfl⟩

/-- A token is a lexeme that the next character does not go on with. -/
theorem first?_eq_some_iff : first? cs = some (k, l) ↔
    ∃ rest, cs = l ++ rest ∧ IsLexeme k l ∧ ∀ c ∈ rest.head?, k.goesOn c = false := by
  refine ⟨exists_of_first?, ?_⟩
  rintro ⟨rest, rfl, hl, hr⟩
  cases hl with
  | json h =>
    rw [List.cons_append, first?, upToBacktick_append h]
    rfl
  | raw h =>
    rw [List.cons_append, first?, quotedBy_append (by decide) h]
    rfl
  | quotedName h =>
    rw [List.cons_append, first?, quotedBy_append (by decide) h]
    rfl
  | name h =>
    cases l with
    | nil => cases h
    | cons c cs =>
      simp only [isPlainName, Bool.and_eq_true, List.all_eq_true] at h
      rw [List.cons_append, first?_name h.1, takeWhile_append_eq h.2 hr]
  | number hne h =>
    cases l with
    | nil => exact absurd rfl hne
    | cons d ds =>
      rw [List.forall_mem_cons] at h
      rw [List.cons_append, first?_digit h.1, takeWhile_append_eq h.2 hr]
  | @negative ds hne h =>
    obtain ⟨d, ds, rfl⟩ := List.exists_cons_of_ne_nil hne
    rw [List.cons_append, first?, takeWhile_append_eq h hr]
  | sign h => exact first?_sign h hr

/-! ### Blanks -/

theorem isBlank_iff : isBlank c = true ↔ c ∈ [' ', '\t', '\n', '\r'] := by
  simp [isBlank, or_assoc]

theorem eq_false_of_isBlank {p : Char → Bool} (hp : [' ', '\t', '\n', '\r'].any p = false) (h : isBlank c = true) :
    p c = false := by
  simpa using List.any_eq_false.1 hp c (isBlank_iff.1 h)

private theorem not_isBlank {p : Char → Bool} (hp : [' ', '\t', '\n', '\r'].any p = false) (h : p c = true) :
    isBlank c = false := by
  cases hb : isBlank c with
  | false => rfl
  | true =>
    rw [eq_false_of_isBlank hp hb] at h
    cases h

/-- No lexeme starts with a blank. -/
theorem IsLexeme.exists_cons (h : IsLexeme k l) : ∃ c cs, l = c :: cs ∧ isBlank c = false := by
  cases h with
  | json | raw | quotedName | negative => exact ⟨_, _, rfl, rfl⟩
  | name h =>
    cases l with
    | nil => cases h
    | cons c cs =>
      rw [isPlainName, Bool.and_eq_true] at h
      exact ⟨c, cs, rfl, not_isBlank rfl h.1⟩
  | number hne h =>
    obtain ⟨d, ds, rfl⟩ := List.exists_cons_of_ne_nil hne
    exact ⟨d, ds, rfl, not_isBlank rfl (h d List.mem_cons_self)⟩
  | sign h =>
    cases k with
    | compare op => cases op <;> exact ⟨_, _, rfl, rfl⟩
    | json | raw | quotedName | name | number => cases h
    | _ => exact ⟨_, _, rfl, rfl⟩

/-- No lexeme goes on with a blank. -/
theorem goesOn_of_isBlank (k : Kind) (h : isBlank c = true) : k.goesOn c = false := by
  have hblank : [' ', '\t', '\n', '\r'].any k.goesOn = false := by
    cases k with
    | compare op => cases op <;> rfl
    | _ => rfl
  exact eq_false_of_isBlank hblank h

end Token

/-- A name among the words of a text has letters, digits and underscores only, and no digit in front. -/
theorem isPlainName_of_words? {cs : List Char} {ws : List Word} (h : words? cs = some ws) :
    ∀ w ∈ ws, w.kind = .name → isPlainName w.lexeme = true :=
  forall_of_words? h fun _ _ k _ _ hf hk => by
    obtain rfl : k = .name := hk
    obtain ⟨_, -, hl, -⟩ := Token.first?_eq_some_iff.1 hf
    cases hl with
    | name h => exact h
    | sign h => cases h

end Signpost.Query
