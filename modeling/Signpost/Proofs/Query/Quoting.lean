import Mathlib.Tactic.Common
import Signpost.Proofs.Query.Literal
import Signpost.Query.Parser

/-!
# Quotes of query words

Three sorts of words stand in quotes: names in double quotes, raw strings, and JSON between backticks.  The lexer looks
for the closing quote (`Token.quotedBy`, `Token.upToBacktick`), and reading a word then drops the backslashes before
quotes (`Token.unescape`).  A name is closed where it was written to end (`quotedBy_quote`); a raw string if no
backslash in it takes a quote along (`isClosed`), and JSON if it has no backtick (`upToBacktick_of_not_mem`).  In all
other cases the word ends early, or what is left of JSON in it is no longer JSON (`parity_unescape`, `ofText_ne_ok`).
-/

namespace Signpost.Query

namespace Token

variable {q c : Char} {cs : List Char}

/-! ### The inside of words -/

theorem unescape_cons (h : c = '\\' → ∀ d ∈ cs.head?, d ≠ q) : unescape q (c :: cs) = c :: unescape q cs := by
  cases cs with
  | nil => rw [unescape, unescape]
  | cons d cs => rw [unescape, if_neg fun hc => h hc.1 d rfl hc.2]

/-- Without quotes inside nothing is escaped. -/
theorem unescape_of_not_mem (h : q ∉ cs) : unescape q cs = cs := by
  induction cs with
  | nil => rw [unescape]
  | cons c cs ih =>
    have hcs : q ∉ cs := fun hq => h (List.mem_cons_of_mem _ hq)
    rw [unescape_cons fun _ d hd => ?_, ih hcs]
    rintro rfl
    exact hcs (List.mem_of_mem_head? hd)

theorem quotedBy_cons (hc : c ≠ '\\') (cs : List Char) :
    quotedBy q (c :: cs) = if c = q then some [c] else (quotedBy q cs).map (c :: ·) :=
  quotedBy.eq_3 q c cs fun _ _ h => absurd h hc

/-! ### Raw strings -/

/-- What is written of the characters of a raw string. -/
def escapeRaw (cs : List Char) : List Char := cs.flatMap fun c => if c = '\'' then ['\\', '\''] else [c]

theorem escapeRaw_quote (cs : List Char) : escapeRaw ('\'' :: cs) = '\\' :: '\'' :: escapeRaw cs := rfl

theorem escapeRaw_cons (hc : c ≠ '\'') (cs : List Char) : escapeRaw (c :: cs) = c :: escapeRaw cs := by
  rw [escapeRaw, List.flatMap_cons, if_neg hc]
  rfl

private theorem ne_backslash (hlast : c = '\\' → cs ≠ []) (hback : ∀ d ds, c = '\\' → cs ≠ d :: ds) : c ≠ '\\' := by
  intro hc
  cases cs with
  | nil => exact hlast hc rfl
  | cons d cs => exact hback d cs hc rfl

/-- Whether a raw string of these characters is read as far as it is written: when every backslash takes the next
character along, none takes a quote or the end. -/
def isClosed : List Char → Bool
  | [] => true
  | ['\\'] => false
  | '\\' :: c :: cs => c ≠ '\'' && isClosed cs
  | _ :: cs => isClosed cs

theorem unescape_escapeRaw (cs : List Char) : unescape '\'' (escapeRaw cs) = cs := by
  induction cs with
  | nil => rfl
  | cons c cs ih =>
    by_cases hc : c = '\''
    · rw [hc, escapeRaw_quote, unescape, if_pos ⟨rfl, rfl⟩, ih]
    · rw [escapeRaw_cons hc, unescape_cons, ih]
      rintro - d hd rfl
      cases cs with
      | nil => cases hd
      | cons c' cs =>
        by_cases hc' : c' = '\''
        · rw [hc', escapeRaw_quote] at hd
          cases hd
        · rw [escapeRaw_cons hc'] at hd
          cases hd
          exact hc' rfl

theorem quotedBy_escapeRaw (h : isClosed cs = true) :
    quotedBy '\'' (escapeRaw cs ++ ['\'']) = some (escapeRaw cs ++ ['\'']) := by
  fun_induction isClosed cs with
  | case1 => rfl
  | case2 => cases h
  | case3 c cs ih =>
    obtain ⟨hc, h⟩ := Bool.and_eq_true_iff.1 h
    rw [escapeRaw_cons (by decide), escapeRaw_cons (by simpa using hc), List.cons_append, List.cons_append, quotedBy,
      ih h]
    rfl
  | case4 c cs hlast hback ih =>
    by_cases hc : c = '\''
    · rw [hc, escapeRaw_quote, List.cons_append, List.cons_append, quotedBy, ih h]
      rfl
    · have hc' := ne_backslash hlast hback
      rw [escapeRaw_cons hc, List.cons_append, quotedBy_cons hc', if_neg hc, ih h]
      rfl

/-- A word, if there is one, and text behind it that has the quote again. -/
def EndsEarly (q : Char) (cs : List Char) (r : Option (List Char)) : Prop :=
  ∀ l, r = some l → ∃ more, cs = l ++ more ∧ q ∈ more

private theorem EndsEarly.map {r : Option (List Char)} (h : EndsEarly q cs r) (ds : List Char) :
    EndsEarly q (ds ++ cs) (r.map (ds ++ ·)) := by
  intro l hl
  obtain ⟨l, hl', rfl⟩ := Option.map_eq_some_iff.1 hl
  obtain ⟨more, rfl, hmore⟩ := h l hl'
  exact ⟨more, (List.append_assoc ..).symm, hmore⟩

theorem endsEarly_escapeRaw (h : isClosed cs = false) :
    EndsEarly '\'' (escapeRaw cs ++ ['\'']) (quotedBy '\'' (escapeRaw cs ++ ['\''])) := by
  fun_induction isClosed cs with
  | case1 => cases h
  | case2 => exact fun _ h => nomatch h
  | case3 c cs ih =>
    rw [escapeRaw_cons (by decide)]
    by_cases hc : c = '\''
    · -- the backslash of the character takes the one of the quote along
      rw [hc, escapeRaw_quote, List.cons_append, List.cons_append, List.cons_append, quotedBy,
        quotedBy_cons (by decide), if_pos rfl]
      rintro l ⟨⟩
      exact ⟨escapeRaw cs ++ ['\''], rfl, by simp⟩
    · rw [escapeRaw_cons hc, List.cons_append, List.cons_append, quotedBy]
      exact (ih (by simpa [hc] using h)).map ['\\', c]
  | case4 c cs hlast hback ih =>
    by_cases hc : c = '\''
    · rw [hc, escapeRaw_quote, List.cons_append, List.cons_append, quotedBy]
      exact (ih h).map ['\\', '\'']
    · have hc' := ne_backslash hlast hback
      rw [escapeRaw_cons hc, List.cons_append, quotedBy_cons hc', if_neg hc]
      exact (ih h).map [c]

/-! ### JSON between backticks -/

private theorem upToBacktick_cons (h : c = '\\' → ∀ d ∈ cs.head?, d ≠ '\x60') :
    upToBacktick (c :: cs) = if c = '\x60' then some [c] else (upToBacktick cs).map (c :: ·) := by
  refine upToBacktick.eq_3 c cs fun ds hc hcs => h hc '\x60' ?_ rfl
  rw [hcs]
  rfl

/-- Behind text that does not end in a backslash the quote is not escaped. -/
private theorem upToBacktick_cons_append (hlast : (c :: cs).getLast? ≠ some '\\')
    (h : c = '\\' → ∀ d ∈ cs.head?, d ≠ '\x60') :
    upToBacktick (c :: (cs ++ ['\x60'])) =
      if c = '\x60' then some [c] else (upToBacktick (cs ++ ['\x60'])).map (c :: ·) := by
  refine upToBacktick_cons fun hc d hd => ?_
  cases cs with
  | nil => exact absurd (congrArg some hc) hlast
  | cons e cs => exact h hc d hd

private theorem getLast?_of_cons (hlast : (c :: cs).getLast? ≠ some '\\') : cs.getLast? ≠ some '\\' := by
  cases cs with
  | nil => exact fun h => nomatch h
  | cons d cs => simpa using hlast

theorem upToBacktick_of_not_mem (h : '\x60' ∉ cs) (hlast : cs.getLast? ≠ some '\\') :
    upToBacktick (cs ++ ['\x60']) = some (cs ++ ['\x60']) := by
  induction cs with
  | nil => rfl
  | cons c cs ih =>
    have hcs : '\x60' ∉ cs := fun hq => h (List.mem_cons_of_mem _ hq)
    have hc : c ≠ '\x60' := by
      rintro rfl
      exact h List.mem_cons_self
    rw [List.cons_append, upToBacktick_cons_append hlast, if_neg hc, ih hcs (getLast?_of_cons hlast)]
    · rfl
    · rintro - d hd rfl
      exact hcs (List.mem_of_mem_head? hd)

theorem endsEarly_upToBacktick (hlast : cs.getLast? ≠ some '\\') :
    upToBacktick (cs ++ ['\x60']) = some (cs ++ ['\x60']) ∨
      EndsEarly '\x60' (cs ++ ['\x60']) (upToBacktick (cs ++ ['\x60'])) := by
  fun_induction upToBacktick cs with
  | case1 => exact .inl rfl
  | case2 cs ih =>
    rw [List.cons_append, List.cons_append, upToBacktick]
    rcases ih (getLast?_of_cons (getLast?_of_cons hlast)) with h | h
    · exact .inl (by rw [h]; rfl)
    · exact .inr (h.map ['\\', '\x60'])
  | case3 cs h =>
    rw [List.cons_append, upToBacktick_cons_append hlast, if_pos rfl]
    · refine .inr ?_
      rintro l ⟨⟩
      exact ⟨cs ++ ['\x60'], rfl, by simp⟩
    · exact fun h => nomatch h
  | case4 c cs h hc ih =>
    rw [List.cons_append, upToBacktick_cons_append hlast, if_neg hc]
    · rcases ih (getLast?_of_cons hlast) with h | h
      · exact .inl (by rw [h]; rfl)
      · exact .inr (h.map [c])
    · rintro rfl d hd rfl
      obtain ⟨ds, rfl⟩ := List.head?_eq_some_iff.1 hd
      exact h ds rfl rfl

/-- A backtick that was escaped in a word stands behind an odd number of backslashes when the escape is dropped. -/
theorem parity_unescape {odd : Bool} (htoken : upToBacktick (cs ++ ['\x60']) = some (cs ++ ['\x60']))
    (hmem : '\x60' ∈ cs) (h : Json.parity odd cs ≠ none) : Json.parity odd (unescape '\x60' cs) = none := by
  fun_induction unescape '\x60' cs generalizing odd with
  | case1 => cases hmem
  | case2 c =>
    obtain rfl := List.mem_singleton.1 hmem
    cases htoken
  | case3 c d cs hc ih =>
    obtain ⟨rfl, rfl⟩ := hc
    cases odd with
    | false => exact absurd rfl h
    | true => rfl
  | case4 c d cs hc ih =>
    rw [List.cons_append, upToBacktick_cons] at htoken
    · split at htoken
      · cases htoken
      · rename_i hquote
        obtain ⟨l, hl, hcons⟩ := Option.map_eq_some_iff.1 htoken
        rw [(List.cons.inj hcons).2] at hl
        have hmem' : '\x60' ∈ d :: cs := (List.mem_cons.1 hmem).resolve_left (Ne.symm hquote)
        have hplain : ¬ (c = '\x60' ∧ odd = true) := fun h => hquote h.1
        rw [Json.parity, if_neg hplain] at h ⊢
        split at h
        · rw [if_pos ‹_›]
          exact ih hl hmem' h
        · rw [if_neg ‹_›]
          exact ih hl hmem' h
    · rintro rfl e he rfl
      cases he
      exact hc ⟨rfl, rfl⟩

theorem trim_of_hasEdges (h : Literal.HasEdges cs) : trim cs = cs := by
  obtain ⟨⟨c, ds, hcs, hc⟩, d, es, hcs', hd⟩ := h
  have hfront : cs.dropWhile Unicode.blank.contains = cs := by
    rw [hcs, List.dropWhile_cons_of_neg (by simp [hc.not_blank])]
  unfold trim
  dsimp only
  rw [hfront, hcs', List.reverse_append, List.reverse_singleton, List.singleton_append,
    List.dropWhile_cons_of_neg (by simp [hd.not_blank]), List.reverse_cons, List.reverse_reverse]

private theorem parity_blank {odd : Bool} (hc : Unicode.blank.contains c = true) (cs : List Char) :
    Json.parity odd (c :: cs) = Json.parity false cs := by
  rw [Json.parity, if_neg, if_neg]
  · rintro ⟨rfl, -⟩
    rw [Unicode.not_blank (by decide) (by decide)] at hc
    cases hc
  · rintro rfl
    rw [Unicode.not_blank (by decide) (by decide)] at hc
    cases hc

private theorem parity_ne_none {odd : Bool} (h : ∀ c ∈ cs, Unicode.blank.contains c = true) :
    Json.parity odd cs ≠ none := by
  induction cs generalizing odd with
  | nil => exact fun h => nomatch h
  | cons c cs ih =>
    rw [parity_blank (h c List.mem_cons_self)]
    exact ih fun d hd => h d (List.mem_cons_of_mem _ hd)

/-- Blanks at the ends have no part in escaping. -/
theorem parity_trim (h : Json.parity false cs = none) : Json.parity false (trim cs) = none := by
  have hfront : Json.parity false (cs.dropWhile Unicode.blank.contains) = none := by
    induction cs with
    | nil => exact h
    | cons c cs ih =>
      rw [List.dropWhile_cons]
      split
      · rename_i hc
        rw [parity_blank hc] at h
        exact ih h
      · exact h
  have hends := congrArg List.reverse
    (List.takeWhile_append_dropWhile (p := Unicode.blank.contains) (l := (cs.dropWhile Unicode.blank.contains).reverse))
  rw [List.reverse_append, List.reverse_reverse] at hends
  rw [← hends, Json.parity_append] at hfront
  by_contra hne
  obtain ⟨odd, hodd⟩ := Option.ne_none_iff_exists'.1 hne
  change Json.parity false (List.reverse _) = some odd at hodd
  rw [hodd] at hfront
  exact parity_ne_none (fun c hc => List.all_eq_true.1 List.all_takeWhile c (List.mem_reverse.1 hc)) hfront

variable {rule : Json.RealRule}

/-- What JSON text says is never read of a text in which a backtick stands behind an odd number of backslashes. -/
theorem ofText_ne_ok (h : Json.parity false cs = none) (v : Json.Value) : Json.Value.ofText rule cs ≠ .ok v := by
  intro hv
  obtain ⟨rest, hsays, hrest⟩ := Json.Value.ofText_ok_iff.1 hv
  have hblank := Json.evenUpTo_skipBlanks rest
  rw [hrest] at hblank
  obtain ⟨used, hused, heven⟩ := (Json.even_of_says hsays).trans hblank
  rw [List.append_nil] at hused
  rw [hused, heven] at h
  cases h

/-- Text in double quotes is read as nothing but a string. -/
theorem eq_string_of_ofText {v : Json.Value} (h : Json.Value.ofText rule ('"' :: cs) = .ok v) : ∃ s, v = .string s := by
  obtain ⟨rest, hsays, -⟩ := Json.Value.ofText_ok_iff.1 h
  cases hsays with
  | blank hc => cases hc
  | number hc => exact absurd hc (by decide)
  | string => exact ⟨_, rfl⟩

theorem inner_of_lexeme {t : Token} {d : Char} (h : t.lexeme = c :: (cs ++ [d])) : t.inner = cs := by
  rw [inner, h, List.drop_succ_cons, List.drop_zero, List.dropLast_concat]

/-- JSON without backticks is the literal that it was written of. -/
theorem literal_write {t : Token} {l : Literal} (hl : l.Fits 1) (hs : ∀ s, l ≠ .string s) (hquote : '\x60' ∉ l.write)
    (ht : t.inner = l.write) : t.literal .nearest = .ok l := by
  obtain ⟨v, hv, hsays⟩ := Literal.said_of_fits hl [] fun _ h => nomatch h
  rw [List.append_nil] at hsays
  have hread : Json.Value.ofText .nearest l.write = .ok v := Json.Value.ofText_ok_iff.2 ⟨[], hsays, rfl⟩
  rw [literal, ht, unescape_of_not_mem hquote, trim_of_hasEdges (Literal.hasEdges_write hl hs), hread]
  exact congrArg Except.ok hv

/-- What stands between backticks is a literal that text can stand for. -/
theorem fits_of_literal {t : Token} {l : Literal} (h : t.literal rule = .ok l) : l.Fits 1 := by
  have hfits : ∀ {cs v}, Json.Value.ofText rule cs = .ok v → (Literal.ofJson v).Fits 1 := by
    intro cs v hv
    obtain ⟨rest, hsays, -⟩ := Json.Value.ofText_ok_iff.1 hv
    exact Literal.fits_ofJson hsays
  unfold literal at h
  dsimp only at h
  split at h
  · rename_i hv
    cases h
    exact hfits hv
  · split at h
    · rename_i hv
      cases h
      exact hfits hv
    · cases h

/-- When a backtick stands behind an odd number of backslashes nothing but a string is read. -/
theorem eq_string_of_literal {t : Token} {l : Literal} (hparity : Json.parity false (unescape '\x60' t.inner) = none)
    (h : t.literal rule = .ok l) : ∃ s, l = .string s := by
  unfold literal at h
  dsimp only at h
  split at h
  · rename_i hv
    exact absurd hv (ofText_ne_ok (parity_trim hparity) _)
  · split at h
    · rename_i v hv
      cases h
      obtain ⟨s, rfl⟩ := eq_string_of_ofText hv
      exact ⟨s, rfl⟩
    · cases h

/-! ### Names in quotes -/

private theorem quotedBy_quoteChar (c : Char) (cs : List Char) :
    quotedBy '"' (Literal.quoteChar c ++ cs) = (quotedBy '"' cs).map (Literal.quoteChar c ++ ·) := by
  have hdigit : ∀ n < 16, Hexadecimal.small n ≠ '\\' ∧ Hexadecimal.small n ≠ '"' := by decide
  unfold Literal.quoteChar
  split
  case h_6 _ hquote hback hn ht hr =>
    split
    · rename_i hc
      obtain ⟨ha, ha'⟩ := hdigit (c.toNat / 16) (by omega)
      obtain ⟨hb, hb'⟩ := hdigit (c.toNat % 16) (by omega)
      simp only [List.cons_append, List.nil_append]
      rw [quotedBy, quotedBy_cons (by decide), if_neg (by decide), quotedBy_cons (by decide), if_neg (by decide),
        quotedBy_cons ha, if_neg ha', quotedBy_cons hb, if_neg hb']
      simp only [Option.map_map]
      rfl
    · rw [List.singleton_append, quotedBy_cons hback, if_neg hquote]
      rfl
  all_goals rfl

theorem quotedBy_quote (cs : List Char) : quotedBy '"' (cs.flatMap Literal.quoteChar ++ ['"']) =
    some (cs.flatMap Literal.quoteChar ++ ['"']) := by
  induction cs with
  | nil => rfl
  | cons c cs ih =>
    rw [List.flatMap_cons, List.append_assoc, quotedBy_quoteChar, ih]
    rfl

theorem quotedText_quote {t : Token} {name : String} (h : t.lexeme = Literal.quote name) : t.quotedText = .ok name := by
  have hscan := Json.Quoted.scan_quote name.toList []
  rw [String.ofList_toList] at hscan
  rw [quotedText, h, Literal.quote, jsonString, hscan]
  rfl

end Token

end Signpost.Query
