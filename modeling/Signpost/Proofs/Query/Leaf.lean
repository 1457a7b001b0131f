import Mathlib
import Signpost.Proofs.Query.Parts
import Signpost.Proofs.Query.Quoting
import Signpost.Proofs.Query.Rereading

/-!
# Leaves read back

A leaf of a query, a field or a literal, is written as one word.  Fields are always read back
(`ofTextWith_render_field`), strings if their raw string is closed (`ofTextWith_render_string_iff`), and other literals
if there is no backtick in their JSON (`ofTextWith_render_literal_iff`).  As every literal in a query that was read is
one that text can stand for (`fits_of_spells`), this says of each of its leaves whether it is read back
(`ofTextWith_render_leaf_iff`).
-/

namespace Signpost.Query

/-- A field or a literal. -/
def Expr.isLeaf : Expr → Bool
  | field _ | literal _ => true
  | _ => false

/-! ### Texts of one word -/

open Token (EndsEarly first?)

variable {rule : Json.RealRule}

/-- A leaf is spelled by one word, or in parentheses. -/
theorem leaf_of_spells {limit m : Nat} {e : Expr} {ws : List Word} (h : Spells rule (.expr limit e) ws m)
    (he : e.isLeaf = true) (hw : ¬ HeadIn [.lparen] ws) : ∃ w, ws = [w] ∧ w.leaf? rule = some (e, m) := by
  cases h with
  | leaf h => exact ⟨_, rfl, h⟩
  | group => exact absurd (by simp [HeadIn]) hw
  | _ => cases he

private theorem words?_ne_nil {cs : List Char} {c : Char} (hc : c ∈ cs) (hb : Token.isBlank c = false) :
    words? cs ≠ some [] := by
  induction cs with
  | nil => cases hc
  | cons d cs ih =>
    by_cases hd : Token.isBlank d = true
    · rw [words?_blank cs hd]
      refine ih ((List.mem_cons.1 hc).resolve_left ?_)
      rintro rfl
      rw [hb] at hd
      cases hd
    · rw [words?_cons (by simpa using hd)]
      intro h
      obtain ⟨_, -, h⟩ := Option.bind_eq_some_iff.1 h
      obtain ⟨_, -, h⟩ := Option.map_eq_some_iff.1 h
      cases h

section

variable {q : Char} {k : Token.Kind} {r : Option (List Char)} {cs : List Char} {e : Expr}

/-- When the first word in quotes ends before the text no leaf is read. -/
theorem ofTextWith_ne_ok (hq : Token.isBlank q = false) (hk : k ≠ .lparen)
    (hfirst : first? (q :: cs) = r.map fun l => (k, q :: l)) (h : EndsEarly q cs r) (he : e.isLeaf = true) :
    Expr.ofTextWith rule (String.ofList (q :: cs)) ≠ .ok e := by
  intro hok
  obtain ⟨ws, m, hws, hs⟩ := Expr.ofTextWith_ok_iff.1 hok
  rw [String.toList_ofList, words?_cons hq, hfirst] at hws
  obtain ⟨x, hx, hws⟩ := Option.bind_eq_some_iff.1 hws
  obtain ⟨l, hl, rfl⟩ := Option.map_eq_some_iff.1 hx
  obtain ⟨ws', hws', rfl⟩ := Option.map_eq_some_iff.1 hws
  obtain ⟨more, rfl, hmore⟩ := h l hl
  obtain ⟨w, hw, -⟩ := leaf_of_spells hs he (by simpa [HeadIn, Word.of] using hk)
  rw [List.length_cons, List.drop_succ_cons, List.drop_left, (List.cons.inj hw).2] at hws'
  exact words?_ne_nil hmore hq hws'

/-- When the first word in quotes is all of the text a leaf is read exactly if the word stands for it. -/
theorem ofTextWith_ok_iff_of_word (hq : Token.isBlank q = false) (hk : k ≠ .lparen)
    (hfirst : first? (q :: cs) = some (k, q :: cs)) (he : e.isLeaf = true) :
    Expr.ofTextWith rule (String.ofList (q :: cs)) = .ok e ↔ ∃ m, (Word.of k (q :: cs)).leaf? rule = some (e, m) := by
  have hwords : words? (q :: cs) = some [Word.of k (q :: cs)] := by
    rw [words?_cons hq, hfirst, Option.bind_some, List.drop_length, words?_nil]
    rfl
  rw [Expr.ofTextWith_ok_iff, String.toList_ofList, hwords]
  constructor
  · rintro ⟨ws, m, hws, hs⟩
    obtain rfl := Option.some.inj hws
    obtain ⟨w, hw, hleaf⟩ := leaf_of_spells hs he (by simpa [HeadIn, Word.of] using hk)
    obtain rfl := List.singleton_inj.1 hw
    exact ⟨m, hleaf⟩
  · rintro ⟨m, hleaf⟩
    exact ⟨_, m, rfl, .leaf hleaf⟩

end

/-! ### Leaves -/

namespace Expr

theorem ofTextWith_render_field (name : String) : ofTextWith rule (field name).render = .ok (field name) := by
  by_cases hn : isPlainName name.toList = true
  · exact (ofTextWith_render_iff (.field hn)).2 ⟨rfl, rfl⟩
  · have hfirst : first? (Literal.quote name) = some (.quotedName, Literal.quote name) := by
      rw [Literal.quote, first?, Token.quotedBy_quote]
      rfl
    have hleaf : (Word.of .quotedName (Literal.quote name)).leaf? rule = some (field name, maxPower - 1) := by
      show (Token.quotedText ⟨_, Literal.quote name, _⟩).toOption.map _ = _
      rw [Token.quotedText_quote rfl]
      rfl
    rw [render, write, writeName, if_neg hn]
    exact (ofTextWith_ok_iff_of_word rfl (by decide) hfirst rfl).2 ⟨_, hleaf⟩

theorem ofTextWith_render_string_iff (s : String) :
    ofTextWith rule (literal (.string s)).render = .ok (literal (.string s)) ↔ Token.isClosed s.toList = true := by
  have hfirst : ∀ cs, first? ('\'' :: cs) = (Token.quotedBy '\'' cs).map fun l => (.raw, '\'' :: l) := fun _ => rfl
  change ofTextWith rule (String.ofList ('\'' :: (Token.escapeRaw s.toList ++ ['\'']))) = _ ↔ _
  cases h : Token.isClosed s.toList with
  | false =>
    refine iff_of_false ?_ Bool.false_ne_true
    exact ofTextWith_ne_ok rfl (by decide) (hfirst _) (Token.endsEarly_escapeRaw h) rfl
  | true =>
    have hword : first? ('\'' :: (Token.escapeRaw s.toList ++ ['\''])) =
        some (.raw, '\'' :: (Token.escapeRaw s.toList ++ ['\''])) := by
      rw [hfirst, Token.quotedBy_escapeRaw h]
      rfl
    refine iff_of_true ((ofTextWith_ok_iff_of_word rfl (by decide) hword rfl).2 ⟨maxPower, ?_⟩) rfl
    show some (literal (.string (Token.rawText ⟨_, '\'' :: (Token.escapeRaw s.toList ++ ['\'']), _⟩)), _) = _
    rw [Token.rawText, Token.inner_of_lexeme rfl, Token.unescape_escapeRaw, String.ofList_toList]

private theorem first?_backtick (cs : List Char) :
    first? ('\x60' :: cs) = (Token.upToBacktick cs).map fun l => (.json, '\x60' :: l) := rfl

private theorem render_literal {l : Literal} (hs : ∀ s, l ≠ .string s) :
    (literal l).render = String.ofList ('\x60' :: (l.write ++ ['\x60'])) := by
  rw [render, write]
  cases l with
  | string s => exact absurd rfl (hs s)
  | _ => rfl

private theorem ofTextWith_backticks_iff {cs : List Char} {l : Literal}
    (h : Token.upToBacktick (cs ++ ['\x60']) = some (cs ++ ['\x60'])) :
    ofTextWith rule (String.ofList ('\x60' :: (cs ++ ['\x60']))) = .ok (literal l) ↔
      Token.literal rule ⟨.json, '\x60' :: (cs ++ ['\x60']), 0⟩ = .ok l := by
  have hword : first? ('\x60' :: (cs ++ ['\x60'])) = some (.json, '\x60' :: (cs ++ ['\x60'])) := by
    rw [first?_backtick, h]
    rfl
  rw [ofTextWith_ok_iff_of_word rfl (by decide) hword rfl]
  constructor
  · rintro ⟨m, hleaf⟩
    obtain ⟨l', hl', hexpr⟩ := Option.map_eq_some_iff.1 hleaf
    obtain rfl : l' = l := by simpa using (Prod.mk.inj hexpr).1
    exact eq_ok_of_toOption hl'
  · intro hread
    refine ⟨maxPower, ?_⟩
    show (Token.literal rule ⟨.json, '\x60' :: (cs ++ ['\x60']), 0⟩).toOption.map _ = _
    rw [hread]
    rfl

theorem ofTextWith_render_literal_iff {l : Literal} (hl : l.Fits 1) (hs : ∀ s, l ≠ .string s) :
    ofTextWith .nearest (literal l).render = .ok (literal l) ↔ '\x60' ∉ l.write := by
  have hlast : l.write.getLast? ≠ some '\\' := by
    obtain ⟨c, cs, hwrite, hc⟩ := (Literal.hasEdges_write hl hs).last
    rw [hwrite, List.getLast?_concat]
    exact fun h => hc.2.2 (Option.some.inj h)
  rw [render_literal hs]
  by_cases hquote : '\x60' ∈ l.write
  · refine iff_of_false ?_ (not_not_intro hquote)
    rcases Token.endsEarly_upToBacktick hlast with h | h
    · -- all of the text is one word, and what is dropped of it leaves an escaped backtick
      rw [ofTextWith_backticks_iff h]
      intro hread
      have heven : Json.parity false l.write ≠ none := by
        rw [Literal.even_write hl]
        exact Option.some_ne_none _
      have hparity := Token.parity_unescape h hquote heven
      obtain ⟨s, rfl⟩ := Token.eq_string_of_literal (by rw [Token.inner_of_lexeme rfl]; exact hparity) hread
      exact hs s rfl
    · exact ofTextWith_ne_ok rfl (by decide) (first?_backtick _) h rfl
  · refine iff_of_true ?_ hquote
    rw [ofTextWith_backticks_iff (Token.upToBacktick_of_not_mem hquote hlast)]
    exact Token.literal_write hl hs hquote (Token.inner_of_lexeme rfl)

/-- Whether the text that is written of a leaf is read as far as it goes: the quotes around a string, between which
backslashes are not escaped, and the backticks around JSON, in which backticks are not. -/
def isLegible : Expr → Bool
  | literal (.string s) => Token.isClosed s.toList
  | literal l => '\x60' ∉ l.write
  | _ => true

end Expr

/-- The queries inside of what is spelled. -/
def Part.parts : Part → List Expr
  | .expr _ e | .left _ _ e | .base _ _ e | .applied _ e | .member _ e => e.parts
  | .items es | .args es => Expr.partsOf es
  | .entries es => Expr.partsOfEntries es

private theorem fits_of_leaf {w : Word} {l : Literal} {m : Nat} (h : w.leaf? rule = some (.literal l, m)) :
    l.Fits 1 := by
  unfold Word.leaf? at h
  split at h
  · cases h
  · obtain ⟨_, -, h⟩ := Option.map_eq_some_iff.1 h
    cases h
  · obtain ⟨l', hl', h⟩ := Option.map_eq_some_iff.1 h
    cases h
    exact Token.fits_of_literal (eq_ok_of_toOption hl')
  · cases h
    exact .string
  · cases h
  · cases h

private theorem mem_of_mem_cons {e : Expr} {es : List Expr} {l : Literal} (h : .literal l ∈ e :: es)
    (he : e.isLeaf = false) : .literal l ∈ es := by
  refine (List.mem_cons.1 h).resolve_left ?_
  rintro rfl
  cases he

private theorem mem_of_mem_append {es fs : List Expr} {e : Expr} {l : Literal} (h : .literal l ∈ e :: (es ++ fs))
    (he : e.isLeaf = false) : .literal l ∈ es ∨ .literal l ∈ fs :=
  List.mem_append.1 (mem_of_mem_cons h he)

/-- The literals of a query that is spelled are such as text can stand for. -/
theorem fits_of_spells {part : Part} {ws : List Word} {m : Nat} (h : Spells rule part ws m) {l : Literal}
    (hl : .literal l ∈ part.parts) : l.Fits 1 := by
  induction h with
  | leaf h =>
    rcases Word.expr_of_leaf h with ⟨name, rfl, -⟩ | ⟨l', rfl, -⟩ | ⟨rfl, -⟩
    · cases List.mem_singleton.1 hl
    · cases List.mem_singleton.1 hl
      exact fits_of_leaf h
    · cases List.mem_singleton.1 hl
  | group _ ih | left _ _ _ ih | base _ ih | bracketed _ _ ih | dotted _ ih | named _ _ ih => exact ih hl
  | not _ ih | reference _ ih | list _ _ ih | hash _ ih | index _ _ ih | memberList _ ih | memberHash _ ih =>
    exact ih (mem_of_mem_cons hl rfl)
  | compare _ _ ihl ihr | and _ _ ihl ihr | or _ _ ihl ihr | pipe _ _ ihl ihr | sub _ _ _ ihl ihr
  | elements _ _ ihl ihr | valuesOf _ _ ihl ihr => exact (mem_of_mem_append hl rfl).elim ihl ihr
  | call _ _ _ ih => exact ih (mem_of_mem_cons hl rfl)
  | slice _ _ _ _ ihl ihr | flatten _ _ ihl ihr =>
    exact (mem_of_mem_append hl rfl).elim (fun h => ihl (mem_of_mem_cons h rfl)) ihr
  | filter _ _ _ ihl ihc ihr =>
    exact (mem_of_mem_append hl rfl).elim (fun h => (List.mem_append.1 h).elim ihl ihr) ihc
  | values _ ih => exact (mem_of_mem_append hl rfl).elim (fun h => nomatch List.mem_singleton.1 h) ih
  | nothing | itself => cases List.mem_singleton.1 hl
  | noArgs => cases hl
  | lastItem _ ih | lastEntry _ _ ih => exact (List.mem_append.1 hl).elim ih fun h => nomatch h
  | item _ _ ih ihs | entry _ _ _ ih ihs | arg _ _ ih ihs | bareArg _ _ _ ih ihs =>
    exact (List.mem_append.1 hl).elim ih ihs

namespace Expr

/-- Every field, and every literal, that stands in a query which is read is read back from what is written of it exactly
if this is legible. -/
theorem ofTextWith_render_leaf_iff {text : String} {e leaf : Expr} (h : ofTextWith .nearest text = .ok e)
    (hmem : leaf ∈ e.parts) (hleaf : leaf.isLeaf = true) :
    ofTextWith .nearest leaf.render = .ok leaf ↔ leaf.isLegible = true := by
  obtain ⟨ws, m, -, hs⟩ := ofTextWith_ok_iff.1 h
  cases leaf with
  | field name => exact iff_of_true (ofTextWith_render_field name) rfl
  | literal l =>
    by_cases hstring : ∃ s, l = .string s
    · obtain ⟨s, rfl⟩ := hstring
      exact ofTextWith_render_string_iff s
    · have hs' : ∀ s, l ≠ .string s := fun s hl => hstring ⟨s, hl⟩
      have hlegible : (literal l).isLegible = decide ('\x60' ∉ l.write) := by
        cases l with
        | string s => exact absurd rfl (hs' s)
        | _ => rfl
      rw [hlegible, decide_eq_true_eq]
      exact ofTextWith_render_literal_iff (fits_of_spells hs hmem) hs'
  | _ => cases hleaf

theorem ofTextWith_render_array :
    ofTextWith .nearest "a[?b == `[\"it's\", 2]`]" = .ok (filter (field "a") current
      (compare .equal (field "b") (literal (.array [.string "it's", .int 2])))) ∧
    ofTextWith .nearest (literal (.array [.string "it's", .int 2])).render =
      .ok (literal (.array [.string "it's", .int 2])) := by
  have h : ofTextWith .nearest "a[?b == `[\"it's\", 2]`]" = .ok (filter (field "a") current
      (compare .equal (field "b") (literal (.array [.string "it's", .int 2])))) := by cbv
  exact ⟨h, (ofTextWith_render_leaf_iff h (by simp [parts]) rfl).2 (by decide)⟩

/-- A string that ends in a backslash is written so that the backslash takes the closing quote along. -/
example : ofTextWith .nearest "`\"a\\\\\"`" = .ok (literal (.string "a\\")) ∧
    (literal (.string "a\\")).render = "'a\\'" ∧
    (literal (.string "a\\")).isLegible = false := ⟨by cbv, by decide, by decide⟩

end Expr

end Signpost.Query
