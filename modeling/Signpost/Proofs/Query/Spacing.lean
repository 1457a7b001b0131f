import Mathlib
import Signpost.Proofs.Except
import Signpost.Proofs.Query.Mistakes
import Signpost.Proofs.Query.Reading
import Signpost.Proofs.Query.Tokens

/-!
# Blanks and parentheses

Tokens lie apart from each other, with blanks between them and nothing else, and further blanks between them change
neither what the tokens are nor what is read of them (`scan_blanks`).  Parentheses around a query change nothing either
(`ofText_group`): a query may be read without a look at what follows it.
-/

namespace Signpost.Query

open Word (mark)

namespace Token

variable {ts : List Token} {cs us bs vs : List Char}

/-- The tokens of a text with further blanks at a place in no token. -/
theorem Layout.insert (h : Layout 0 ts (us ++ vs)) (hp : ∀ t ∈ ts, t.stop ≤ byteLength us ∨ byteLength us ≤ t.offset)
    (hb : ∀ b ∈ bs, isBlank b = true) : ∃ ts', Layout 0 ts' (us ++ (bs ++ vs)) ∧
      ts.map (fun t => (t.kind, t.lexeme)) = ts'.map fun t => (t.kind, t.lexeme) := by
  cases bs with
  | nil => exact ⟨ts, h, rfl⟩
  | cons b bs =>
    obtain ⟨xs, ys, rfl, hxs, hys⟩ := h.split (by simpa using hp)
    have hblanks : Layout (0 + byteLength us) (ys.map (Token.shift (byteLength (b :: bs)))) (b :: bs ++ vs) :=
      .append_blanks hb (hys.shift _)
    refine ⟨xs ++ ys.map (Token.shift (byteLength (b :: bs))), hxs.append hblanks fun k d hd => ?_, ?_⟩
    · cases hd
      exact goesOn_of_isBlank k (hb b List.mem_cons_self)
    · rw [List.map_append, List.map_append, List.map_map]
      rfl

/-- The tokens of a text in parentheses. -/
theorem Layout.group (h : Layout 0 ts cs) : ∃ t u, t.kind = .lparen ∧ u.kind = .rparen ∧
    Layout 0 (t :: (ts.map (Token.shift 1) ++ [u])) ('(' :: (cs ++ [')'])) := by
  have hlast : ∀ k : Kind, ∀ d ∈ [')'].head?, k.goesOn d = false := by
    rintro k d ⟨⟩
    cases k with
    | compare op => cases op <;> rfl
    | _ => rfl
  have hu : Layout (0 + 1 + byteLength cs) [⟨.rparen, [')'], 0 + 1 + byteLength cs⟩] [')'] :=
    .first rfl (.sign (k := .rparen) rfl) (fun _ h => nomatch h) (.blanks (List.forall_mem_nil _))
  refine ⟨⟨.lparen, ['('], 0⟩, ⟨.rparen, [')'], 0 + 1 + byteLength cs⟩, rfl, rfl, ?_⟩
  exact .first rfl (.sign (k := .lparen) rfl) (fun _ _ => rfl) ((h.shift 1).append hu hlast)

end Token

variable {rule : Json.RealRule} {e : Expr} {ts ts' : List Token}

/-- What is read of a text and what the mistake is, apart from its place, is up to the tokens. -/
theorem Expr.ofTextWith_congr {text text' : String} (h : Token.scan text.toList = .ok ts)
    (h' : Token.scan text'.toList = .ok ts')
    (heq : ts.map (fun t => (t.kind, t.lexeme)) = ts'.map fun t => (t.kind, t.lexeme)) :
    (ofTextWith rule text).mapError (·.diagnosis.unplaced) =
      (ofTextWith rule text').mapError (·.diagnosis.unplaced) := by
  rw [ofTextWith, ofTextWith, h, h']
  exact Parser.all_congr heq

/-- The tokens of a text lie one after the other, each where its lexeme stands in the text, and all characters that
belong to no token are blanks.  With further blanks at a place in no token, the tokens are the same, and the same is
read, or what is wrong is the same. -/
theorem scan_blanks {text : String} (h : Token.scan text.toList = .ok ts) :
    ts.Pairwise (fun t u => t.offset < u.offset ∧ t.stop ≤ u.offset) ∧
      (∀ t ∈ ts, ∃ before after, text = before ++ t.text ++ after ∧ t.offset = before.utf8ByteSize) ∧
      (∀ before c after, text = before ++ String.singleton c ++ after →
        (∀ t ∈ ts, ¬ (t.offset ≤ before.utf8ByteSize ∧ before.utf8ByteSize < t.stop)) →
          c ∈ [' ', '\t', '\n', '\r']) ∧
      ∀ before blanks after, text = before ++ after →
        (∀ t ∈ ts, t.stop ≤ before.utf8ByteSize ∨ before.utf8ByteSize ≤ t.offset) →
        (∀ b ∈ blanks.toList, b ∈ [' ', '\t', '\n', '\r']) →
          (∃ ts', Token.scan (before ++ blanks ++ after).toList = .ok ts' ∧
            ts'.map (fun t => (t.kind, t.lexeme)) = ts.map fun t => (t.kind, t.lexeme)) ∧
          (Expr.ofText (before ++ blanks ++ after)).mapError (·.diagnosis.unplaced) =
            (Expr.ofText text).mapError (·.diagnosis.unplaced) := by
  have hlayout : Token.Layout 0 ts text.toList := Token.scanFrom_ok_iff.1 h
  refine ⟨hlayout.pairwise.2, fun t ht => ?_, ?_, ?_⟩
  · obtain ⟨us, vs, heq, hn⟩ := hlayout.slice t ht
    refine ⟨String.ofList us, String.ofList vs, ?_, ?_⟩
    · rw [← String.toList_inj, heq]
      simp [Token.text]
    · rw [hn, Nat.zero_add, ← byteLength_toList, String.toList_ofList]
  · rintro before c after rfl hc
    rw [String.toList_append, String.toList_append, String.toList_singleton, List.append_assoc] at hlayout
    rw [← byteLength_toList] at hc
    exact Token.isBlank_iff.1 (hlayout.isBlank_of_not_mem (by simpa using hc))
  · rintro before blanks after rfl hp hb
    rw [String.toList_append] at hlayout
    rw [← byteLength_toList] at hp
    obtain ⟨ts', hts', heq⟩ := hlayout.insert hp fun b hb' => Token.isBlank_iff.2 (hb b hb')
    have hscan : Token.scan (before ++ blanks ++ after).toList = .ok ts' := by
      rw [String.toList_append, String.toList_append, List.append_assoc]
      exact Token.scanFrom_ok_iff.2 hts'
    exact ⟨⟨ts', hscan, heq.symm⟩, Expr.ofTextWith_congr hscan h heq.symm⟩

theorem scan_blanks_of_filter :
    Token.scan "a[?b<='é c']".toList = .ok [⟨.name, ['a'], 0⟩, ⟨.filter, ['[', '?'], 1⟩, ⟨.name, ['b'], 3⟩,
        ⟨.compare .lessOrEqual, ['<', '='], 4⟩, ⟨.raw, ['\'', 'é', ' ', 'c', '\''], 6⟩, ⟨.rbracket, [']'], 12⟩] ∧
      (Expr.ofText ("a[?b<=" ++ "\n\t" ++ "'é c']")).mapError (·.diagnosis.unplaced) =
        (Expr.ofText "a[?b<='é c']").mapError (·.diagnosis.unplaced) := by
  have h : Token.scan "a[?b<='é c']".toList = .ok [⟨.name, ['a'], 0⟩, ⟨.filter, ['[', '?'], 1⟩, ⟨.name, ['b'], 3⟩,
      ⟨.compare .lessOrEqual, ['<', '='], 4⟩, ⟨.raw, ['\'', 'é', ' ', 'c', '\''], 6⟩, ⟨.rbracket, [']'], 12⟩] := by cbv
  exact ⟨h, ((scan_blanks h).2.2.2 "a[?b<=" "\n\t" "'é c']" (by decide) (by decide) (by simp)).2⟩

theorem words?_group {cs : List Char} {ws : List Word} (h : words? cs = some ws) :
    words? ('(' :: (cs ++ [')'])) = some (mark .lparen :: (ws ++ [mark .rparen])) := by
  obtain ⟨ts, hts, rfl⟩ := Option.map_eq_some_iff.1 h
  obtain ⟨t, u, ht, hu, hgroup⟩ := (Token.scanFrom_ok_iff.1 (eq_ok_of_toOption hts)).group
  have hscan : Token.scan ('(' :: (cs ++ [')'])) = .ok (t :: (ts.map (Token.shift 1) ++ [u])) :=
    Token.scanFrom_ok_iff.2 hgroup
  have hwords : wordsOf (ts.map (Token.shift 1)) = wordsOf ts := List.map_map
  rw [words?, hscan, ← (Token.word_eq_mark rfl).2 ht, ← (Token.word_eq_mark rfl).2 hu, ← hwords]
  exact congrArg some (congrArg _ (wordsOf_append _ [u]))

/-- A query in parentheses is read as the query. -/
theorem ofText_group {text : String} (h : Expr.ofText text = .ok e) : Expr.ofText ("(" ++ text ++ ")") = .ok e := by
  obtain ⟨ws, m, hws, hs⟩ := Expr.ofTextWith_ok_iff.1 h
  have hgroup : words? ("(" ++ text ++ ")").toList = some (mark .lparen :: (ws ++ [mark .rparen])) := by
    simpa using words?_group hws
  exact Expr.ofTextWith_ok_iff.2 ⟨_, maxPower, hgroup, .group hs⟩

theorem ofText_group_of_projection :
    Expr.ofText "a[*].b | c" = .ok (.pipe (.project (.field "a") (.field "b")) (.field "c")) ∧
      Expr.ofText ("(" ++ "a[*].b | c" ++ ")") = .ok (.pipe (.project (.field "a") (.field "b")) (.field "c")) := by
  have h : Expr.ofText "a[*].b | c" = .ok (.pipe (.project (.field "a") (.field "b")) (.field "c")) := by cbv
  exact ⟨h, ofText_group h⟩

end Signpost.Query
