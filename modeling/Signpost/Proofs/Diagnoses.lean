import Signpost.Proofs.Query.Mistakes
import Signpost.Proofs.Query.Tokens
import Signpost.Proofs.Rules.Grammar

/-!
# Where mistakes lie

What is wrong with a text is said to be at a place of the text, between two of its characters: for a query at the start
of a token or at the end, unless there is something that is no token, and for a template at a brace
(`offset_isValid`).
-/

namespace Signpost

variable {text : String}

namespace Query

/-- A mistake in a query lies behind some of the text. -/
theorem Expr.exists_of_ofText_error {e : SyntaxError} (h : ofText text = .error e) :
    ∃ us vs, text.toList = us ++ vs ∧ e.diagnosis.offset = some (byteLength us) ∧
      (e.diagnosis.kind ≠ .syntaxError → ∃ ts, Token.scan text.toList = .ok ts ∧
        (byteLength us = text.utf8ByteSize ∨ ∃ t ∈ ts, byteLength us = t.offset)) := by
  rw [ofText, ofTextWith] at h
  cases hscan : Token.scan text.toList with
  | error n =>
    rw [hscan] at h
    cases h
    obtain ⟨us, vs, heq, -, rfl⟩ := Token.exists_of_scanFrom_error hscan
    rw [Nat.zero_add]
    exact ⟨us, vs, heq, rfl, fun hk => absurd rfl hk⟩
  | ok ts =>
    rw [hscan] at h
    obtain ⟨n, hn, rfl | ⟨t, ht, rfl⟩⟩ := Parser.offset_of_all_error h
    · refine ⟨text.toList, [], (List.append_nil _).symm, hn, fun _ => ⟨ts, rfl, .inl (byteLength_toList text)⟩⟩
    · obtain ⟨us, vs, heq, ho⟩ := (Token.scanFrom_ok_iff.1 hscan).slice t ht
      rw [Nat.zero_add] at ho
      refine ⟨us, t.lexeme ++ vs, by rw [heq, List.append_assoc], by rw [hn, ho], fun _ => ⟨ts, rfl, ?_⟩⟩
      exact .inr ⟨t, ht, ho.symm⟩

end Query

open Query Rules

private theorem le_of_append {us vs : List Char} (h : text.toList = us ++ vs) : byteLength us ≤ text.utf8ByteSize := by
  rw [← byteLength_toList, h, byteLength_append]
  exact Nat.le_add_right _ _

/-- Every mistake that is reported has an offset, no more than the bytes of the text and on the boundary of a character.
The one in a query is that of a token or the end of the text, if the text consists of tokens, and the one in a template
is that of a brace. -/
theorem offset_isValid (text : String) :
    (∀ e, Expr.ofText text = .error e → ∃ n, e.diagnosis.offset = some n ∧ n ≤ text.utf8ByteSize ∧
      String.Pos.Raw.IsValid text ⟨n⟩ ∧ (e.diagnosis.kind ≠ .syntaxError →
        ∃ ts, Token.scan text.toList = .ok ts ∧ (n = text.utf8ByteSize ∨ ∃ t ∈ ts, n = t.offset))) ∧
    ∀ x, Template.ofText text = .error x → ∃ n, (x.diagnosis text).offset = some n ∧ n ≤ text.utf8ByteSize ∧
      String.Pos.Raw.IsValid text ⟨n⟩ ∧ ∃ before brace after, (brace = '{' ∨ brace = '}') ∧
        text = before ++ String.singleton brace ++ after ∧ n = before.utf8ByteSize := by
  refine ⟨fun e h => ?_, fun x h => ?_⟩
  · obtain ⟨us, vs, heq, hn, htokens⟩ := Expr.exists_of_ofText_error h
    exact ⟨_, hn, le_of_append heq, isValid_of_append heq, htokens⟩
  · obtain ⟨is, us, c, vs, heq, -, hc, -, hn⟩ := Template.exists_of_ofText_error h
    refine ⟨_, hn, le_of_append heq, isValid_of_append heq, String.ofList us, c, String.ofList vs, hc, ?_, ?_⟩
    · rw [← String.toList_inj, heq]
      simp
    · rw [← byteLength_toList, String.toList_ofList]

theorem offset_isValid_of_umlauts :
    (∃ e, Expr.ofText "'ä' ||\t)" = .error e ∧ e.diagnosis.offset = some 8 ∧
      String.Pos.Raw.IsValid "'ä' ||\t)" ⟨8⟩) ∧
    ∃ x, Template.ofText "ä\x7b\x7b\x7bö" = .error x ∧ (x.diagnosis "ä\x7b\x7b\x7bö").offset = some 4 ∧
      String.Pos.Raw.IsValid "ä\x7b\x7b\x7bö" ⟨4⟩ := by
  have hquery : Expr.ofText "'ä' ||\t)" = .error (.unexpected ⟨.rparen, [')'], 8⟩) := by cbv
  have htemplate : Template.ofText "ä\x7b\x7b\x7bö" = .error (.unclosed 4) := by cbv
  obtain ⟨n, hn, -, hvalid, -⟩ := (offset_isValid _).1 _ hquery
  obtain ⟨m, hm, -, hvalid', -⟩ := (offset_isValid _).2 _ htemplate
  cases hn
  cases hm
  exact ⟨⟨_, hquery, rfl, hvalid⟩, _, htemplate, rfl, hvalid'⟩

end Signpost
