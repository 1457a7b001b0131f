import Mathlib.Data.List.Forall2
import Signpost.Proofs.Offsets
import Signpost.Proofs.Query.Lexemes

/-!
# The tokens of a text

How tokens lie in a text (`Token.Layout`), which is how scanning finds them (`scanFrom_ok_iff`).  Texts with their
tokens can be moved (`Layout.shift`), put one behind the other (`Layout.append`), and cut in two at any place that is in
no token (`Layout.split`).
-/

namespace Signpost.Query.Token

/-- The place behind the token. -/
def stop (t : Token) : Nat := t.offset + byteLength t.lexeme

/-- The tokens lie in a text that starts at a byte: none can be longer, and there are only blanks around them. -/
inductive Layout : Nat → List Token → List Char → Prop
  | blanks {n bs} (h : ∀ b ∈ bs, isBlank b = true) : Layout n [] bs
  | token {n bs t ts cs} (hb : ∀ b ∈ bs, isBlank b = true) (hn : t.offset = n + byteLength bs)
    (hl : IsLexeme t.kind t.lexeme) (hc : ∀ c ∈ cs.head?, t.kind.goesOn c = false) (h : Layout t.stop ts cs) :
    Layout n (t :: ts) (bs ++ (t.lexeme ++ cs))

variable {n k : Nat} {t u : Token} {ts us : List Token} {cs ds bs l : List Char} {kind : Kind}

theorem Layout.append_blanks (hb : ∀ b ∈ bs, isBlank b = true) (h : Layout (n + byteLength bs) ts cs) :
    Layout n ts (bs ++ cs) := by
  cases h with
  | blanks h => exact .blanks fun b hb' => (List.mem_append.1 hb').elim (hb b) (h b)
  | token hb' hn hl hc h =>
    rw [← List.append_assoc]
    refine .token (fun b hb'' => (List.mem_append.1 hb'').elim (hb b) (hb' b)) ?_ hl hc h
    rw [hn, byteLength_append, Nat.add_assoc]

theorem Layout.first (hn : t.offset = n) (hl : IsLexeme t.kind t.lexeme)
    (hc : ∀ c ∈ cs.head?, t.kind.goesOn c = false) (h : Layout t.stop ts cs) : Layout n (t :: ts) (t.lexeme ++ cs) := by
  rw [← List.nil_append (t.lexeme ++ cs)]
  exact .token (List.forall_mem_nil _) hn hl hc h

/-! ### Scanning -/

private theorem utf8Size_of_isBlank {c : Char} (h : isBlank c = true) : c.utf8Size = 1 := by
  simpa using eq_false_of_isBlank (p := (·.utf8Size != 1)) rfl h

private theorem scanFrom_blanks (hb : ∀ b ∈ bs, isBlank b = true) :
    scanFrom n (bs ++ cs) = scanFrom (n + byteLength bs) cs := by
  induction bs generalizing n with
  | nil => rfl
  | cons b bs ih =>
    rw [List.forall_mem_cons] at hb
    rw [List.cons_append, scanFrom, if_pos hb.1, ih hb.2, byteLength_cons, utf8Size_of_isBlank hb.1, Nat.add_assoc]

private theorem scanFrom_lexeme (hl : IsLexeme kind l) (hc : ∀ c ∈ cs.head?, kind.goesOn c = false) :
    scanFrom n (l ++ cs) = (scanFrom (n + byteLength l) cs).map (⟨kind, l, n⟩ :: ·) := by
  have hf := first?_eq_some_iff.2 ⟨cs, rfl, hl, hc⟩
  obtain ⟨c, l, rfl, hb⟩ := hl.exists_cons
  rw [List.cons_append] at hf ⊢
  rw [scanFrom, if_neg (by simp [hb])]
  split
  · rename_i h
    rw [hf] at h
    cases h
  · rename_i h
    rw [hf] at h
    cases h
    simp only [List.length_cons, List.drop_succ_cons, List.drop_left]
    cases scanFrom (n + byteLength (c :: l)) cs <;> rfl

theorem layout_of_scanFrom (h : scanFrom n cs = .ok ts) : Layout n ts cs := by
  fun_induction scanFrom n cs generalizing ts with
  | case1 n =>
    cases h
    exact .blanks fun _ h => nomatch h
  | case2 n c rest hb ih =>
    have hlayout := ih h
    rw [← List.singleton_append]
    refine .append_blanks (by simpa using hb) ?_
    rw [byteLength_cons, utf8Size_of_isBlank hb]
    exact hlayout
  | case3 => cases h
  | case4 => cases h
  | case5 n c rest hb kind l hf _ ts' hts ih =>
    cases h
    obtain ⟨cs, hcs, hl, hc⟩ := first?_eq_some_iff.1 hf
    have hlayout := ih hts
    rw [hcs, List.drop_left] at hlayout
    rw [hcs]
    exact .first rfl hl hc hlayout

theorem scanFrom_of_layout (h : Layout n ts cs) : scanFrom n cs = .ok ts := by
  induction h with
  | @blanks n bs h =>
    have hscan : scanFrom n (bs ++ []) = _ := scanFrom_blanks h
    rw [List.append_nil] at hscan
    rw [hscan, scanFrom]
  | token hb hn hl hc _ ih =>
    rw [scanFrom_blanks hb, ← hn, scanFrom_lexeme hl hc, ← stop, ih]
    rfl

theorem scanFrom_ok_iff : scanFrom n cs = .ok ts ↔ Layout n ts cs := ⟨layout_of_scanFrom, scanFrom_of_layout⟩

/-- Where a text is no token, some of it has been scanned. -/
theorem exists_of_scanFrom_error {e : Nat} (h : scanFrom n cs = .error e) :
    ∃ us vs, cs = us ++ vs ∧ first? vs = none ∧ e = n + byteLength us := by
  fun_induction scanFrom n cs with
  | case1 => cases h
  | case2 n c rest hb ih =>
    obtain ⟨us, vs, rfl, hf, rfl⟩ := ih h
    refine ⟨c :: us, vs, rfl, hf, ?_⟩
    rw [byteLength_cons, utf8Size_of_isBlank hb]
    omega
  | case3 n c rest hb hf =>
    cases h
    exact ⟨[], c :: rest, rfl, hf, rfl⟩
  | case4 n c rest hb kind l hf _ e' he ih =>
    cases h
    obtain ⟨us, vs, hcs, hf', rfl⟩ := ih he
    obtain ⟨cs, hcs', -⟩ := first?_eq_some_iff.1 hf
    rw [hcs', List.drop_left] at hcs
    subst hcs
    refine ⟨l ++ us, vs, by rw [hcs', List.append_assoc], hf', ?_⟩
    rw [byteLength_append, Nat.add_assoc]
  | case5 => cases h

/-! ### Where tokens lie -/

theorem stop_eq (hn : t.offset = n + byteLength bs) : t.stop = n + byteLength (bs ++ t.lexeme) := by
  rw [stop, hn, byteLength_append, Nat.add_assoc]

theorem offset_lt_stop (h : IsLexeme t.kind t.lexeme) : t.offset < t.stop := by
  obtain ⟨c, cs, hl, -⟩ := h.exists_cons
  have hpos := byteLength_pos (List.cons_ne_nil c cs)
  rw [stop, hl]
  omega

/-- The token in a text that starts `k` bytes later. -/
def shift (k : Nat) (t : Token) : Token := { t with offset := t.offset + k }

namespace Layout

/-- The tokens follow each other. -/
theorem pairwise (h : Layout n ts cs) :
    (∀ t ∈ ts, n ≤ t.offset) ∧ ts.Pairwise (fun t u => t.offset < u.offset ∧ t.stop ≤ u.offset) := by
  induction h with
  | blanks => exact ⟨fun _ h => (nomatch h), .nil⟩
  | @token n bs t ts cs hb hn hl _ _ ih =>
    have hpos := offset_lt_stop hl
    refine ⟨List.forall_mem_cons.2 ⟨by omega, fun u hu => ?_⟩, List.pairwise_cons.2 ⟨fun u hu => ?_, ih.2⟩⟩
    · have hle := ih.1 u hu
      omega
    · have hle := ih.1 u hu
      omega

/-- A token is a slice of the text. -/
theorem slice (h : Layout n ts cs) : ∀ t ∈ ts, ∃ us vs, cs = us ++ t.lexeme ++ vs ∧ t.offset = n + byteLength us := by
  induction h with
  | blanks => exact fun _ h => nomatch h
  | @token n bs t ts cs hb hn _ _ _ ih =>
    refine List.forall_mem_cons.2 ⟨⟨bs, cs, (List.append_assoc _ _ _).symm, hn⟩, fun u hu => ?_⟩
    obtain ⟨us, vs, rfl, ho⟩ := ih u hu
    refine ⟨bs ++ t.lexeme ++ us, vs, by simp only [List.append_assoc], ?_⟩
    rw [ho, stop_eq hn, byteLength_append (bs ++ t.lexeme), Nat.add_assoc]

/-- A character that belongs to no token is a blank. -/
theorem isBlank_of_not_mem {us vs : List Char} {c : Char} (h : Layout n ts (us ++ c :: vs))
    (hc : ∀ t ∈ ts, ¬ (t.offset ≤ n + byteLength us ∧ n + byteLength us < t.stop)) : isBlank c = true := by
  generalize hcs : us ++ c :: vs = cs at h
  induction h generalizing us with
  | blanks h => exact h c (hcs ▸ List.mem_append_right us List.mem_cons_self)
  | @token n bs t ts cs hb hn hl _ _ ih =>
    rw [List.forall_mem_cons, stop_eq hn] at hc
    -- the character is not in the first token, so it is in the blanks in front of it or behind it
    by_cases hbs : byteLength us < byteLength bs
    · obtain ⟨xs, rfl⟩ := prefix_of_byteLength_le hcs (Nat.le_of_lt hbs)
      rw [List.append_assoc, List.append_cancel_left_eq] at hcs
      cases xs with
      | nil =>
        rw [List.append_nil] at hbs
        omega
      | cons x xs =>
        cases hcs
        exact hb c (List.mem_append_right us List.mem_cons_self)
    · have hle : byteLength (bs ++ t.lexeme) ≤ byteLength us := by omega
      rw [← List.append_assoc] at hcs
      obtain ⟨xs, rfl⟩ := prefix_of_byteLength_le hcs.symm hle
      rw [List.append_assoc, List.append_cancel_left_eq] at hcs
      refine ih (fun u hu => ?_) hcs
      have hu' := hc.2 u hu
      rw [byteLength_append (bs ++ t.lexeme), ← Nat.add_assoc, ← stop_eq hn] at hu'
      exact hu'

/-! ### Texts in parts -/

/-- The tokens do not depend on where the text starts. -/
theorem shift (h : Layout n ts cs) (k : Nat) : Layout (n + k) (ts.map (Token.shift k)) cs := by
  induction h with
  | blanks h => exact .blanks h
  | @token n bs t ts cs hb hn hl hc _ ih =>
    have hstop : (t.shift k).stop = t.stop + k := Nat.add_right_comm _ _ _
    refine .token (t := t.shift k) hb ?_ hl hc (hstop ▸ ih)
    show t.offset + k = n + k + byteLength bs
    omega

/-- Tokens in front of a text with which none of them goes on. -/
theorem append (h : Layout n ts cs) (h' : Layout (n + byteLength cs) us ds)
    (hd : ∀ k : Kind, ∀ d ∈ ds.head?, k.goesOn d = false) : Layout n (ts ++ us) (cs ++ ds) := by
  induction h with
  | blanks h => exact .append_blanks h h'
  | @token n bs t ts cs hb hn hl hc _ ih =>
    rw [List.append_assoc, List.append_assoc]
    refine .token hb hn hl (fun c hc' => ?_) (ih ?_)
    · cases cs with
      | nil => exact hd _ c hc'
      | cons c' cs => exact hc c hc'
    · rw [stop_eq hn, Nat.add_assoc, ← byteLength_append, List.append_assoc]
      exact h'

/-- A text is taken apart at a place in no token. -/
theorem split (h : Layout n ts (cs ++ ds))
    (hp : ∀ t ∈ ts, t.stop ≤ n + byteLength cs ∨ n + byteLength cs ≤ t.offset) :
    ∃ us vs, ts = us ++ vs ∧ Layout n us cs ∧ Layout (n + byteLength cs) vs ds := by
  generalize hw : cs ++ ds = ws at h
  induction h generalizing cs with
  | blanks h =>
    subst hw
    refine ⟨[], [], rfl, .blanks fun b hb => ?_, .blanks fun b hb => ?_⟩
    · exact h b (List.mem_append_left ds hb)
    · exact h b (List.mem_append_right cs hb)
  | @token n bs t ts ws hb hn hl hc h ih =>
    rw [List.forall_mem_cons, stop_eq hn] at hp
    -- a place in front of the first token cuts the blanks in two, and any other is behind the token
    by_cases hbs : byteLength cs ≤ byteLength bs
    · obtain ⟨xs, rfl⟩ := prefix_of_byteLength_le hw hbs
      rw [List.append_assoc, List.append_cancel_left_eq] at hw
      subst hw
      refine ⟨[], t :: ts, rfl, .blanks fun b hb' => hb b (List.mem_append_left xs hb'), ?_⟩
      refine .token (fun b hb' => hb b (List.mem_append_right cs hb')) ?_ hl hc h
      rw [hn, byteLength_append, Nat.add_assoc]
    · have hle : byteLength (bs ++ t.lexeme) ≤ byteLength cs := by omega
      rw [← List.append_assoc] at hw
      obtain ⟨xs, rfl⟩ := prefix_of_byteLength_le hw.symm hle
      rw [List.append_assoc, List.append_cancel_left_eq] at hw
      have hsum : n + byteLength (bs ++ t.lexeme ++ xs) = t.stop + byteLength xs := by
        rw [byteLength_append (bs ++ t.lexeme), ← Nat.add_assoc, ← stop_eq hn]
      rw [hsum] at hp ⊢
      obtain ⟨us, vs, rfl, hus, hvs⟩ := ih hp.2 hw
      refine ⟨t :: us, vs, rfl, ?_, hvs⟩
      rw [List.append_assoc]
      refine .token hb hn hl (fun c hc' => hc c ?_) hus
      rw [← hw]
      cases xs with
      | nil => cases hc'
      | cons x xs => exact hc'

end Layout

end Signpost.Query.Token
