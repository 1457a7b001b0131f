import Signpost.Proofs.Query.Faithful
import Signpost.Proofs.Query.Weight
import Signpost.Proofs.Query.Reading

/-!
# Reading written queries

Which expressions come back when their text is read.  What `Faithful` asks for is not only enough but needed: where
the words of an expression spell it, every part of the tree is spelled by the words that are written for it.  For
the sides of an operator this is `Leaner.split`, for what stands in brackets `Closed.split`.
-/

namespace Signpost.Query

open Token (Kind)
open Word (mark)

namespace Expr

variable {rule : Json.RealRule} {limit least m : Nat} {k : Kind} {e : Expr} {us vs ws : List Word} {w : Word}

/-- Written words start with something closed and then go on, not with a parenthesis. -/
private theorem words_open (h : Plain e) :
    ∃ us w vs, e.words = us ++ w :: vs ∧ Closed us ∧ (us = [] → w.kind ≠ .lparen) := by
  have ho : ∀ {l least}, Plain l → Closed (operandWords least l l.words) :=
    fun h => closed_operandWords (closed_words h)
  have hb : ∀ {l least}, Plain l → Closed (baseWords least l l.words) := fun h => closed_baseWords (closed_words h)
  cases h with
  | sub hl _ => exact ⟨_, _, _, rfl, ho hl, by simp⟩
  | index hl _ => exact ⟨_, _, _, rfl, hb hl, by simp⟩
  | slices hl _ _ _ _ =>
    exact ⟨_, _, _, by rw [words, collectionWords, words, List.append_assoc]; rfl, hb hl, by simp⟩
  | flattened hl _ => exact ⟨_, _, _, by rw [words, collectionWords, words, List.append_assoc]; rfl, hb hl, by simp⟩
  | elements hl _ =>
    exact ⟨_, _, _, by rw [words, collectionWords_eq hl, List.append_assoc]; rfl, hb hl, by simp⟩
  | filter hl _ _ => exact ⟨_, _, _, rfl, hb hl, by simp⟩
  | @projectValues l r hl _ =>
    rw [words, valuesWords]
    by_cases hc : l.isCurrent = true
    · rw [if_pos hc]
      exact ⟨[], _, _, rfl, rfl, by simp⟩
    · rw [if_neg hc, List.append_assoc]
      exact ⟨_, _, _, rfl, ho hl, by simp⟩
  | compare hl _ => exact ⟨_, _, _, rfl, ho hl, by simp⟩
  | and hl _ => exact ⟨_, _, _, rfl, ho hl, by simp⟩
  | or hl _ => exact ⟨_, _, _, rfl, ho hl, by simp⟩
  | pipe hl _ => exact ⟨_, _, _, rfl, ho hl, by simp⟩
  | field => exact ⟨[], _, _, rfl, rfl, by simp [nameWord, Word.of]⟩
  | call => exact ⟨[], _, _, rfl, rfl, by simp [nameWord, Word.of]⟩
  | _ => exact ⟨[], _, _, rfl, rfl, by simp⟩

/-- No expression is written in parentheses of its own. -/
private theorem words_ne_group (h : Plain e) (hws : Closed ws) :
    e.words ≠ mark .lparen :: (ws ++ [mark .rparen]) := by
  intro hg
  obtain ⟨us, w, vs, hw, hu, hk⟩ := words_open h
  rw [hw] at hg
  cases us with
  | nil => exact hk rfl (by rw [(List.cons.inj hg).1]; rfl)
  | cons u us =>
    have hnil := hu.eq_group (by simp) hws hg
    cases hnil

/-- Words that are no group are written without parentheses. -/
private theorem words_of_operand (h : Plain e) (hu : Closed us) (hw : us = [] → w.kind ≠ .lparen)
    (heq : us ++ w :: vs = operandWords least e e.words) : us ++ w :: vs = e.words ∧ ¬ e.power < least := by
  unfold operandWords at heq
  by_cases hp : e.power < least
  · rw [if_pos hp] at heq
    cases us with
    | nil => exact absurd (by rw [(List.cons.inj heq).1]; rfl) (hw rfl)
    | cons u us =>
      have hnil := hu.eq_group (by simp) (closed_words h) heq
      cases hnil
  · rw [if_neg hp] at heq
    exact ⟨heq, hp⟩

/-- What is to be shown of an operand: it is faithful, no limit from the left reaches into it, and no more may
follow than its right edge allows. -/
structure Fits (limit least m : Nat) (e : Expr) : Prop where
  faithful : e.faithful false = true
  lead : limit < leadIn least e e.lead
  room : m ≤ roomIn least e e.room

private theorem fits_of_words {u : List Word} (h : Plain e) (hu : Closed u) (hw : u = [] → w.kind ≠ .lparen)
    (heq : u ++ w :: vs = operandWords least e e.words)
    (hf : u ++ w :: vs = e.words → e.faithful false = true ∧ limit < e.lead ∧ m ≤ e.room) : Fits limit least m e := by
  obtain ⟨heq, hp⟩ := words_of_operand h hu hw heq
  obtain ⟨hf, hl, hr⟩ := hf heq
  refine ⟨hf, ?_, ?_⟩
  · rwa [leadIn, if_neg hp]
  · rwa [roomIn, if_neg hp]

private theorem fits_of_cons (h : Plain e) (hw : w.kind ≠ .lparen) (heq : w :: vs = operandWords least e e.words)
    (hf : w :: vs = e.words → e.faithful false = true ∧ limit < e.lead ∧ m ≤ e.room) : Fits limit least m e :=
  fits_of_words (u := []) h rfl (fun _ => hw) heq hf

/-- What words that spell a part and are written for it say of the part. -/
def Reread (m : Nat) (ws : List Word) : Part → Prop
  | .expr limit e => limit ≤ maxPower → Plain e → ∀ least, ws = operandWords least e e.words → Fits limit least m e
  | .left limit k e => limit ≤ maxPower → Plain e → ∀ least, ws = operandWords least e e.words →
    e.faithful false = true ∧ limit < min k.power (leadIn least e e.lead) ∧ fitsBefore least k e = true
  | .base limit k e => limit ≤ maxPower → Plain e → ∀ least, ws = baseWords least e e.words →
    e.faithful false = true ∧ limit < leadBefore least k e e.lead ∧ fitsBase least k e = true
  | .applied limit e => limit ≤ maxPower → Plain e → ws = appliedWords e e.words →
    e.faithful true = true ∧ fitsApplied limit e = true ∧ m ≤ appliedRoom limit e e.room
  | .member limit e => limit ≤ maxPower → Plain e → ws = operandWords 10 e e.words →
    e.faithful true = true ∧ fitsMember limit e = true ∧ m ≤ memberRoom limit e e.room
  | .items es => (∀ e ∈ es, Plain e) → ws = listWords es ++ [mark .rbracket] → faithfulList es = true
  | .entries es => (∀ x ∈ es, Plain x.2) → ws = entryWords es ++ [mark .rbrace] → faithfulEntries es = true
  | .args es => (∀ e ∈ es, Plain e) → ws = listWords es ++ [mark .rparen] → faithfulList es = true

private theorem operandWords_zero (e : Expr) (ws : List Word) : operandWords 0 e ws = ws :=
  if_neg (Nat.not_lt_zero _)

private theorem eq_of_isStar {es : List Expr} (h : isStar es = true) : es = [projectValues current current] := by
  unfold isStar at h
  split at h
  · rfl
  · cases h

private theorem ne_nil_of_spells (h : Spells rule (.expr limit e) ws m) : ws ≠ [] := by
  cases h <;> simp

private theorem ne_nil_of_left (h : Spells rule (.left limit k e) ws m) : ws ≠ [] := by
  cases h with
  | left h _ _ => exact ne_nil_of_spells h

/-- What is called is a name on its own. -/
private theorem callee_of_spells {name : String} (h : Spells rule (.left limit .lparen (field name)) us m)
    (heq : us ++ mark .lparen :: vs = nameWord name :: mark .lparen :: ws) : limit < Kind.lparen.power ∧ vs = ws := by
  cases h with
  | left h hlt _ =>
    cases h with
    | leaf _ => exact ⟨hlt, (List.cons.inj (List.cons.inj heq).2).2⟩
    | group _ =>
      have hw := (List.cons.inj heq).1
      simp [mark, nameWord, Word.of] at hw

private theorem leaner_slice {bs bs' vs' : List Word} (hb : ∀ w ∈ bs, w.kind = .colon ∨ w.kind = .number)
    (hb' : ∀ w ∈ bs', w.kind = .colon ∨ w.kind = .number) (h : Leaner vs vs') :
    Leaner (bs ++ mark .rbracket :: vs) (bs' ++ mark .rbracket :: vs') := by
  obtain ⟨hw, hc⟩ := weight_slice hb
  obtain ⟨hw', hc'⟩ := weight_slice hb'
  exact (h.cons (mark .rbracket)).congr (by simp [hw]) (by simp [hc]) (by simp [hw']) (by simp [hc'])

private theorem split_slice {bs bs' vs' : List Word} (hb : ∀ w ∈ bs, w.kind = .colon ∨ w.kind = .number)
    (hb' : ∀ w ∈ bs', w.kind = .colon ∨ w.kind = .number)
    (h : bs ++ mark .rbracket :: vs = bs' ++ mark .rbracket :: vs') : bs = bs' ∧ vs = vs' := by
  have hm : ∀ {ws xs : List Word},
      (∀ w ∈ ws ++ mark .rbracket :: xs, w.kind = .colon ∨ w.kind = .number) → False := by
    intro ws xs hws
    have hk := hws (mark .rbracket) (by simp)
    simp at hk
  rcases List.append_eq_append_iff.1 h with ⟨xs, rfl, h'⟩ | ⟨xs, rfl, h'⟩
  · cases xs with
    | nil => exact ⟨by simp, (List.cons.inj h').2⟩
    | cons x xs =>
      obtain ⟨rfl, -⟩ := List.cons.inj h'
      exact (hm hb').elim
  · cases xs with
    | nil => exact ⟨by simp, (List.cons.inj h').2.symm⟩
    | cons x xs =>
      obtain ⟨rfl, -⟩ := List.cons.inj h'
      exact (hm hb).elim

private theorem faithful_dotted (h : e.faithful false = true) : e.faithful true = true := by
  cases e <;> first
    | exact h
    | (simp only [faithful, Bool.and_eq_true] at h ⊢
       exact ⟨h.1, rfl⟩)

/-- What is applied without a dot is written with a bracket first. -/
private theorem head_of_bracket (h : Plain e) (hb : e.startsWithBracket = true) :
    HeadIn [.lbracket, .filter, .flatten] e.words := by
  have hcur : ∀ {l}, Plain l → l.isFlatCurrent = true → l = current := by
    intro l hl hc
    cases hl <;> first | rfl | cases hc
  cases h with
  | index _ _ =>
    rw [eq_current hb]
    simp [words, baseWords, isCurrent, HeadIn]
  | elements hl _ =>
    rw [hcur hl hb]
    simp [words, collectionWords, baseWords, isCurrent, HeadIn]
  | filter hl _ _ =>
    rw [hcur hl hb]
    simp [words, baseWords, isCurrent, HeadIn]
  | @flattened l _ hl _ =>
    obtain rfl : l = current := by
      cases l <;> first | rfl | cases hb
    simp [words, collectionWords, baseWords, isCurrent, HeadIn]
  | _ => cases hb

/-- What is not written in parentheses after a dot does not start with a star or a name in quotes. -/
private theorem power_of_star (h : Plain e) (hh : HeadIn [.quotedName, .star] e.words) : e.power < 10 := by
  -- an operand that starts with a star is in parentheses, and then does not
  have ho : ∀ {l w vs}, Plain l → (HeadIn [.quotedName, .star] l.words → l.power < 10) →
      ¬ HeadIn [.quotedName, .star] (operandWords 10 l l.words ++ w :: vs) := by
    intro l w vs hl ih hh
    unfold operandWords at hh
    by_cases hp : l.power < 10
    · rw [if_pos hp] at hh
      simp [HeadIn] at hh
    · rw [if_neg hp] at hh
      exact hp (ih ((headIn_append_iff (words_ne_nil hl)).1 hh))
  induction h with
  | sub hl _ ihl _ => exact absurd hh (ho hl ihl)
  | @index l n hl _ ih =>
    rw [words, baseWords] at hh
    by_cases hc : l.isCurrent = true
    · rw [if_pos hc] at hh
      simp [HeadIn] at hh
    · rw [if_neg hc] at hh
      exact absurd hh (ho hl ih)
  | field => simp [words, nameWord, Word.of, HeadIn] at hh
  | call => simp [words, nameWord, Word.of, HeadIn] at hh
  | list => simp [words, HeadIn] at hh
  | hash => simp [words, HeadIn] at hh
  | not => simp [words, HeadIn] at hh
  | reference => simp [words, HeadIn] at hh
  | current => simp [words, HeadIn] at hh
  | _ => simp [power]

private theorem name_of_head (h : Plain e) (hh : HeadIn [.quotedName, .name, .star] (operandWords 10 e e.words)) :
    ¬ e.power < 10 ∧ HeadIn [.name] (operandWords 10 e e.words) := by
  unfold operandWords at hh ⊢
  by_cases hp : e.power < 10
  · rw [if_pos hp] at hh
    simp [HeadIn] at hh
  · rw [if_neg hp] at hh ⊢
    have hstar : ¬ HeadIn [.quotedName, .star] e.words := fun hs => hp (power_of_star h hs)
    cases hw : e.words with
    | nil => exact absurd hw (words_ne_nil h)
    | cons w ws =>
      rw [hw] at hh hstar
      simp only [HeadIn, List.mem_cons, List.not_mem_nil, or_false, not_or] at hh hstar ⊢
      obtain ⟨hq, hs⟩ := hstar
      rcases hh with hk | hk | hk
      · exact absurd hk hq
      · exact ⟨hp, hk⟩
      · exact absurd hk hs

/-- Words of no weight and no power that are no current value close or separate. -/
private theorem depth_of_light {k : Kind} (hw : k.weight = 0) (hp : k.power = 0) (hc : k ≠ .current) :
    k.depth 0 = none := by
  cases k <;> first | rfl | exact absurd rfl hc | exact absurd hw (Nat.succ_ne_zero _) | exact absurd hp (by decide)

/-- Where the comma after an argument is missing, the argument ends all the same. -/
private theorem split_bare {es : List Expr} {m' : Nat} (h : Spells rule (.expr 0 e) us m)
    (hs : Spells rule (.args es) vs m') (hp : headPower vs = 0) (he : Plain e) (heq : us ++ vs = e.words ++ w :: ws)
    (hw : w.kind.depth 0 = none) (hweight : weight (w :: ws) = weight (listWords es))
    (hcurrents : currents (w :: ws) = currents (listWords es)) : us = e.words ∧ vs = w :: ws := by
  rcases List.append_eq_append_iff.1 heq with ⟨xs, hxs, hvs⟩ | ⟨xs, hxs, hvs⟩
  · cases xs with
    | nil => exact ⟨by rw [hxs, List.append_nil], hvs⟩
    | cons x xs =>
      -- the word that is too much weighs nothing, so that it cannot stand outside of brackets
      have h₁ := (leaner_of_spells h).written
      have h₂ := (leaner_of_spells hs).light
      rw [hvs] at hp
      simp only [hvs, hxs, Part.words, ← hweight, ← hcurrents, currents_append, weight_append, currents_cons,
        weight_cons] at h₁ h₂
      have hx : x.kind.weight = 0 := by omega
      have hc : x.kind ≠ .current := by
        intro hc
        rw [if_pos hc] at h₁
        omega
      have hclosed := closed_words he
      rw [hxs] at hclosed
      exact absurd hclosed ((closed_of_spells h).not_append_cons (depth_of_light hx hp hc))
  · cases xs with
    | nil => exact ⟨by rw [hxs, List.append_nil], hvs.symm⟩
    | cons x xs =>
      obtain ⟨rfl, -⟩ := List.cons.inj hvs
      have hclosed := closed_of_spells h
      rw [hxs] at hclosed
      exact absurd hclosed ((closed_words he).not_append_cons hw)

private theorem args_ne_comma {es : List Expr} (h : Spells rule (.args es) vs m) : vs ≠ mark .comma :: ws := by
  have he : ∀ {e : Expr} {us xs m}, Spells rule (.expr 0 e) us m → us ++ xs ≠ mark .comma :: ws := by
    intro e us xs m h heq
    have hclosed := closed_of_spells h
    cases us with
    | nil => exact ne_nil_of_spells h rfl
    | cons u us =>
      rw [(List.cons.inj heq).1] at hclosed
      cases hclosed
  cases h with
  | noArgs => simp [mark]
  | arg h _ => exact he h
  | bareArg h _ _ => exact he h

/-! ### One rule of the grammar at a time -/

/-- An expression that is spelled by just its words. -/
private theorem Reread.fits (h : Reread m ws (.expr limit e)) (hlim : limit ≤ maxPower) (hp : Plain e)
    (hws : ws = e.words) : Fits limit 0 m e :=
  h hlim hp 0 (by rw [operandWords_zero, hws])

/-- An operator between two operands. -/
private theorem reread_operator {n n' m' : Nat} {l r : Expr} (hl : Spells rule (.left limit k l) us m)
    (hr : Spells rule (.expr k.power r) vs m') (ihl : Reread m us (.left limit k l))
    (ihr : Reread m' vs (.expr k.power r)) (hk : 0 < k.weight) (hlim : limit ≤ maxPower) (hpl : Plain l) (hpr : Plain r)
    (heq : us ++ mark k :: vs = operandWords n l l.words ++ mark k :: operandWords n' r r.words) :
    (l.faithful false && r.faithful false && fitsBefore n k l && fitsAfter n' k.power r) = true ∧
      limit < min k.power (leadIn n l l.lead) ∧ min k.power m' ≤ min k.power (roomIn n' r r.room) := by
  obtain ⟨hu, hv⟩ := Leaner.split ((leaner_of_spells hl).operand n _) ((leaner_of_spells hr).operand n' _) heq hk hk
  obtain ⟨hfl, hll, hbl⟩ := ihl hlim hpl n hu
  obtain ⟨hfr, hlr, hrr⟩ := ihr (Kind.power_le _) hpr n' hv
  refine ⟨?_, hll, by omega⟩
  simp only [hfl, hfr, hbl, fitsAfter, decide_eq_true hlr, Bool.and_self]

/-- The list that a projection goes through, and what it applies. -/
private theorem reread_sides {n p m' : Nat} {l r : Expr} (ihl : Reread m us (.base limit k l))
    (ihr : Reread m' vs (.applied p r)) (hlim : limit ≤ maxPower) (hpower : p ≤ maxPower) (hpl : Plain l)
    (hpr : Plain r) (hu : us = baseWords n l l.words) (hv : vs = appliedWords r r.words) :
    (l.faithful false = true ∧ r.faithful true = true ∧ fitsBase n k l = true ∧ fitsApplied p r = true) ∧
      limit < leadBefore n k l l.lead ∧ m' ≤ appliedRoom p r r.room := by
  obtain ⟨hfl, hll, hbl⟩ := ihl hlim hpl n hu
  obtain ⟨hfr, har, hrr⟩ := ihr hpower hpr hv
  exact ⟨⟨hfl, hfr, hbl, har⟩, hll, hrr⟩

private theorem reread_slice {l r : Expr} {bs : List Word} {b : Parser.Bounds} {m' : Nat}
    (hl : Spells rule (.base limit .lbracket l) us m) (hb : boundsOf? ⟨none, none, none, 0⟩ bs = some b)
    (hr : Spells rule (.applied Kind.star.power r) vs m') (ihl : Reread m us (.base limit .lbracket l))
    (ihr : Reread m' vs (.applied Kind.star.power r)) :
    Reread m' (us ++ mark .lbracket :: (bs ++ mark .rbracket :: vs))
      (.expr limit (project (slice l b.start b.stop b.step) r)) := by
  intro hlim hp least heq
  refine fits_of_words hp (balanced_of_spells hl) (by simp) heq fun heq => ?_
  cases hp with
  | elements hpl _ => cases hpl
  | slices hpl _ _ _ hpr =>
    rw [words, collectionWords, words, List.append_assoc, List.cons_append, List.append_assoc] at heq
    obtain ⟨hu, hv⟩ := Leaner.split ((leaner_of_spells hl).base 10)
      (leaner_slice (kind_of_boundsOf hb) (kind_of_sliceWords _ _ _) (leaner_of_spells hr))
      heq (Nat.succ_pos _) (Nat.succ_pos _)
    obtain ⟨-, hv⟩ := split_slice (kind_of_boundsOf hb) (kind_of_sliceWords _ _ _) hv
    obtain ⟨⟨hfl, hfr, hbl, har⟩, hll, hrr⟩ := reread_sides ihl ihr hlim (Kind.power_le _) hpl hpr hu hv
    refine ⟨?_, hll, hrr⟩
    simp only [faithful, hfl, hfr, hbl, isBracketed, projectPower, har, Bool.true_or, Bool.and_self]

private theorem reread_elements {l r : Expr} {m' : Nat} (hl : Spells rule (.base limit .lbracket l) us m)
    (hr : Spells rule (.applied Kind.star.power r) vs m') (ihl : Reread m us (.base limit .lbracket l))
    (ihr : Reread m' vs (.applied Kind.star.power r)) :
    Reread m' (us ++ mark .lbracket :: mark .star :: mark .rbracket :: vs) (.expr limit (project l r)) := by
  intro hlim hp least heq
  refine fits_of_words hp (balanced_of_spells hl) (by simp) heq fun heq => ?_
  cases hp with
  -- slices and flattened lists are no left sides of their own in what is read
  | slices => cases alone_of_spells hl
  | flattened => cases alone_of_spells hl
  | elements hpl hpr =>
    rw [words, collectionWords_eq hpl, List.append_assoc] at heq
    obtain ⟨hu, hv⟩ := Leaner.split ((leaner_of_spells hl).base 10) (((leaner_of_spells hr).cons _).cons _)
      heq (Nat.succ_pos _) (Nat.succ_pos _)
    obtain ⟨⟨hfl, hfr, hbl, har⟩, hll, hrr⟩ :=
      reread_sides ihl ihr hlim (Kind.power_le _) hpl hpr hu (List.cons.inj (List.cons.inj hv).2).2
    obtain ⟨hn, hpower⟩ := alone_of_plain hpl
    refine ⟨?_, ?_, ?_⟩
    · simp only [faithful, hfl, hfr, hbl, hn, hpower, har, Bool.false_or, Bool.and_self]
    · rw [lead, hn, if_neg (by simp)]
      exact hll
    · rw [room, hpower]
      exact hrr

private theorem reread_flatten {l r : Expr} {m' : Nat} (hl : Spells rule (.base limit .flatten l) us m)
    (hr : Spells rule (.applied Kind.flatten.power r) vs m') (ihl : Reread m us (.base limit .flatten l))
    (ihr : Reread m' vs (.applied Kind.flatten.power r)) :
    Reread m' (us ++ mark .flatten :: vs) (.expr limit (project (flatten l) r)) := by
  intro hlim hp least heq
  refine fits_of_words hp (balanced_of_spells hl) (by simp) heq fun heq => ?_
  cases hp with
  | elements hpl _ => cases hpl
  | flattened hpl hpr =>
    rw [words, collectionWords, words, List.append_assoc] at heq
    obtain ⟨hu, hv⟩ := Leaner.split ((leaner_of_spells hl).base 9) (leaner_of_spells hr)
      heq (Nat.succ_pos _) (Nat.succ_pos _)
    obtain ⟨⟨hfl, hfr, hbl, har⟩, hll, hrr⟩ := reread_sides ihl ihr hlim (Kind.power_le _) hpl hpr hu hv
    refine ⟨?_, hll, hrr⟩
    simp only [faithful, hfl, hfr, hbl, isBracketed, projectPower, har, Bool.true_or, Bool.and_self]

private theorem reread_filter {l r c : Expr} {cs : List Word} {m' m'' : Nat}
    (hl : Spells rule (.base limit .filter l) us m) (hc : Spells rule (.expr 0 c) cs m'')
    (hr : Spells rule (.applied Kind.filter.power r) vs m') (ihl : Reread m us (.base limit .filter l))
    (ihc : Reread m'' cs (.expr 0 c)) (ihr : Reread m' vs (.applied Kind.filter.power r)) :
    Reread m' (us ++ mark .filter :: (cs ++ mark .rbracket :: vs)) (.expr limit (filter l r c)) := by
  intro hlim hp least heq
  refine fits_of_words hp (balanced_of_spells hl) (by simp) heq fun heq => ?_
  cases hp with | filter hpl hpr hpc
  rw [words] at heq
  obtain ⟨hu, hv⟩ := Leaner.split ((leaner_of_spells hl).base 10)
    ((leaner_of_spells hc).append ((leaner_of_spells hr).cons (mark .rbracket)))
    heq (Nat.succ_pos _) (Nat.succ_pos _)
  obtain ⟨hcs, -, hv⟩ := (closed_of_spells hc).split (closed_words hpc) rfl rfl hv
  obtain ⟨hfc, -, -⟩ := ihc.fits (Nat.zero_le _) hpc hcs
  obtain ⟨⟨hfl, hfr, hbl, har⟩, hll, hrr⟩ := reread_sides ihl ihr hlim (Kind.power_le _) hpl hpr hu hv
  refine ⟨?_, hll, hrr⟩
  simp only [faithful, hfl, hfr, hfc, hbl, har, Bool.and_self]

private theorem reread_valuesOf {l r : Expr} {m' : Nat} (hl : Spells rule (.left limit .dot l) us m)
    (hr : Spells rule (.applied Kind.dot.power r) vs m') (ihl : Reread m us (.left limit .dot l))
    (ihr : Reread m' vs (.applied Kind.dot.power r)) :
    Reread m' (us ++ mark .dot :: mark .star :: vs) (.expr limit (projectValues l r)) := by
  intro hlim hp least heq
  refine fits_of_words hp (balanced_of_spells hl) (by simp) heq fun heq => ?_
  cases hp with | projectValues hpl hpr
  rw [words, valuesWords] at heq
  by_cases hc : l.isCurrent = true
  · -- the sign of the current value is not a star
    obtain rfl := eq_current hc
    rw [if_pos hc] at heq
    have hh : ¬ HeadIn [.quotedName, .name, .star] (us ++ mark .dot :: mark .star :: vs) :=
      head_of_current (.base hl) (by simp [HeadIn])
    rw [heq] at hh
    exact absurd (by simp [HeadIn]) hh
  · rw [if_neg hc, List.append_assoc] at heq
    obtain ⟨hu, hv⟩ := Leaner.split ((leaner_of_spells hl).operand 10 _) ((leaner_of_spells hr).cons (mark .star))
      heq (Nat.succ_pos _) (Nat.succ_pos _)
    obtain ⟨hfl, hll, hbl⟩ := ihl hlim hpl 10 hu
    obtain ⟨hfr, har, hrr⟩ := ihr (Kind.power_le _) hpr (List.cons.inj hv).2
    refine ⟨?_, ?_, ?_⟩
    · simp only [faithful, fitsBase, hfl, hfr, hbl, if_neg hc, har, Bool.or_true, Bool.and_self]
    · rw [lead, leadBefore, if_neg hc]
      exact hll
    · rw [room, if_neg hc]
      exact hrr

/-- What is applied without a dot. -/
private theorem Reread.bracketed (h : Reread m ws (.expr limit e)) (hs : HeadIn [.lbracket, .filter] ws) :
    Reread (min limit m) ws (.applied limit e) := by
  intro hlim hp heq
  unfold appliedWords at heq
  by_cases hc : e.isCurrent = true
  · rw [if_pos hc] at heq
    rw [heq] at hs
    exact absurd hs id
  · rw [if_neg hc] at heq
    by_cases hb : e.startsWithBracket = true
    · rw [if_pos hb] at heq
      obtain ⟨hf, hl, hr⟩ := h.fits hlim hp heq
      rw [heq] at hs
      refine ⟨faithful_dotted hf, ?_, ?_⟩
      · rw [fitsApplied, if_pos hb, decide_eq_true hs, decide_eq_true (by exact hl), Bool.and_self, Bool.or_true]
      · rw [roomIn, if_neg (Nat.not_lt_zero _)] at hr
        rw [appliedRoom, if_neg hc, if_pos hb]
        omega
    · rw [if_neg hb] at heq
      rw [heq] at hs
      simp [HeadIn] at hs

/-- What is applied behind a dot. -/
private theorem Reread.dotted (h : Reread m ws (.member limit e)) :
    Reread m (mark .dot :: ws) (.applied limit e) := by
  intro hlim hp heq
  unfold appliedWords at heq
  by_cases hc : e.isCurrent = true
  · rw [if_pos hc] at heq
    cases heq
  · rw [if_neg hc] at heq
    by_cases hb : e.startsWithBracket = true
    · rw [if_pos hb] at heq
      have hh := head_of_bracket hp hb
      rw [← heq] at hh
      simp [HeadIn] at hh
    · rw [if_neg hb] at heq
      obtain ⟨hf, hm, hr⟩ := h hlim hp (List.cons.inj heq).2
      refine ⟨hf, ?_, ?_⟩
      · rw [fitsApplied, if_neg hb, hm, Bool.or_true]
      · rwa [appliedRoom, if_neg hc, if_neg hb]

/-- What is no list and no hash behind a dot. -/
private theorem Reread.named (h : Reread m ws (.expr limit e)) (hs : HeadIn [.quotedName, .name, .star] ws) :
    Reread (min limit m) ws (.member limit e) := by
  intro hlim hp heq
  obtain ⟨hf, hl, hr⟩ := h hlim hp 10 heq
  rw [heq] at hs
  obtain ⟨hpow, hname⟩ := name_of_head hp hs
  rw [leadIn, if_neg hpow] at hl
  rw [roomIn, if_neg hpow] at hr
  refine ⟨faithful_dotted hf, ?_, ?_⟩
  · rw [fitsMember, decide_eq_true hname, decide_eq_true hl, Bool.and_self, Bool.or_true]
  · rw [memberRoom]
    split
    · exact Nat.le_trans (Nat.min_le_left _ _) hlim
    · omega

/-- An expression with a comma and others behind it, in a list or as an argument. -/
private theorem faithfulList_cons {e' : Expr} {es : List Expr} (hs : Spells rule (.expr 0 e) us m)
    (h : Reread m us (.expr 0 e)) (hp : ∀ x ∈ e :: e' :: es, Plain x)
    (heq : us ++ mark .comma :: vs = listWords (e :: e' :: es) ++ ws)
    (ih : (∀ x ∈ e' :: es, Plain x) → vs = listWords (e' :: es) ++ ws → faithfulList (e' :: es) = true) :
    faithfulList (e :: e' :: es) = true := by
  have he := hp e List.mem_cons_self
  have hwords : listWords (e :: e' :: es) = e.words ++ mark .comma :: listWords (e' :: es) := rfl
  rw [hwords, List.append_assoc, List.cons_append] at heq
  obtain ⟨hu, -, hv⟩ := (closed_of_spells hs).split (closed_words he) rfl rfl heq
  have hf := h.fits (Nat.zero_le _) he hu
  rw [faithfulList, hf.faithful, ih (fun x hx => hp x (List.mem_cons_of_mem _ hx)) hv]
  rfl

/-- A part is faithful if it is spelled by the words that are written for it. -/
theorem reread_of_spells {part : Part} (h : Spells rule part ws m) : Reread m ws part := by
  -- a printed text is taken apart as its reading is: weights find the operator, depths find the brackets
  induction h with
  | @leaf _ w e m h =>
    intro hlim hp least heq
    have hk : w.kind ≠ .lparen := by
      intro hk
      have hm := Word.kind_of_leaf h
      simp [hk] at hm
    refine fits_of_cons hp hk heq fun _ => ?_
    have hm := Word.room_of_leaf h
    rcases Word.expr_of_leaf h with ⟨_, rfl, -⟩ | ⟨_, rfl, -⟩ | ⟨rfl, -⟩
    · exact ⟨rfl, Nat.lt_succ_of_le hlim, hm⟩
    · cases hp
    · exact ⟨rfl, Nat.lt_succ_of_le hlim, hm⟩
  | @group _ e ws _ h ih =>
    intro hlim hp least heq
    by_cases hl : e.power < least
    · rw [operandWords, if_pos hl] at heq
      have hws : ws = e.words := List.append_cancel_right (List.cons.inj heq).2
      have hf := Reread.fits ih (Nat.zero_le _) hp hws
      refine ⟨hf.faithful, ?_, ?_⟩
      · rw [leadIn, if_pos hl]
        exact Nat.lt_succ_of_le hlim
      · exact Nat.le_of_eq (if_pos hl).symm
    · -- only operands that bind less than asked for are printed in parentheses
      rw [operandWords, if_neg hl] at heq
      exact absurd heq.symm (words_ne_group hp (closed_of_spells h))
  | not h ih =>
    intro hlim hp least heq
    refine fits_of_cons hp (by simp) heq fun heq => ?_
    cases hp with | not hp
    have hf := ih (Kind.power_le _) hp 45 (List.cons.inj heq).2
    refine ⟨?_, Nat.lt_succ_of_le hlim, ?_⟩
    · simp only [faithful, hf.faithful, fitsAfter, decide_eq_true hf.lead, Bool.and_self]
    · have hr := hf.room
      rw [room]
      omega
  | reference h ih =>
    intro hlim hp least heq
    refine fits_of_cons hp (by simp) heq fun heq => ?_
    cases hp with | reference hp
    have hf := ih (Nat.zero_le _) hp 10 (List.cons.inj heq).2
    exact ⟨hf.faithful, Nat.lt_succ_of_le hlim, Nat.zero_le _⟩
  | @list _ es ws _ h hs ih =>
    intro hlim hp least heq
    refine fits_of_cons hp (by simp) heq fun heq => ?_
    cases hp with | list hne hp
    have hws := (List.cons.inj heq).2
    have hstar : isStar es = false := by
      rw [Bool.eq_false_iff]
      intro hstar
      rw [eq_of_isStar hstar] at hws
      exact hs (hws ▸ List.prefix_refl _)
    refine ⟨?_, Nat.lt_succ_of_le hlim, Nat.le_refl _⟩
    simp only [faithful, ih hp hws, hstar, Bool.false_or, Bool.not_false, Bool.and_self]
  | hash h ih =>
    intro hlim hp least heq
    refine fits_of_cons hp (by simp) heq fun heq => ?_
    cases hp with | hash hne hk hp
    exact ⟨ih hp (List.cons.inj heq).2, Nat.lt_succ_of_le hlim, Nat.le_refl _⟩
  | compare hl hr ihl ihr | and hl hr ihl ihr | or hl hr ihl ihr | pipe hl hr ihl ihr =>
    intro hlim hp least heq
    refine fits_of_words hp (balanced_of_spells hl) (by simp) heq fun heq => ?_
    cases hp
    rename_i hpl hpr
    rw [words] at heq
    rw [faithful, lead, room]
    exact reread_operator hl hr ihl ihr (Nat.succ_pos _) hlim hpl hpr heq
  | sub hl hr hs ihl ihr =>
    intro hlim hp least heq
    refine fits_of_words hp (balanced_of_spells hl) (by simp) heq fun heq => ?_
    cases hp with | sub hpl hpr
    rw [words] at heq
    obtain ⟨hu, hv⟩ := Leaner.split ((leaner_of_spells hl).operand 10 _) ((leaner_of_spells hr).operand 10 _)
      heq (Nat.succ_pos _) (Nat.succ_pos _)
    obtain ⟨hfl, hll, hbl⟩ := ihl hlim hpl 10 hu
    obtain ⟨hfr, hmr, hrr⟩ := ihr (Kind.power_le _) hpr hv
    refine ⟨?_, hll, hrr⟩
    simp only [faithful, hfl, hfr, hbl, hmr, Bool.and_self]
  | @call _ name es us vs _ _ hl ha ihl iha =>
    intro hlim hp least heq
    refine fits_of_words hp (balanced_of_spells hl) (fun hnil => absurd hnil (ne_nil_of_left hl)) heq fun heq => ?_
    cases hp with | call hk hp
    obtain ⟨hlt, hvs⟩ := callee_of_spells hl heq
    exact ⟨iha hp hvs, hlt, Nat.le_refl _⟩
  | @index _ l n us w _ hl hn ihl =>
    intro hlim hp least heq
    refine fits_of_words hp (balanced_of_spells hl) (by simp) heq fun heq => ?_
    cases hp with | index hpl hr
    obtain ⟨hu, -⟩ := List.append_inj' heq rfl
    obtain ⟨hfl, hll, hbl⟩ := ihl hlim hpl 10 hu
    refine ⟨?_, hll, Nat.le_refl _⟩
    simp only [faithful, hfl, hbl, Bool.and_self]
  | slice hl hs hb hr ihl ihr => exact reread_slice hl hb hr ihl ihr
  | elements hl hr ihl ihr => exact reread_elements hl hr ihl ihr
  | flatten hl hr ihl ihr => exact reread_flatten hl hr ihl ihr
  | filter hl hc hr ihl ihc ihr => exact reread_filter hl hc hr ihl ihc ihr
  | values h ih =>
    intro hlim hp least heq
    refine fits_of_cons hp (by simp) heq fun heq => ?_
    cases hp with | projectValues _ hpr
    obtain ⟨hfr, har, hrr⟩ := ih (Kind.power_le _) hpr (List.cons.inj heq).2
    refine ⟨?_, Nat.lt_succ_of_le hlim, hrr⟩
    simp only [faithful, fitsBase, isCurrent, hfr, if_true, har, Bool.true_or, Bool.and_self]
  | valuesOf hl hr ihl ihr => exact reread_valuesOf hl hr ihl ihr
  | left h hlt hle ih =>
    intro hlim hp least heq
    obtain ⟨hf, hl, hr⟩ := ih hlim hp least heq
    exact ⟨hf, Nat.lt_min.2 ⟨hlt, hl⟩, decide_eq_true (Nat.le_trans hle hr)⟩
  | nothing => exact fun hlim _ _ _ => ⟨rfl, Nat.lt_succ_of_le hlim, rfl⟩
  | @base _ k e ws _ h ih =>
    intro hlim hp least heq
    unfold baseWords at heq
    by_cases hc : e.isCurrent = true
    · rw [if_pos hc] at heq
      exact absurd heq (ne_nil_of_left h)
    · rw [if_neg hc] at heq
      obtain ⟨hf, hl, hb⟩ := ih hlim hp least heq
      refine ⟨hf, ?_, ?_⟩
      · rwa [leadBefore, if_neg hc]
      · rw [fitsBase, hb, Bool.or_true]
  | itself => exact fun _ _ _ => ⟨rfl, rfl, Nat.le_refl _⟩
  | bracketed h hs ih => exact Reread.bracketed ih hs
  | dotted h ih => exact Reread.dotted ih
  | named h hs ih => exact Reread.named ih hs
  | memberList h ih =>
    intro hlim hp heq
    cases hp with | list hne hp
    have hf := ih hp (List.cons.inj heq).2
    exact ⟨by rw [faithful, hf]; rfl, rfl, Nat.le_refl _⟩
  | memberHash h ih =>
    intro hlim hp heq
    cases hp with | hash hne hk hp
    exact ⟨ih hp (List.cons.inj heq).2, rfl, Nat.le_refl _⟩
  | lastItem h ih =>
    intro hp heq
    have hf := Reread.fits ih (Nat.zero_le _) (hp _ (by simp)) (List.append_cancel_right heq)
    rw [faithfulList, hf.faithful]
    rfl
  | @item e es us vs _ _ h hs ih ihs =>
    intro hp heq
    cases es with
    | nil => cases hs
    | cons e' es => exact faithfulList_cons h ih hp heq ihs
  | @lastEntry w key e ws m hk h ih =>
    intro hp heq
    have hws := (List.cons.inj (List.cons.inj heq).2).2
    have hf := Reread.fits ih (Nat.zero_le _) (hp (key, e) (by simp)) (List.append_cancel_right hws)
    rw [faithfulEntries, hf.faithful]
    rfl
  | @entry _ key e es us vs _ _ hk h hs ih ihs =>
    intro hp heq
    cases es with
    | nil => cases hs
    | cons e' es =>
      rw [entryWords, List.cons_append, List.cons_append, List.append_assoc, List.cons_append] at heq
      · have hws := (List.cons.inj (List.cons.inj heq).2).2
        obtain ⟨hu, -, hv⟩ := (closed_of_spells h).split (closed_words (hp (key, e) (by simp))) rfl rfl hws
        have hf := Reread.fits ih (Nat.zero_le _) (hp (key, e) (by simp)) hu
        have hfs := ihs (fun x hx => hp x (List.mem_cons_of_mem _ hx)) hv
        rw [faithfulEntries, hf.faithful, hfs]
        rfl
      · simp
  | noArgs => exact fun _ _ => rfl
  | @arg e es us vs _ _ h hs ih ihs =>
    intro hp heq
    cases es with
    | nil =>
      -- the last argument is printed without a comma behind it
      obtain ⟨-, hw, -⟩ := (closed_of_spells h).split (closed_words (hp e (by simp))) rfl rfl heq
      simp [mark] at hw
    | cons e' es => exact faithfulList_cons h ih hp heq ihs
  | @bareArg e es us vs _ _ h hs hpow ih ihs =>
    intro hp heq
    cases es with
    | nil =>
      obtain ⟨hu, -⟩ := split_bare h hs hpow (hp e (by simp)) heq rfl rfl rfl
      have hf := Reread.fits ih (Nat.zero_le _) (hp e (by simp)) hu
      rw [faithfulList, hf.faithful]
      rfl
    | cons e' es =>
      rw [listWords, List.append_assoc, List.cons_append] at heq
      · obtain ⟨-, hv⟩ := split_bare h hs hpow (hp e (by simp)) heq rfl (by simp [Kind.weight]) (by simp)
        exact absurd hv (args_ne_comma hs)
      · simp

/-- Reading the text of a plain expression gives the expression back exactly if this is faithful and no two of its
references are written next to each other. -/
theorem ofTextWith_render_iff (h : Plain e) :
    ofTextWith rule e.render = .ok e ↔ e.faithful false = true ∧ joined e.words = e.words := by
  rw [ofTextWith_ok_iff, render, String.toList_ofList, words?_write h]
  constructor
  · rintro ⟨ws, m, hws, hs⟩
    obtain rfl := Option.some.inj hws
    have hlight := (leaner_of_spells hs).light
    obtain ⟨hc, hj⟩ := weight_joined e.words
    have hjoined : joined e.words = e.words := by
      refine hj.resolve_right fun hlt => ?_
      rw [hc, Part.words] at hlight
      omega
    rw [hjoined] at hs
    have hfits := reread_of_spells hs (Nat.zero_le _) h 0 (operandWords_zero e _).symm
    exact ⟨hfits.faithful, hjoined⟩
  · rintro ⟨hf, hjoined⟩
    exact ⟨e.words, e.room, by rw [hjoined], (spelled_of_plain h).expr hf 0 (lead_pos e)⟩

end Expr

end Signpost.Query
