import Signpost.Proofs.Query.Balance

/-!
# Faithful queries

Which expressions have words that are read back as the expression.  In parentheses everything has; without them
an operand must hold together where it stands.  `Expr.lead` is the least power of the operators on the left edge of
a text, which a limit from the left must not reach; `Expr.room` is the greatest power of an operator that the right
edge leaves alone.  `Expr.faithful` asks for both in every place; `spelled_of_plain` says that this is enough.
-/

namespace Signpost.Query

open Token (Kind)
open Word (mark)

namespace Expr

/-- Whether this is a list or a hash. -/
def isRecord : Expr → Bool
  | list _ | hash _ => true
  | _ => false

/-- The power under which a projection over `l` applies its right side. -/
def projectPower : Expr → Nat
  | flatten _ => Kind.flatten.power
  | _ => Kind.star.power

/-- Whether this is the list `[*]`, which after no dot is read as a projection. -/
def isStar : List Expr → Bool
  | [projectValues current current] => true
  | _ => false

/-- The left edge of an operand: seen from outside, parentheses have no operator. -/
def leadIn (least : Nat) (e : Expr) (lead : Nat) : Nat := if e.power < least then maxPower + 1 else lead

/-- The left edge of an operator: its own power counts, but not before a bracket on its own. -/
def leadBefore (least : Nat) (k : Kind) (e : Expr) (lead : Nat) : Nat :=
  if e.isCurrent then maxPower + 1 else min k.power (leadIn least e lead)

/-- The least power of the operators on the left edge of the text, outside all brackets. -/
def lead : Expr → Nat
  | sub l _ => min Kind.dot.power (leadIn 10 l l.lead)
  | index l _ => leadBefore 10 .lbracket l l.lead
  | slice l _ _ _ => leadBefore 10 .lbracket l l.lead
  | flatten l => leadBefore 9 .flatten l l.lead
  | project l _ => if l.isBracketed then l.lead else leadBefore 10 .lbracket l l.lead
  | filter l _ _ => leadBefore 10 .filter l l.lead
  | projectValues l _ => leadBefore 10 .dot l l.lead
  | compare op l _ => min (Kind.compare op).power (leadIn 6 l l.lead)
  | and l _ => min Kind.and.power (leadIn 3 l l.lead)
  | or l _ => min Kind.or.power (leadIn 2 l l.lead)
  | pipe l _ => min Kind.pipe.power (leadIn 1 l l.lead)
  | call _ _ => Kind.lparen.power
  | _ => maxPower + 1

/-- The right edge of an operand: anything may follow a parenthesis. -/
def roomIn (least : Nat) (e : Expr) (room : Nat) : Nat := if e.power < least then maxPower else room

/-- The right edge of what follows a dot. -/
def memberRoom (limit : Nat) (e : Expr) (room : Nat) : Nat := if e.isRecord then maxPower else min limit room

/-- The right edge of a projection. -/
def appliedRoom (limit : Nat) (e : Expr) (room : Nat) : Nat :=
  if e.isCurrent then Parser.projectionPower - 1
  else if e.startsWithBracket then min limit room
  else memberRoom limit e room

/-- The greatest power of an operator that may follow the text and is not taken into it. -/
def room : Expr → Nat
  | sub _ r => memberRoom Kind.dot.power r r.room
  | project l r => appliedRoom l.projectPower r r.room
  | filter _ r _ => appliedRoom Kind.filter.power r r.room
  | projectValues l r => appliedRoom (if l.isCurrent then Kind.star.power else Kind.dot.power) r r.room
  | compare op _ r => min (Kind.compare op).power (roomIn 6 r r.room)
  | and _ r => min Kind.and.power (roomIn 4 r r.room)
  | or _ r => min Kind.or.power (roomIn 3 r r.room)
  | pipe _ r => min Kind.pipe.power (roomIn 2 r r.room)
  | not e => min Kind.not.power (roomIn 45 e e.room)
  | reference _ => 0
  | _ => maxPower

/-- An operand before an operator leaves it alone. -/
def fitsBefore (least : Nat) (k : Kind) (e : Expr) : Bool := k.power ≤ roomIn least e e.room

/-- The same before a bracket. -/
def fitsBase (least : Nat) (k : Kind) (e : Expr) : Bool := e.isCurrent || fitsBefore least k e

/-- An operand behind an operator is read as a whole. -/
def fitsAfter (least limit : Nat) (e : Expr) : Bool := limit < leadIn least e e.lead

/-- A dot is followed by a list, a hash or something that starts with a name. -/
def fitsMember (limit : Nat) (e : Expr) : Bool :=
  e.isRecord || decide (HeadIn [.name] (operandWords 10 e e.words)) && decide (limit < e.lead)

/-- A projection is followed by nothing, a bracket or a dot. -/
def fitsApplied (limit : Nat) (e : Expr) : Bool :=
  e.isCurrent ||
    if e.startsWithBracket then decide (HeadIn [.lbracket, .filter] e.words) && decide (limit < e.lead)
    else fitsMember limit e

mutual

/-- Whether the words of an expression are read back as the expression.  It may stand after a dot. -/
def faithful (dotted : Bool) : Expr → Bool
  | field _ => true
  | sub l r => l.faithful false && r.faithful true && fitsBefore 10 .dot l && fitsMember Kind.dot.power r
  | index l _ => l.faithful false && fitsBase 10 .lbracket l
  | slice l _ _ _ => l.faithful false && fitsBase 10 .lbracket l
  | project l r =>
    l.faithful false && r.faithful true && (l.isBracketed || fitsBase 10 .lbracket l) && fitsApplied l.projectPower r
  | filter l r c =>
    l.faithful false && r.faithful true && c.faithful false && fitsBase 10 .filter l &&
      fitsApplied Kind.filter.power r
  | projectValues l r =>
    l.faithful false && r.faithful true && fitsBase 10 .dot l &&
      fitsApplied (if l.isCurrent then Kind.star.power else Kind.dot.power) r
  | flatten l => l.faithful false && fitsBase 9 .flatten l
  | list es => faithfulList es && (dotted || !isStar es)
  | hash es => faithfulEntries es
  | compare op l r =>
    l.faithful false && r.faithful false && fitsBefore 6 (.compare op) l && fitsAfter 6 (Kind.compare op).power r
  | and l r => l.faithful false && r.faithful false && fitsBefore 3 .and l && fitsAfter 4 Kind.and.power r
  | or l r => l.faithful false && r.faithful false && fitsBefore 2 .or l && fitsAfter 3 Kind.or.power r
  | not e => e.faithful false && fitsAfter 45 Kind.not.power e
  | pipe l r => l.faithful false && r.faithful false && fitsBefore 1 .pipe l && fitsAfter 2 Kind.pipe.power r
  | call _ es => faithfulList es
  | literal _ => false
  | current => true
  | reference e => e.faithful false

def faithfulList : List Expr → Bool
  | [] => true
  | e :: es => e.faithful false && faithfulList es

def faithfulEntries : List (String × Expr) → Bool
  | [] => true
  | (_, e) :: es => e.faithful false && faithfulEntries es

end

/-! ### Faithful expressions are spelled by their words -/

variable {rule : Json.RealRule} {limit least : Nat} {k : Kind} {e : Expr}

/-- What is to be shown of an expression: its words spell it, alone or after a dot. -/
structure Spelled (rule : Json.RealRule) (e : Expr) : Prop where
  expr : e.faithful false = true → ∀ limit < e.lead, Spells rule (.expr limit e) e.words e.room
  record : e.faithful true = true → e.isRecord = true → ∀ limit, Spells rule (.member limit e) e.words maxPower

private theorem leadIn_pos (h : 0 < e.lead) : 0 < leadIn least e e.lead := by
  unfold leadIn
  split <;> omega

private theorem leadBefore_pos (hk : 0 < k.power) (h : 0 < e.lead) : 0 < leadBefore least k e e.lead := by
  have hl : 0 < leadIn least e e.lead := leadIn_pos h
  unfold leadBefore
  split <;> omega

/-- Every operator binds. -/
theorem lead_pos : ∀ e : Expr, 0 < e.lead
  | sub l _ => Nat.lt_min.2 ⟨by decide, leadIn_pos (lead_pos l)⟩
  | index l _ => leadBefore_pos (by decide) (lead_pos l)
  | slice l _ _ _ => leadBefore_pos (by decide) (lead_pos l)
  | flatten l => leadBefore_pos (by decide) (lead_pos l)
  | project l _ => by
    rw [lead]
    split
    · exact lead_pos l
    · exact leadBefore_pos (by decide) (lead_pos l)
  | filter l _ _ => leadBefore_pos (by decide) (lead_pos l)
  | projectValues l _ => leadBefore_pos (by decide) (lead_pos l)
  | compare _ l _ => Nat.lt_min.2 ⟨Nat.succ_pos 4, leadIn_pos (lead_pos l)⟩
  | and l _ => Nat.lt_min.2 ⟨by decide, leadIn_pos (lead_pos l)⟩
  | or l _ => Nat.lt_min.2 ⟨by decide, leadIn_pos (lead_pos l)⟩
  | pipe l _ => Nat.lt_min.2 ⟨by decide, leadIn_pos (lead_pos l)⟩
  | call _ _ => Nat.succ_pos 59
  | field _ | list _ | hash _ | not _ | literal _ | current | reference _ => Nat.succ_pos _

private theorem spells_operand (h : Spelled rule e) (hf : e.faithful false = true)
    (hl : limit < leadIn least e e.lead) :
    Spells rule (.expr limit e) (operandWords least e e.words) (roomIn least e e.room) := by
  unfold leadIn at hl
  unfold operandWords roomIn
  by_cases hp : e.power < least
  · rw [if_pos hp, if_pos hp]
    exact .group (h.expr hf 0 (lead_pos e))
  · rw [if_neg hp, if_neg hp]
    rw [if_neg hp] at hl
    exact h.expr hf limit hl

private theorem spells_before (h : Spelled rule e) (hf : e.faithful false = true) (hb : fitsBefore least k e = true)
    (hk : limit < k.power) (hl : limit < leadIn least e e.lead) :
    Spells rule (.left limit k e) (operandWords least e e.words) maxPower :=
  .left (spells_operand h hf hl) hk (of_decide_eq_true hb)

/-- The sides of an operator. -/
private theorem spells_sides {n n' : Nat} {l r : Expr} (ihl : Spelled rule l) (ihr : Spelled rule r)
    (hf : (l.faithful false && r.faithful false && fitsBefore n k l && fitsAfter n' k.power r) = true)
    (hl : limit < min k.power (leadIn n l l.lead)) :
    Spells rule (.left limit k l) (operandWords n l l.words) maxPower ∧
      Spells rule (.expr k.power r) (operandWords n' r r.words) (roomIn n' r r.room) := by
  simp only [Bool.and_eq_true] at hf
  obtain ⟨⟨⟨hfl, hfr⟩, hb⟩, ha⟩ := hf
  exact ⟨spells_before ihl hfl hb (by omega) (by omega), spells_operand ihr hfr (of_decide_eq_true ha)⟩

private theorem spells_base (h : Spelled rule e) (hf : e.faithful false = true) (hb : fitsBase least k e = true)
    (hl : limit < leadBefore least k e e.lead) :
    Spells rule (.base limit k e) (baseWords least e e.words) maxPower := by
  unfold leadBefore at hl
  unfold baseWords
  by_cases hc : e.isCurrent = true
  · obtain rfl := eq_current hc
    exact .nothing
  · rw [if_neg hc] at hl ⊢
    simp only [fitsBase, hc, Bool.false_or] at hb
    exact .base (spells_before h hf hb (by omega) (by omega))

private theorem faithful_of_dotted (hf : e.faithful true = true) (hr : e.isRecord = false) :
    e.faithful false = true := by
  cases e <;> first | exact hf | cases hr

private theorem power_of_head (h : HeadIn [.name] (operandWords 10 e e.words)) :
    operandWords 10 e e.words = e.words := by
  unfold operandWords at h ⊢
  by_cases hp : e.power < 10
  · rw [if_pos hp] at h
    simp [HeadIn] at h
  · rw [if_neg hp]

private theorem power_of_record (h : e.isRecord = true) : operandWords 10 e e.words = e.words := by
  cases e <;> first | rfl | cases h

private theorem spells_member (h : Spelled rule e) (hf : e.faithful true = true) (hm : fitsMember limit e = true) :
    Spells rule (.member limit e) (operandWords 10 e e.words) (memberRoom limit e e.room) := by
  unfold memberRoom
  by_cases hr : e.isRecord = true
  · rw [if_pos hr, power_of_record hr]
    exact h.record hf hr limit
  · rw [if_neg hr]
    simp only [fitsMember, hr, Bool.false_or, Bool.and_eq_true, decide_eq_true_eq] at hm
    obtain ⟨hh, hl⟩ := hm
    have hs := h.expr (faithful_of_dotted hf (by simpa using hr)) limit hl
    have hw := power_of_head hh
    rw [hw] at hh ⊢
    exact .named hs (hh.mono (by simp))

private theorem not_star_of_member (hm : fitsMember limit e = true) :
    ¬ HeadIn [.star] (operandWords 10 e e.words) := by
  simp only [fitsMember, Bool.or_eq_true, Bool.and_eq_true, decide_eq_true_eq] at hm
  rcases hm with hr | ⟨hh, -⟩
  · rw [power_of_record hr]
    cases e <;> first | (simp [words, HeadIn]; done) | cases hr
  · intro hs
    cases hw : operandWords 10 e e.words with
    | nil => simp [hw, HeadIn] at hh
    | cons w ws => simp_all [HeadIn]

private theorem spells_applied (h : Spelled rule e) (hf : e.faithful true = true) (ha : fitsApplied limit e = true) :
    Spells rule (.applied limit e) (appliedWords e e.words) (appliedRoom limit e e.room) := by
  unfold appliedWords appliedRoom
  by_cases hc : e.isCurrent = true
  · obtain rfl := eq_current hc
    exact .itself
  · rw [if_neg hc, if_neg hc]
    simp only [fitsApplied, hc, Bool.false_or] at ha
    by_cases hb : e.startsWithBracket = true
    · rw [if_pos hb] at ha ⊢
      rw [if_pos hb]
      simp only [Bool.and_eq_true, decide_eq_true_eq] at ha
      have hr : e.isRecord = false := by
        cases e <;> first | rfl | cases hb
      exact .bracketed (h.expr (faithful_of_dotted hf hr) limit ha.2) ha.1
    · rw [if_neg hb] at ha ⊢
      rw [if_neg hb]
      exact .dotted (spells_member h hf ha)

private theorem boundsOf_sliceWords {start stop step : Option Int} (ha : ∀ n ∈ start, InRange n)
    (hb : ∀ n ∈ stop, InRange n) (hc : ∀ n ∈ step, InRange n) :
    ∃ place, boundsOf? ⟨none, none, none, 0⟩ (sliceWords start stop step) = some ⟨start, stop, step, place⟩ := by
  have hn : ∀ n, (numberWord n).kind ≠ .colon := fun n => by simp [numberWord, Word.of]
  cases start <;> cases stop <;> cases step <;>
    simp_all [sliceWords, boundsOf?, number?_numberWord, Parser.Bounds.put]

private theorem isSlice_sliceWords (start stop step : Option Int) : IsSlice (sliceWords start stop step) := by
  cases start <;> simp [IsSlice, sliceWords]

private theorem spells_items {es : List Expr} (hne : es ≠ []) (h : ∀ e ∈ es, Spelled rule e)
    (hf : faithfulList es = true) : Spells rule (.items es) (listWords es ++ [mark .rbracket]) maxPower := by
  induction es with
  | nil => exact absurd rfl hne
  | cons e es ih =>
    simp only [faithfulList, Bool.and_eq_true] at hf
    have he := (h e (by simp)).expr hf.1 0 (lead_pos e)
    cases es with
    | nil => exact .lastItem he
    | cons e' es =>
      have hes := ih (by simp) (fun x hx => h x (List.mem_cons_of_mem _ hx)) hf.2
      simpa [listWords] using Spells.item he hes

private theorem spells_entries {es : List (String × Expr)} (hne : es ≠ []) (h : ∀ x ∈ es, Spelled rule x.2)
    (hf : faithfulEntries es = true) : Spells rule (.entries es) (entryWords es ++ [mark .rbrace]) maxPower := by
  induction es with
  | nil => exact absurd rfl hne
  | cons x es ih =>
    obtain ⟨name, e⟩ := x
    have hk : (nameWord name).key? = some name := by
      simp [Word.key?, nameWord, Word.of, Word.token, Token.text, Kind.isVariable]
    simp only [faithfulEntries, Bool.and_eq_true] at hf
    have he := (h (name, e) (by simp)).expr hf.1 0 (lead_pos e)
    cases es with
    | nil => exact .lastEntry hk he
    | cons e' es =>
      have hes := ih (by simp) (fun x hx => h x (List.mem_cons_of_mem _ hx)) hf.2
      simpa [entryWords] using Spells.entry hk he hes

private theorem spells_args {es : List Expr} (h : ∀ e ∈ es, Spelled rule e) (hf : faithfulList es = true) :
    Spells rule (.args es) (listWords es ++ [mark .rparen]) maxPower := by
  induction es with
  | nil => exact .noArgs
  | cons e es ih =>
    simp only [faithfulList, Bool.and_eq_true] at hf
    have he := (h e (by simp)).expr hf.1 0 (lead_pos e)
    have hes := ih (fun x hx => h x (List.mem_cons_of_mem _ hx)) hf.2
    cases es with
    | nil => exact .bareArg he hes rfl
    | cons e' es => simpa [listWords] using Spells.arg he hes

theorem words_ne_nil (h : Plain e) : e.words ≠ [] := by
  cases h with
  | elements hl _ => simp [words, collectionWords_eq hl]
  | slices => simp [words, collectionWords]
  | flattened => simp [words, collectionWords]
  | projectValues =>
    rw [words, valuesWords]
    split <;> simp
  | _ => simp [words]

private theorem append_ne_star {us vs : List Word} {w : Word} (hw : w ≠ mark .star) :
    us ++ w :: vs ≠ [mark .star] := by
  intro h
  rcases List.append_eq_singleton_iff.1 h with ⟨-, h⟩ | ⟨-, h⟩
  · exact hw (List.cons.inj h).1
  · cases h

private theorem appliedWords_eq_nil (h : Plain e) (ha : appliedWords e e.words = []) : e = current := by
  unfold appliedWords at ha
  by_cases hc : e.isCurrent = true
  · exact eq_current hc
  · rw [if_neg hc] at ha
    split at ha
    · exact absurd ha (words_ne_nil h)
    · cases ha

/-- Only the projection of all values is written as a star. -/
private theorem eq_of_star (h : Plain e) (hw : e.words = [mark .star]) : e = projectValues current current := by
  cases h with
  | elements hl _ =>
    rw [words, collectionWords_eq hl, List.append_assoc] at hw
    exact absurd hw (append_ne_star (by simp [mark]))
  | slices =>
    rw [words, collectionWords, words, List.append_assoc] at hw
    exact absurd hw (append_ne_star (by simp [mark]))
  | flattened =>
    rw [words, collectionWords, words, List.append_assoc] at hw
    exact absurd hw (append_ne_star (by simp [mark]))
  | @projectValues l r _ hr =>
    rw [words, valuesWords] at hw
    by_cases hc : l.isCurrent = true
    · rw [if_pos hc] at hw
      rw [eq_current hc, appliedWords_eq_nil hr (List.cons.inj hw).2]
    · rw [if_neg hc, List.append_assoc] at hw
      exact absurd hw (append_ne_star (by simp [mark]))
  | field => simp [words, nameWord, Word.of, mark] at hw
  | list => simp [words, mark] at hw
  | hash => simp [words, mark] at hw
  | call => simp [words, nameWord, Word.of, mark] at hw
  | not => simp [words, mark] at hw
  | reference => simp [words, mark] at hw
  | current => simp [words, mark] at hw
  | _ =>
    rw [words] at hw
    exact absurd hw (append_ne_star (by simp [mark]))

private theorem isStar_of_words {es : List Expr} (hne : es ≠ []) (h : ∀ e ∈ es, Plain e)
    (hp : [mark .star, mark .rbracket] <+: listWords es ++ [mark .rbracket]) : isStar es = true := by
  obtain ⟨ws, hws⟩ := hp
  have hstar : Closed [mark .star] := rfl
  match es with
  | [] => exact absurd rfl hne
  | [e] =>
    obtain ⟨hw, -, -⟩ := hstar.split (closed_words (h e (by simp))) rfl rfl hws
    rw [eq_of_star (h e (by simp)) hw.symm]
    rfl
  | e :: e' :: es =>
    rw [listWords, List.append_assoc, List.cons_append] at hws
    · obtain ⟨-, hw, -⟩ := hstar.split (closed_words (h e (by simp))) rfl rfl hws
      exact absurd hw (by simp [mark])
    · simp

theorem alone_of_plain (h : Plain e) : e.isBracketed = false ∧ e.projectPower = Kind.star.power := by
  cases h <;> exact ⟨rfl, rfl⟩

/-- A faithful expression is spelled by its words. -/
theorem spelled_of_plain (h : Plain e) : Spelled rule e := by
  -- lists and hashes are spelled in two ways: as operands, and behind a dot
  induction h with
  | field _ =>
    exact ⟨fun _ limit _ => .leaf (leaf_nameWord _), fun _ hr => by cases hr⟩
  | @sub _ r _ _ ihl ihr =>
    refine ⟨fun hf limit hl => ?_, fun _ hr => by cases hr⟩
    simp only [faithful, Bool.and_eq_true] at hf
    obtain ⟨⟨⟨hfl, hfr⟩, hb⟩, hm⟩ := hf
    rw [lead] at hl
    exact .sub (spells_before ihl hfl hb (by omega) (by omega)) (spells_member ihr hfr hm) (not_star_of_member hm)
  | @index _ n _ hn ih =>
    refine ⟨fun hf limit hl => ?_, fun _ hr => by cases hr⟩
    simp only [faithful, Bool.and_eq_true] at hf
    exact .index (spells_base ih hf.1 hf.2 hl) (number?_numberWord hn)
  | @slices l r start stop step _ ha hb hc _ ihl ihr =>
    refine ⟨fun hf limit hl => ?_, fun _ hr => by cases hr⟩
    simp only [faithful, Bool.and_eq_true] at hf
    obtain ⟨⟨⟨⟨hfl, hfb⟩, hfr⟩, -⟩, hfa⟩ := hf
    obtain ⟨place, hp⟩ := boundsOf_sliceWords ha hb hc
    have hs := Spells.slice (spells_base ihl hfl hfb hl) (isSlice_sliceWords start stop step) hp
      (spells_applied ihr hfr hfa)
    simpa [words, collectionWords, room, projectPower] using hs
  | flattened _ _ ihl ihr =>
    refine ⟨fun hf limit hl => ?_, fun _ hr => by cases hr⟩
    simp only [faithful, Bool.and_eq_true] at hf
    obtain ⟨⟨⟨⟨hfl, hb⟩, hfr⟩, -⟩, hfa⟩ := hf
    have hs := Spells.flatten (spells_base ihl hfl hb hl) (spells_applied ihr hfr hfa)
    simpa [words, collectionWords, room, projectPower] using hs
  | elements hp _ ihl ihr =>
    refine ⟨fun hf limit hl => ?_, fun _ hr => by cases hr⟩
    obtain ⟨hn, hpower⟩ := alone_of_plain hp
    simp only [faithful, hn, hpower, Bool.false_or, Bool.and_eq_true] at hf
    obtain ⟨⟨⟨hfl, hfr⟩, hb⟩, hfa⟩ := hf
    rw [lead, hn, if_neg (by simp)] at hl
    have hs := Spells.elements (spells_base ihl hfl hb hl) (spells_applied ihr hfr hfa)
    simpa [words, collectionWords_eq hp, room, hpower] using hs
  | @filter _ _ _ _ _ _ ihl ihr ihc =>
    refine ⟨fun hf limit hl => ?_, fun _ hr => by cases hr⟩
    simp only [faithful, Bool.and_eq_true] at hf
    obtain ⟨⟨⟨⟨hfl, hfr⟩, hfc⟩, hb⟩, hfa⟩ := hf
    exact .filter (spells_base ihl hfl hb hl) (ihc.expr hfc 0 (lead_pos _)) (spells_applied ihr hfr hfa)
  | @projectValues l r _ _ ihl ihr =>
    refine ⟨fun hf limit hl => ?_, fun _ hr => by cases hr⟩
    simp only [faithful, Bool.and_eq_true] at hf
    obtain ⟨⟨⟨hfl, hfr⟩, hb⟩, hfa⟩ := hf
    rw [words, room, valuesWords]
    rw [lead, leadBefore] at hl
    by_cases hc : l.isCurrent = true
    · obtain rfl := eq_current hc
      exact .values (spells_applied ihr hfr hfa)
    · rw [if_neg hc] at hl hfa
      rw [if_neg hc, if_neg hc, List.append_assoc]
      simp only [fitsBase, hc, Bool.false_or] at hb
      exact .valuesOf (spells_before ihl hfl hb (by omega) (by omega)) (spells_applied ihr hfr hfa)
  | @list es hne hp ih =>
    refine ⟨fun hf limit _ => ?_, fun hf _ limit => ?_⟩
    · simp only [faithful, Bool.and_eq_true, Bool.false_or, Bool.not_eq_true'] at hf
      refine .list (spells_items hne ih hf.1) fun hs => ?_
      rw [isStar_of_words hne hp hs] at hf
      exact absurd hf.2 (by simp)
    · simp only [faithful, Bool.true_or, Bool.and_true] at hf
      exact .memberList (spells_items hne ih hf)
  | hash hne _ _ ih =>
    refine ⟨fun hf limit _ => ?_, fun hf _ limit => ?_⟩
    · exact .hash (spells_entries hne ih hf)
    · exact .memberHash (spells_entries hne ih hf)
  | compare _ _ ihl ihr =>
    refine ⟨fun hf limit hl => ?_, fun _ hr => by cases hr⟩
    rw [faithful] at hf
    rw [lead] at hl
    obtain ⟨hspelled, hspelled'⟩ := spells_sides ihl ihr hf hl
    exact .compare hspelled hspelled'
  | and _ _ ihl ihr =>
    refine ⟨fun hf limit hl => ?_, fun _ hr => by cases hr⟩
    rw [faithful] at hf
    rw [lead] at hl
    obtain ⟨hspelled, hspelled'⟩ := spells_sides ihl ihr hf hl
    exact .and hspelled hspelled'
  | or _ _ ihl ihr =>
    refine ⟨fun hf limit hl => ?_, fun _ hr => by cases hr⟩
    rw [faithful] at hf
    rw [lead] at hl
    obtain ⟨hspelled, hspelled'⟩ := spells_sides ihl ihr hf hl
    exact .or hspelled hspelled'
  | not _ ih =>
    refine ⟨fun hf limit _ => ?_, fun _ hr => by cases hr⟩
    simp only [faithful, Bool.and_eq_true] at hf
    exact .not (spells_operand ih hf.1 (of_decide_eq_true hf.2))
  | pipe _ _ ihl ihr =>
    refine ⟨fun hf limit hl => ?_, fun _ hr => by cases hr⟩
    rw [faithful] at hf
    rw [lead] at hl
    obtain ⟨hspelled, hspelled'⟩ := spells_sides ihl ihr hf hl
    exact .pipe hspelled hspelled'
  | @call name _ _ _ ih =>
    refine ⟨fun hf limit hl => ?_, fun _ hr => by cases hr⟩
    have hn : Spells rule (.expr limit (field name)) [nameWord name] maxPower := .leaf (leaf_nameWord name)
    exact .call (.left hn hl (Nat.le_refl _)) (spells_args ih hf)
  | current =>
    refine ⟨fun _ limit _ => .leaf rfl, fun _ hr => by cases hr⟩
  | reference _ ih =>
    refine ⟨fun hf limit _ => ?_, fun _ hr => by cases hr⟩
    exact .reference (spells_operand ih hf (leadIn_pos (lead_pos _)))

end Expr

end Signpost.Query
