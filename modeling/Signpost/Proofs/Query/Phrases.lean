import Signpost.Proofs.Query.Calls
import Signpost.Proofs.Query.Precedence

/-!
# The grammar without precedence

Which words make up which expression when nothing is said about how tightly operators bind (`Derives`).  Here arguments
are separated by single commas, and a slice has at most one number before, between and behind its colons.  The reader
takes more: it goes on where the comma between two arguments is missing, stops behind a trailing one, and lets a second
number take the place of the first.  What it takes is derived here exactly if no word stands behind one that it must not
follow (`Expr.derives_iff_isChain`).
-/

namespace Signpost.Query

open Word (mark)

/-- The kinds of words that an expression may start with. -/
def Token.Kind.starts : Token.Kind → Bool
  | json | raw | quotedName | name | current | reference | not => true
  | lparen | lbracket | lbrace | flatten | filter | star => true
  | _ => false

/-- What words can make up. -/
inductive Phrase where
  | expr (e : Expr)
  /-- What stands before a bracket, which is nothing for the current value. -/
  | base (e : Expr)
  /-- What a projection applies to each element. -/
  | applied (e : Expr)
  /-- What follows a dot. -/
  | member (e : Expr)
  /-- Expressions with single commas between them, and a closing bracket. -/
  | series (close : Token.Kind) (es : List Expr)
  /-- The arguments of a call with the closing parenthesis. -/
  | args (es : List Expr)
  /-- The entries of a hash with the closing brace. -/
  | entries (es : List (String × Expr))

/-- A bound of a slice, if there is one. -/
inductive Bound : Option Int → List Word → Prop
  | absent : Bound none []
  | number {n w} (h : w.number? = some n) : Bound (some n) [w]

/-- A slice between its brackets: two bounds with a colon between them, and perhaps a step. -/
inductive Slice : Option Int → Option Int → Option Int → List Word → Prop
  | range {start stop us c vs} (hstart : Bound start us) (hc : c.kind = .colon) (hstop : Bound stop vs) :
    Slice start stop none (us ++ c :: vs)
  | stepped {start stop step us c vs d ws} (hstart : Bound start us) (hc : c.kind = .colon) (hstop : Bound stop vs)
    (hd : d.kind = .colon) (hstep : Bound step ws) : Slice start stop step (us ++ c :: (vs ++ d :: ws))

/-- The words make up the phrase. -/
inductive Derives (rule : Json.RealRule) : Phrase → List Word → Prop
  | leaf {w e m} (h : w.leaf? rule = some (e, m)) : Derives rule (.expr e) [w]
  | group {e ws} (h : Derives rule (.expr e) ws) : Derives rule (.expr e) (mark .lparen :: (ws ++ [mark .rparen]))
  | not {e ws} (h : Derives rule (.expr e) ws) : Derives rule (.expr (.not e)) (mark .not :: ws)
  | reference {e ws} (h : Derives rule (.expr e) ws) : Derives rule (.expr (.reference e)) (mark .reference :: ws)
  | list {es ws} (h : Derives rule (.series .rbracket es) ws) : Derives rule (.expr (.list es)) (mark .lbracket :: ws)
  | hash {es ws} (h : Derives rule (.entries es) ws) : Derives rule (.expr (.hash es)) (mark .lbrace :: ws)
  | joined {o : Connective} {l r us vs} (hl : Derives rule (.expr l) us) (hr : Derives rule (.expr r) vs) :
    Derives rule (.expr (o.apply l r)) (us ++ mark o.kind :: vs)
  | sub {l r us vs} (hl : Derives rule (.expr l) us) (hr : Derives rule (.member r) vs) :
    Derives rule (.expr (.sub l r)) (us ++ mark .dot :: vs)
  | call {name es us vs} (hl : Derives rule (.expr (.field name)) us) (ha : Derives rule (.args es) vs) :
    Derives rule (.expr (.call name es)) (us ++ mark .lparen :: vs)
  | index {l n us w} (hl : Derives rule (.base l) us) (hn : w.number? = some n) :
    Derives rule (.expr (.index l n)) (us ++ [mark .lbracket, w, mark .rbracket])
  | slice {l r us bs vs start stop step} (hl : Derives rule (.base l) us) (hb : Slice start stop step bs)
    (hr : Derives rule (.applied r) vs) :
    Derives rule (.expr (.project (.slice l start stop step) r)) (us ++ mark .lbracket :: (bs ++ mark .rbracket :: vs))
  | elements {l r us vs} (hl : Derives rule (.base l) us) (hr : Derives rule (.applied r) vs) :
    Derives rule (.expr (.project l r)) (us ++ mark .lbracket :: mark .star :: mark .rbracket :: vs)
  | flatten {l r us vs} (hl : Derives rule (.base l) us) (hr : Derives rule (.applied r) vs) :
    Derives rule (.expr (.project (.flatten l) r)) (us ++ mark .flatten :: vs)
  | filter {l r c us cs vs} (hl : Derives rule (.base l) us) (hc : Derives rule (.expr c) cs)
    (hr : Derives rule (.applied r) vs) :
    Derives rule (.expr (.filter l r c)) (us ++ mark .filter :: (cs ++ mark .rbracket :: vs))
  | values {r vs} (hr : Derives rule (.applied r) vs) :
    Derives rule (.expr (.projectValues .current r)) (mark .star :: vs)
  | valuesOf {l r us vs} (hl : Derives rule (.expr l) us) (hr : Derives rule (.applied r) vs) :
    Derives rule (.expr (.projectValues l r)) (us ++ mark .dot :: mark .star :: vs)
  | nothing : Derives rule (.base .current) []
  | base {e ws} (h : Derives rule (.expr e) ws) : Derives rule (.base e) ws
  | itself : Derives rule (.applied .current) []
  | bracketed {e ws} (h : Derives rule (.expr e) ws) (hs : HeadIn [.lbracket, .filter] ws) :
    Derives rule (.applied e) ws
  | dotted {e ws} (h : Derives rule (.member e) ws) : Derives rule (.applied e) (mark .dot :: ws)
  | named {e ws} (h : Derives rule (.expr e) ws) (hs : HeadIn [.quotedName, .name, .star] ws) :
    Derives rule (.member e) ws
  | memberList {es ws} (h : Derives rule (.series .rbracket es) ws) :
    Derives rule (.member (.list es)) (mark .lbracket :: ws)
  | memberHash {es ws} (h : Derives rule (.entries es) ws) : Derives rule (.member (.hash es)) (mark .lbrace :: ws)
  | last {close e ws} (hclose : close ∈ [.rbracket, .rparen]) (h : Derives rule (.expr e) ws) :
    Derives rule (.series close [e]) (ws ++ [mark close])
  | next {close e es us vs} (h : Derives rule (.expr e) us) (hs : Derives rule (.series close es) vs) :
    Derives rule (.series close (e :: es)) (us ++ mark .comma :: vs)
  | noArgs : Derives rule (.args []) [mark .rparen]
  | someArgs {es ws} (h : Derives rule (.series .rparen es) ws) : Derives rule (.args es) ws
  | lastEntry {w key e ws} (hk : w.key? = some key) (h : Derives rule (.expr e) ws) :
    Derives rule (.entries [(key, e)]) (w :: mark .colon :: (ws ++ [mark .rbrace]))
  | nextEntry {w key e es us vs} (hk : w.key? = some key) (h : Derives rule (.expr e) us)
    (hs : Derives rule (.entries es) vs) :
    Derives rule (.entries ((key, e) :: es)) (w :: mark .colon :: (us ++ mark .comma :: vs))

/-- Whether a word may stand right before another. -/
structure Word.MayPrecede (u v : Word) : Prop where
  /-- What starts an expression behind an operand is one of the words that also continue it, as a bracket is. -/
  operand : u.kind.ends = true → v.kind.starts = true → v.kind.power ≠ 0
  comma : u.kind = .comma → v.kind ≠ .rparen
  number : u.kind = .number → v.kind ≠ .number

instance (u v : Word) : Decidable (u.MayPrecede v) :=
  decidable_of_iff ((u.kind.ends = true → v.kind.starts = true → v.kind.power ≠ 0) ∧
      (u.kind = .comma → v.kind ≠ .rparen) ∧ (u.kind = .number → v.kind ≠ .number))
    ⟨fun ⟨h₁, h₂, h₃⟩ => ⟨h₁, h₂, h₃⟩, fun ⟨h₁, h₂, h₃⟩ => ⟨h₁, h₂, h₃⟩⟩

/-! ### The ends of what is derived -/

/-- The first word, if there is one, starts an expression. -/
def Starts (ws : List Word) : Prop := ∀ w ∈ ws.head?, w.kind.starts = true

/-- The last word, if there is one, ends an operand. -/
def Ends (ws : List Word) : Prop := ∀ w ∈ ws.getLast?, w.kind.ends = true

variable {us vs ws bs : List Word} {u v w : Word} {k : Token.Kind}

theorem starts_append (hu : Starts us) (hv : Starts vs) : Starts (us ++ vs) := by
  cases us with
  | nil => exact hv
  | cons u us => exact hu

theorem starts_append_left (hne : us ≠ []) (hu : Starts us) : Starts (us ++ vs) := by
  cases us with
  | nil => exact absurd rfl hne
  | cons u us => exact hu

theorem starts_cons (h : w.kind.starts = true) : Starts (w :: ws) := by
  simpa [Starts] using h

theorem ends_append (hu : Ends us) (hv : Ends vs) : Ends (us ++ vs) := by
  intro w hw
  rw [List.getLast?_append] at hw
  cases hl : vs.getLast? with
  | none =>
    rw [hl] at hw
    exact hu w hw
  | some v =>
    rw [hl] at hw
    cases hw
    exact hv _ hl

theorem ends_append_right (hne : vs ≠ []) (hv : Ends vs) : Ends (us ++ vs) := by
  intro w hw
  rw [List.getLast?_append_of_ne_nil _ hne] at hw
  exact hv w hw

theorem ends_singleton (h : w.kind.ends = true) : Ends [w] := by
  simpa [Ends] using h

theorem ends_cons (hw : w.kind.ends = true) (h : Ends ws) : Ends (w :: ws) := ends_append (ends_singleton hw) h

theorem ends_cons_right (hne : ws ≠ []) (h : Ends ws) : Ends (w :: ws) := by
  rw [← List.singleton_append]
  exact ends_append_right hne h

variable {rule : Json.RealRule} {p : Phrase} {e : Expr}

/-- What is known of the first and the last word of a phrase. -/
def Phrase.Bordered : Phrase → List Word → Prop
  | .expr _, ws | .series _ _, ws | .entries _, ws => ws ≠ [] ∧ Starts ws ∧ Ends ws
  | .member _, ws | .args _, ws => ws ≠ [] ∧ Ends ws
  | .base _, ws => Starts ws
  | .applied _, ws => (∀ w ∈ ws.head?, w.kind ∈ [.lbracket, .filter, .dot]) ∧ Ends ws

private theorem borders (hu : Starts us) (hk : us ≠ [] ∨ k.starts = true) (hv : Ends (mark k :: vs)) :
    us ++ mark k :: vs ≠ [] ∧ Starts (us ++ mark k :: vs) ∧ Ends (us ++ mark k :: vs) := by
  refine ⟨by simp, ?_, ends_append_right (by simp) hv⟩
  rcases hk with hne | hk
  · exact starts_append_left hne hu
  · exact starts_append hu (starts_cons hk)

private theorem starts_key {key : String} (h : w.key? = some key) : Starts (w :: ws) := by
  have hstarts : ∀ k ∈ [Token.Kind.name, .quotedName], k.starts = true := by decide
  exact starts_cons (hstarts _ (Word.kind_of_key h))

theorem bordered_of_derives (h : Derives rule p ws) : p.Bordered ws := by
  induction h with
  | leaf h =>
    have hleaf : ∀ k ∈ [Token.Kind.json, .raw, .quotedName, .name, .current], k.starts = true ∧ k.ends = true := by
      decide
    obtain ⟨hs, he⟩ := hleaf _ (Word.kind_of_leaf h)
    exact ⟨by simp, starts_cons hs, ends_singleton he⟩
  | group _ ih =>
    exact ⟨by simp, starts_cons rfl, ends_cons_right (by simp) (ends_append_right (by simp) (ends_singleton rfl))⟩
  | not _ ih | reference _ ih | list _ ih | hash _ ih => exact ⟨by simp, starts_cons rfl, ends_cons_right ih.1 ih.2.2⟩
  | joined _ _ ihl ihr => exact borders ihl.2.1 (.inl ihl.1) (ends_cons_right ihr.1 ihr.2.2)
  | sub _ _ ihl ihr | call _ _ ihl ihr => exact borders ihl.2.1 (.inl ihl.1) (ends_cons_right ihr.1 ihr.2)
  | index _ _ ihl =>
    exact borders ihl (.inr rfl) (ends_cons_right (by simp) (ends_cons_right (by simp) (ends_singleton rfl)))
  | slice _ _ _ ihl ihr =>
    exact borders ihl (.inr rfl) (ends_cons_right (by simp) (ends_append_right (by simp) (ends_cons rfl ihr.2)))
  | elements _ _ ihl ihr =>
    exact borders ihl (.inr rfl) (ends_cons_right (by simp) (ends_cons rfl (ends_cons rfl ihr.2)))
  | flatten _ _ ihl ihr => exact borders ihl (.inr rfl) (ends_cons rfl ihr.2)
  | filter _ _ _ ihl _ ihr =>
    exact borders ihl (.inr rfl) (ends_cons_right (by simp) (ends_append_right (by simp) (ends_cons rfl ihr.2)))
  | values _ ih => exact ⟨by simp, starts_cons rfl, ends_cons rfl ih.2⟩
  | valuesOf _ _ ihl ihr => exact borders ihl.2.1 (.inl ihl.1) (ends_cons_right (by simp) (ends_cons rfl ihr.2))
  | nothing => simp [Phrase.Bordered, Starts]
  | base _ ih => exact ih.2.1
  | itself => simp [Phrase.Bordered, Ends]
  | bracketed _ hs ih =>
    refine ⟨fun w hw => ?_, ih.2.2⟩
    obtain ⟨ws, rfl⟩ := List.head?_eq_some_iff.1 hw
    have hk : w.kind ∈ [.lbracket, .filter] := hs
    exact List.mem_append_left [.dot] hk
  | dotted _ ih => exact ⟨by simp, ends_cons_right ih.1 ih.2⟩
  | named _ _ ih => exact ⟨ih.1, ih.2.2⟩
  | memberList _ ih | memberHash _ ih => exact ⟨by simp, ends_cons_right ih.1 ih.2.2⟩
  | last hclose _ ih =>
    simp only [List.mem_cons, List.not_mem_nil, or_false] at hclose
    exact borders ih.2.1 (.inl ih.1) (ends_singleton (by rcases hclose with rfl | rfl <;> rfl))
  | next _ _ ih ihs => exact borders ih.2.1 (.inl ih.1) (ends_cons_right ihs.1 ihs.2.2)
  | noArgs => exact ⟨by simp, ends_singleton rfl⟩
  | someArgs _ ih => exact ⟨ih.1, ih.2.2⟩
  | lastEntry hk _ ih =>
    refine ⟨by simp, starts_key hk, ends_cons_right (by simp) (ends_cons_right (by simp) ?_)⟩
    exact ends_append_right (by simp) (ends_singleton rfl)
  | nextEntry hk _ _ _ ihs =>
    refine ⟨by simp, starts_key hk, ends_cons_right (by simp) (ends_cons_right (by simp) ?_)⟩
    exact ends_append_right (by simp) (ends_cons_right ihs.1 ihs.2.2)

/-! ### Which words follow each other -/

/-- The kinds of words that stand between two others, whatever these are. -/
def Token.Kind.separates : Token.Kind → Bool
  | lparen | lbracket | lbrace | filter | colon | dot | and | or | pipe | not | compare _ => true
  | _ => false

/-- Any word may stand before one that starts no operand of its own and is no number and no closing parenthesis. -/
theorem mayPrecede_of_right (hs : v.kind.starts = true → v.kind.power ≠ 0) (hp : v.kind ≠ .rparen)
    (hn : v.kind ≠ .number) : u.MayPrecede v :=
  ⟨fun _ => hs, fun _ => hp, fun _ => hn⟩

/-- Any word may stand behind one that ends no operand and is neither a number nor a comma. -/
theorem mayPrecede_of_left (he : u.kind.ends = false) (hc : u.kind ≠ .comma) (hn : u.kind ≠ .number) :
    u.MayPrecede v :=
  ⟨fun h => by simp [he] at h, fun h => absurd h hc, fun h => absurd h hn⟩

theorem mayPrecede_of_separates (h : v.kind.separates = true) : u.MayPrecede v ∧ v.MayPrecede w := by
  constructor
  · refine mayPrecede_of_right ?_ ?_ ?_ <;> cases hk : v.kind <;>
      simp_all [Token.Kind.separates, Token.Kind.starts, Token.Kind.power]
  · refine mayPrecede_of_left ?_ ?_ ?_ <;> cases hk : v.kind <;> simp_all [Token.Kind.separates, Token.Kind.ends]

private theorem isChain_cons_separated (h : w.kind.separates = true) (hv : vs.IsChain Word.MayPrecede) :
    (w :: vs).IsChain Word.MayPrecede :=
  List.isChain_cons.2 ⟨fun _ _ => (mayPrecede_of_separates (u := w) h).2, hv⟩

private theorem isChain_separated (h : w.kind.separates = true) (hu : us.IsChain Word.MayPrecede)
    (hv : vs.IsChain Word.MayPrecede) : (us ++ w :: vs).IsChain Word.MayPrecede := by
  refine hu.append (isChain_cons_separated h hv) fun u _ v hv => ?_
  cases hv
  exact (mayPrecede_of_separates (w := w) h).1

private theorem isChain_entry (hv : vs.IsChain Word.MayPrecede) :
    (w :: mark .colon :: vs).IsChain Word.MayPrecede := by
  rw [← List.singleton_append]
  exact isChain_separated rfl (.singleton w) hv

private theorem isChain_append_mark (hk : k ∈ [.flatten, .rbracket, .comma]) (hu : us.IsChain Word.MayPrecede)
    (hv : (mark k :: vs).IsChain Word.MayPrecede) : (us ++ mark k :: vs).IsChain Word.MayPrecede := by
  have hright : ∀ k ∈ [Token.Kind.flatten, .rbracket, .comma],
      (k.starts = true → k.power ≠ 0) ∧ k ≠ .rparen ∧ k ≠ .number := by decide
  refine hu.append hv fun u _ v hv => ?_
  cases hv
  obtain ⟨hs, hp, hn⟩ := hright k hk
  exact mayPrecede_of_right hs hp hn

private theorem isChain_cons_rbracket (hv : (mark .rbracket :: vs).IsChain Word.MayPrecede) :
    (w :: mark .rbracket :: vs).IsChain Word.MayPrecede := by
  rw [← List.singleton_append]
  exact isChain_append_mark (by simp) (.singleton w) hv

private theorem isChain_comma_cons (hs : Starts vs) (hv : vs.IsChain Word.MayPrecede) :
    (mark .comma :: vs).IsChain Word.MayPrecede := by
  refine List.isChain_cons.2 ⟨fun v hmem => ⟨fun he => ?_, fun _ hk => ?_, fun hn => ?_⟩, hv⟩
  · cases he
  · have hstarts := hs v hmem
    rw [hk] at hstarts
    cases hstarts
  · cases hn

/-- What is applied to the elements of a collection may stand right behind it. -/
private theorem isChain_applied (ha : (Phrase.applied e).Bordered vs) (hv : vs.IsChain Word.MayPrecede) :
    (w :: vs).IsChain Word.MayPrecede := by
  refine List.isChain_cons.2 ⟨fun v hmem => (mayPrecede_of_separates (w := v) ?_).1, hv⟩
  have hk : ∀ k ∈ [Token.Kind.lbracket, .filter, .dot], k.separates = true := by decide
  exact hk _ (ha.1 v hmem)

private theorem isChain_close (hk : k ∈ [.rbracket, .rparen, .rbrace]) (he : Ends us)
    (hu : us.IsChain Word.MayPrecede) : (us ++ [mark k]).IsChain Word.MayPrecede := by
  have hclose : ∀ k ∈ [Token.Kind.rbracket, .rparen, .rbrace], k.starts = false := by decide
  refine hu.append (.singleton _) fun u hmem v hv => ?_
  cases hv
  have hends := he u hmem
  refine ⟨fun _ hs => ?_, fun hc => ?_, fun hn => ?_⟩
  · cases (hclose k hk).symm.trans hs
  · rw [hc] at hends
    cases hends
  · rw [hn] at hends
    cases hends

private theorem isChain_bound {n : Option Int} (h : Bound n us) : us.IsChain Word.MayPrecede := by
  cases h with
  | absent => exact .nil
  | number => exact .singleton _

private theorem isChain_slice {start stop step : Option Int} (h : Slice start stop step us) :
    us.IsChain Word.MayPrecede := by
  cases h with
  | range hstart hc hstop => exact isChain_separated (by rw [hc]; rfl) (isChain_bound hstart) (isChain_bound hstop)
  | stepped hstart hc hstop hd hstep =>
    refine isChain_separated (by rw [hc]; rfl) (isChain_bound hstart) ?_
    exact isChain_separated (by rw [hd]; rfl) (isChain_bound hstop) (isChain_bound hstep)

theorem isChain_of_derives (h : Derives rule p ws) : ws.IsChain Word.MayPrecede := by
  induction h with
  | leaf | noArgs => exact .singleton _
  | group h ih => exact isChain_cons_separated rfl (isChain_close (by simp) (bordered_of_derives h).2.2 ih)
  | not _ ih | list _ ih | hash _ ih | dotted _ ih | memberList _ ih | memberHash _ ih =>
    exact isChain_cons_separated rfl ih
  | reference _ ih =>
    exact List.isChain_cons.2 ⟨fun _ _ => mayPrecede_of_left (by decide) (by decide) (by decide), ih⟩
  | @joined o _ _ _ _ _ _ ihl ihr => exact isChain_separated (by cases o <;> rfl) ihl ihr
  | sub _ _ ihl ihr | call _ _ ihl ihr => exact isChain_separated rfl ihl ihr
  | index _ _ ihl => exact isChain_separated rfl ihl (isChain_cons_rbracket (.singleton _))
  | slice _ hb hr ihl ihr =>
    have hrest := isChain_applied (w := mark .rbracket) (bordered_of_derives hr) ihr
    exact isChain_separated rfl ihl (isChain_append_mark (by simp) (isChain_slice hb) hrest)
  | elements _ hr ihl ihr =>
    have hrest := isChain_applied (w := mark .rbracket) (bordered_of_derives hr) ihr
    exact isChain_separated rfl ihl (isChain_cons_rbracket hrest)
  | flatten _ hr ihl ihr => exact isChain_append_mark (by simp) ihl (isChain_applied (bordered_of_derives hr) ihr)
  | filter _ _ hr ihl ihc ihr =>
    have hrest := isChain_applied (w := mark .rbracket) (bordered_of_derives hr) ihr
    exact isChain_separated rfl ihl (isChain_append_mark (by simp) ihc hrest)
  | values hr ih => exact isChain_applied (bordered_of_derives hr) ih
  | valuesOf _ hr ihl ihr => exact isChain_separated rfl ihl (isChain_applied (bordered_of_derives hr) ihr)
  | nothing | itself => exact .nil
  | base _ ih | bracketed _ _ ih | named _ _ ih | someArgs _ ih => exact ih
  | last hclose h ih =>
    have hk := List.mem_append_left [.rbrace] hclose
    exact isChain_close hk (bordered_of_derives h).2.2 ih
  | next _ hs ih ihs => exact isChain_append_mark (by simp) ih (isChain_comma_cons (bordered_of_derives hs).2.1 ihs)
  | lastEntry _ h ih => exact isChain_entry (isChain_close (by simp) (bordered_of_derives h).2.2 ih)
  | nextEntry _ _ hs ih ihs =>
    have hrest := isChain_comma_cons (bordered_of_derives hs).2.1 ihs
    exact isChain_entry (isChain_append_mark (by simp) ih hrest)

/-! ### What is read -/

/-- The phrase that a part is, without its limit. -/
def Part.phrase : Part → Phrase
  | .expr _ e | .left _ _ e => .expr e
  | .base _ _ e => .base e
  | .applied _ e => .applied e
  | .member _ e => .member e
  | .items es => .series .rbracket es
  | .entries es => .entries es
  | .args es => .args es

variable {part : Part} {m : Nat}

/-- Where no number follows another, there is at most one before the next colon. -/
private theorem bound_of_boundsOf {b b' : Parser.Bounds} (h : boundsOf? b bs = some b')
    (hc : bs.IsChain Word.MayPrecede) :
    ∃ n us vs, bs = us ++ vs ∧ Bound n us ∧ (∀ v ∈ vs.head?, v.kind = .colon) ∧
      boundsOf? (n.elim b b.put) vs = some b' := by
  cases bs with
  | nil => exact ⟨none, [], [], rfl, .absent, by simp, h⟩
  | cons w ws =>
    by_cases hk : w.kind = .colon
    · exact ⟨none, [], w :: ws, rfl, .absent, by simpa using hk, h⟩
    · have hkinds := kind_of_boundsOf h
      rw [boundsOf?, if_neg hk] at h
      obtain ⟨n, hn, h⟩ := Option.bind_eq_some_iff.1 h
      refine ⟨some n, [w], ws, rfl, .number hn, fun v hv => ?_, h⟩
      have hmem := List.mem_cons_of_mem w (List.mem_of_mem_head? hv)
      exact (hkinds v hmem).resolve_right ((hc.rel_head? hv).number (Word.kind_of_number hn))

/-- A slice in which no number follows another has at most one number in each place. -/
private theorem slice_of_boundsOf {b : Parser.Bounds} (hs : IsSlice bs)
    (hb : boundsOf? ⟨none, none, none, 0⟩ bs = some b) (hc : bs.IsChain Word.MayPrecede) :
    Slice b.start b.stop b.step bs := by
  obtain ⟨start, us, vs, rfl, hstart, hcolon, hb⟩ := bound_of_boundsOf hb hc
  cases vs with
  | nil =>
    -- without a colon it would be an index
    obtain ⟨w, hw, hk⟩ := hs
    cases hstart with
    | absent => simp at hw
    | number hn =>
      obtain rfl : w = _ := by simpa using hw
      simp [Word.kind_of_number hn] at hk
  | cons c vs =>
    have hck := hcolon c rfl
    have hb₁ : boundsOf? ⟨start, none, none, 1⟩ vs = some b := by
      rw [boundsOf?, if_pos hck] at hb
      cases start <;> exact hb
    obtain ⟨stop, vs, ws, rfl, hstop, hcolon, hb⟩ := bound_of_boundsOf hb₁ hc.right_of_append.tail
    cases ws with
    | nil =>
      obtain rfl : b = ⟨start, stop, none, 1⟩ := by cases stop <;> exact (Option.some.inj hb).symm
      rw [List.append_nil]
      exact .range hstart hck hstop
    | cons d ws =>
      have hdk := hcolon d rfl
      have hb₂ : boundsOf? ⟨start, stop, none, 2⟩ ws = some b := by
        rw [boundsOf?, if_pos hdk] at hb
        cases stop <;> exact hb
      obtain ⟨step, ws, xs, rfl, hstep, hcolon, hb⟩ :=
        bound_of_boundsOf hb₂ hc.right_of_append.tail.right_of_append.tail
      cases xs with
      | nil =>
        obtain rfl : b = ⟨start, stop, step, 2⟩ := by cases step <;> exact (Option.some.inj hb).symm
        rw [List.append_nil]
        exact .stepped hstart hck hstop hdk hstep
      | cons x xs =>
        -- a slice has no third colon
        rw [boundsOf?, if_pos (hcolon x rfl)] at hb
        cases step <;> cases hb

theorem derives_of_spells (h : Spells rule part ws m) (hc : ws.IsChain Word.MayPrecede) :
    Derives rule part.phrase ws := by
  induction h with
  | leaf h => exact .leaf h
  | group _ ih => exact .group (ih hc.tail.left_of_append)
  | not _ ih => exact .not (ih hc.tail)
  | reference _ ih => exact .reference (ih hc.tail)
  | list _ _ ih => exact .list (ih hc.tail)
  | hash _ ih => exact .hash (ih hc.tail)
  | compare _ _ ihl ihr => exact .joined (o := .compare _) (ihl hc.left_of_append) (ihr hc.right_of_append.tail)
  | and _ _ ihl ihr => exact .joined (o := .and) (ihl hc.left_of_append) (ihr hc.right_of_append.tail)
  | or _ _ ihl ihr => exact .joined (o := .or) (ihl hc.left_of_append) (ihr hc.right_of_append.tail)
  | pipe _ _ ihl ihr => exact .joined (o := .pipe) (ihl hc.left_of_append) (ihr hc.right_of_append.tail)
  | sub _ _ _ ihl ihr => exact .sub (ihl hc.left_of_append) (ihr hc.right_of_append.tail)
  | call _ _ ihl iha => exact .call (ihl hc.left_of_append) (iha hc.right_of_append.tail)
  | index _ hn ihl => exact .index (ihl hc.left_of_append) hn
  | slice _ hs hb _ ihl ihr =>
    have hc' := hc.right_of_append.tail
    exact .slice (ihl hc.left_of_append) (slice_of_boundsOf hs hb hc'.left_of_append) (ihr hc'.right_of_append.tail)
  | elements _ _ ihl ihr => exact .elements (ihl hc.left_of_append) (ihr hc.right_of_append.tail.tail.tail)
  | flatten _ _ ihl ihr => exact .flatten (ihl hc.left_of_append) (ihr hc.right_of_append.tail)
  | filter _ _ _ ihl ihc ihr =>
    have hc' := hc.right_of_append.tail
    exact .filter (ihl hc.left_of_append) (ihc hc'.left_of_append) (ihr hc'.right_of_append.tail)
  | values _ ih => exact .values (ih hc.tail)
  | valuesOf _ _ ihl ihr => exact .valuesOf (ihl hc.left_of_append) (ihr hc.right_of_append.tail.tail)
  | left _ _ _ ih => exact ih hc
  | nothing => exact .nothing
  | base _ ih => exact .base (ih hc)
  | itself => exact .itself
  | bracketed _ hs ih => exact .bracketed (ih hc) hs
  | dotted _ ih => exact .dotted (ih hc.tail)
  | named _ hs ih => exact .named (ih hc) hs
  | memberList _ ih => exact .memberList (ih hc.tail)
  | memberHash _ ih => exact .memberHash (ih hc.tail)
  | lastItem _ ih => exact .last (by simp) (ih hc.left_of_append)
  | item _ _ ih ihs => exact .next (ih hc.left_of_append) (ihs hc.right_of_append.tail)
  | lastEntry hk _ ih => exact .lastEntry hk (ih hc.tail.tail.left_of_append)
  | entry hk _ _ ih ihs => exact .nextEntry hk (ih hc.tail.tail.left_of_append) (ihs hc.tail.tail.right_of_append.tail)
  | noArgs => exact .noArgs
  | arg _ _ ih ihs =>
    have he := ih hc.left_of_append
    cases ihs hc.right_of_append.tail with
    | noArgs => exact absurd rfl (hc.right_of_append.rel.comma rfl)
    | someArgs h => exact .someArgs (.next he h)
  | bareArg _ _ hp ih ihs =>
    have he := ih hc.left_of_append
    cases ihs hc.right_of_append with
    | noArgs => exact .someArgs (.last (by simp) he)
    | someArgs h =>
      obtain ⟨hne, -, hends⟩ := bordered_of_derives he
      obtain ⟨hne', hstarts, -⟩ := bordered_of_derives h
      obtain ⟨v, vs, rfl⟩ := List.exists_cons_of_ne_nil hne'
      have hnext := hc.rel_getLast_head_of_append hne hne'
      exact absurd hp (hnext.operand (hends _ (List.getLast?_eq_some_getLast hne)) (hstarts v rfl))

namespace Expr

/-- What is read follows the grammar exactly if no operand stands right behind another, no comma right before a closing
parenthesis and no number right behind a number. -/
theorem derives_iff_isChain {text : String} (h : ofTextWith rule text = .ok e) (hws : words? text.toList = some ws) :
    Derives rule (.expr e) ws ↔ ws.IsChain Word.MayPrecede := by
  obtain ⟨ws', m, hws', hs⟩ := ofTextWith_ok_iff.1 h
  obtain rfl : ws' = ws := Option.some.inj (hws'.symm.trans hws)
  exact ⟨isChain_of_derives, derives_of_spells hs⟩

theorem derives_iff_isChain_sliced :
    ofTextWith .scaled "f(a,b)[0:2:]" =
        .ok (project (slice (call "f" [field "a", field "b"]) (some 0) (some 2) none) current) ∧
      ∃ ws, words? "f(a,b)[0:2:]".toList = some ws ∧
        Derives .scaled (.expr (project (slice (call "f" [field "a", field "b"]) (some 0) (some 2) none) current)) ws ∧
        ws.IsChain Word.MayPrecede := by
  have h : ofTextWith .scaled "f(a,b)[0:2:]" =
      .ok (project (slice (call "f" [field "a", field "b"]) (some 0) (some 2) none) current) := by cbv
  have hws : words? "f(a,b)[0:2:]".toList = some [nameWord "f", mark .lparen, nameWord "a", mark .comma, nameWord "b",
      mark .rparen, mark .lbracket, numberWord 0, mark .colon, numberWord 2, mark .colon, mark .rbracket] := by cbv
  exact ⟨h, _, hws, (derives_iff_isChain h hws).2 (by decide), by decide⟩

/-- Without the comma, and with one too many, the arguments are read all the same. -/
example : ofTextWith .scaled "f(a b,)" = .ok (call "f" [field "a", field "b"]) ∧
    ofTextWith .scaled "a[1:2 3]" = .ok (project (slice (field "a") (some 1) (some 3) none) current) :=
  ⟨by cbv, by cbv⟩

end Expr

end Signpost.Query
