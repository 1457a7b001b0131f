import Signpost.Proofs.Query.Word

/-!
# The grammar of queries

Which words spell which expression, said without a reader.  `Spells rule part ws room` says that `ws` spells `part`
and that the word after `ws` may bind with at most the power `room`: one that binds more would be taken into the
part.  The powers of the operators and the limits under which operands stand are those of `Token.Kind.power`.
-/

namespace Signpost.Query

/-- No word binds more than this. -/
abbrev maxPower : Nat := 60

theorem Token.Kind.power_le (k : Token.Kind) : k.power ≤ maxPower := by
  cases k <;> simp [power, maxPower]

/-- The expression that a word stands for on its own, and the power with which the next word may bind: a name in
quotes cannot be called. -/
def Word.leaf? (rule : Json.RealRule) (w : Word) : Option (Expr × Nat) :=
  match w.kind with
  | .name => some (.field w.token.text, maxPower)
  | .quotedName => w.token.quotedText.toOption.map fun name => (.field name, maxPower - 1)
  | .json => (w.token.literal rule).toOption.map fun l => (.literal l, maxPower)
  | .raw => some (.literal (.string w.token.rawText), maxPower)
  | .current => some (.current, maxPower)
  | _ => none

/-- The number that a word writes. -/
def Word.number? (w : Word) : Option Int :=
  if w.kind = .number then w.token.number.toOption else none

/-- The name that a word writes as the key of a hash. -/
def Word.key? (w : Word) : Option String :=
  match w.kind with
  | .name => some w.token.text
  | .quotedName => w.token.quotedText.toOption
  | _ => none

theorem Word.kind_of_leaf {rule : Json.RealRule} {w : Word} {x : Expr × Nat} (h : w.leaf? rule = some x) :
    w.kind ∈ [.json, .raw, .quotedName, .name, .current] := by
  unfold Word.leaf? at h
  split at h <;> simp_all

theorem Word.expr_of_leaf {rule : Json.RealRule} {w : Word} {e : Expr} {m : Nat} (h : w.leaf? rule = some (e, m)) :
    (∃ name, e = .field name ∧ w.kind ∈ [.name, .quotedName]) ∨ (∃ l, e = .literal l ∧ w.kind ∈ [.json, .raw]) ∨
      (e = .current ∧ w.kind = .current) := by
  unfold Word.leaf? at h
  split at h <;> rename_i hk
  · cases h
    exact .inl ⟨_, rfl, by simp [hk]⟩
  · obtain ⟨name, -, h⟩ := Option.map_eq_some_iff.1 h
    cases h
    exact .inl ⟨_, rfl, by simp [hk]⟩
  · obtain ⟨l, -, h⟩ := Option.map_eq_some_iff.1 h
    cases h
    exact .inr (.inl ⟨_, rfl, by simp [hk]⟩)
  · cases h
    exact .inr (.inl ⟨_, rfl, by simp [hk]⟩)
  · cases h
    exact .inr (.inr ⟨rfl, hk⟩)
  · cases h

theorem Word.room_of_leaf {rule : Json.RealRule} {w : Word} {e : Expr} {m : Nat} (h : w.leaf? rule = some (e, m)) :
    m ≤ maxPower := by
  unfold Word.leaf? at h
  split at h
  · cases h
    exact Nat.le_refl _
  · obtain ⟨name, -, h⟩ := Option.map_eq_some_iff.1 h
    cases h
    exact Nat.sub_le _ _
  · obtain ⟨l, -, h⟩ := Option.map_eq_some_iff.1 h
    cases h
    exact Nat.le_refl _
  · cases h
    exact Nat.le_refl _
  · cases h
    exact Nat.le_refl _
  · cases h

theorem Word.kind_of_number {w : Word} {n : Int} (h : w.number? = some n) : w.kind = .number := by
  unfold Word.number? at h
  by_cases hk : w.kind = .number
  · exact hk
  · rw [if_neg hk] at h
    cases h

theorem Word.kind_of_key {w : Word} {key : String} (h : w.key? = some key) : w.kind ∈ [.name, .quotedName] := by
  unfold Word.key? at h
  split at h <;> simp_all

/-- The bounds that the words between the brackets of a slice write after others. -/
def boundsOf? (b : Parser.Bounds) : List Word → Option Parser.Bounds
  | [] => some b
  | w :: ws =>
    if w.kind = .colon then
      if b.place < 2 then boundsOf? { b with place := b.place + 1 } ws else none
    else w.number?.bind fun n => boundsOf? (b.put n) ws

/-- The words between brackets are those of a slice and not of an index. -/
def IsSlice (ws : List Word) : Prop := ∃ w ∈ ws.take 2, w.kind = .colon

/-- The power of the first word, none at the end. -/
def headPower : List Word → Nat
  | [] => 0
  | w :: _ => w.kind.power

/-- Whether the first word is of one of the kinds. -/
def HeadIn (ks : List Token.Kind) : List Word → Prop
  | [] => False
  | w :: _ => w.kind ∈ ks

instance (ks : List Token.Kind) : (ws : List Word) → Decidable (HeadIn ks ws)
  | [] => isFalse id
  | w :: _ => inferInstanceAs (Decidable (w.kind ∈ ks))

theorem HeadIn.mono {ks ks' : List Token.Kind} {ws : List Word} (h : HeadIn ks ws) (hk : ∀ k ∈ ks, k ∈ ks') :
    HeadIn ks' ws := by
  cases ws with
  | nil => exact h
  | cons w ws => exact hk _ h

theorem headIn_append_iff {ks : List Token.Kind} {us vs : List Word} (hne : us ≠ []) :
    HeadIn ks (us ++ vs) ↔ HeadIn ks us := by
  cases us with
  | nil => exact absurd rfl hne
  | cons u us => exact Iff.rfl

theorem HeadIn.ne_nil {ks : List Token.Kind} {ws : List Word} (h : HeadIn ks ws) : ws ≠ [] := by
  rintro rfl
  exact h

/-- What words can spell. -/
inductive Part where
  /-- An expression whose operators, outside all brackets, bind more than `limit`. -/
  | expr (limit : Nat) (e : Expr)
  /-- The same, as what stands before an operator. -/
  | left (limit : Nat) (operator : Token.Kind) (e : Expr)
  /-- What stands before a bracket, which is nothing for the current value. -/
  | base (limit : Nat) (operator : Token.Kind) (e : Expr)
  /-- What a projection applies to each element. -/
  | applied (limit : Nat) (e : Expr)
  /-- What follows a dot. -/
  | member (limit : Nat) (e : Expr)
  /-- The items of a list with its closing bracket. -/
  | items (es : List Expr)
  /-- The entries of a hash with its closing brace. -/
  | entries (es : List (String × Expr))
  /-- The arguments of a call with its closing parenthesis. -/
  | args (es : List Expr)

open Word (mark)

/-- The words spell the part, and may be followed by a word that binds with at most the power. -/
inductive Spells (rule : Json.RealRule) : Part → List Word → Nat → Prop
  | leaf {limit w e m} (h : w.leaf? rule = some (e, m)) : Spells rule (.expr limit e) [w] m
  | group {limit e ws m} (h : Spells rule (.expr 0 e) ws m) :
    Spells rule (.expr limit e) (mark .lparen :: (ws ++ [mark .rparen])) maxPower
  | not {limit e ws m} (h : Spells rule (.expr Token.Kind.not.power e) ws m) :
    Spells rule (.expr limit (.not e)) (mark .not :: ws) (min Token.Kind.not.power m)
  | reference {limit e ws m} (h : Spells rule (.expr 0 e) ws m) :
    Spells rule (.expr limit (.reference e)) (mark .reference :: ws) 0
  | list {limit es ws m} (h : Spells rule (.items es) ws m) (hs : ¬ [mark .star, mark .rbracket] <+: ws) :
    Spells rule (.expr limit (.list es)) (mark .lbracket :: ws) maxPower
  | hash {limit es ws m} (h : Spells rule (.entries es) ws m) :
    Spells rule (.expr limit (.hash es)) (mark .lbrace :: ws) maxPower
  | compare {limit op l r us vs m m'} (hl : Spells rule (.left limit (.compare op) l) us m)
    (hr : Spells rule (.expr (Token.Kind.compare op).power r) vs m') :
    Spells rule (.expr limit (.compare op l r)) (us ++ mark (.compare op) :: vs)
      (min (Token.Kind.compare op).power m')
  | and {limit l r us vs m m'} (hl : Spells rule (.left limit .and l) us m)
    (hr : Spells rule (.expr Token.Kind.and.power r) vs m') :
    Spells rule (.expr limit (.and l r)) (us ++ mark .and :: vs) (min Token.Kind.and.power m')
  | or {limit l r us vs m m'} (hl : Spells rule (.left limit .or l) us m)
    (hr : Spells rule (.expr Token.Kind.or.power r) vs m') :
    Spells rule (.expr limit (.or l r)) (us ++ mark .or :: vs) (min Token.Kind.or.power m')
  | pipe {limit l r us vs m m'} (hl : Spells rule (.left limit .pipe l) us m)
    (hr : Spells rule (.expr Token.Kind.pipe.power r) vs m') :
    Spells rule (.expr limit (.pipe l r)) (us ++ mark .pipe :: vs) (min Token.Kind.pipe.power m')
  | sub {limit l r us vs m m'} (hl : Spells rule (.left limit .dot l) us m)
    (hr : Spells rule (.member Token.Kind.dot.power r) vs m') (hs : ¬ HeadIn [.star] vs) :
    Spells rule (.expr limit (.sub l r)) (us ++ mark .dot :: vs) m'
  | call {limit name es us vs m m'} (hl : Spells rule (.left limit .lparen (.field name)) us m)
    (ha : Spells rule (.args es) vs m') :
    Spells rule (.expr limit (.call name es)) (us ++ mark .lparen :: vs) maxPower
  | index {limit l n us w m} (hl : Spells rule (.base limit .lbracket l) us m) (hn : w.number? = some n) :
    Spells rule (.expr limit (.index l n)) (us ++ [mark .lbracket, w, mark .rbracket]) maxPower
  | slice {limit l r us bs vs b m m'} (hl : Spells rule (.base limit .lbracket l) us m) (hs : IsSlice bs)
    (hb : boundsOf? ⟨none, none, none, 0⟩ bs = some b)
    (hr : Spells rule (.applied Token.Kind.star.power r) vs m') :
    Spells rule (.expr limit (.project (.slice l b.start b.stop b.step) r))
      (us ++ mark .lbracket :: (bs ++ mark .rbracket :: vs)) m'
  | elements {limit l r us vs m m'} (hl : Spells rule (.base limit .lbracket l) us m)
    (hr : Spells rule (.applied Token.Kind.star.power r) vs m') :
    Spells rule (.expr limit (.project l r)) (us ++ mark .lbracket :: mark .star :: mark .rbracket :: vs) m'
  | flatten {limit l r us vs m m'} (hl : Spells rule (.base limit .flatten l) us m)
    (hr : Spells rule (.applied Token.Kind.flatten.power r) vs m') :
    Spells rule (.expr limit (.project (.flatten l) r)) (us ++ mark .flatten :: vs) m'
  | filter {limit l r c us cs vs m m' m''} (hl : Spells rule (.base limit .filter l) us m)
    (hc : Spells rule (.expr 0 c) cs m'') (hr : Spells rule (.applied Token.Kind.filter.power r) vs m') :
    Spells rule (.expr limit (.filter l r c)) (us ++ mark .filter :: (cs ++ mark .rbracket :: vs)) m'
  | values {limit r vs m} (hr : Spells rule (.applied Token.Kind.star.power r) vs m) :
    Spells rule (.expr limit (.projectValues .current r)) (mark .star :: vs) m
  | valuesOf {limit l r us vs m m'} (hl : Spells rule (.left limit .dot l) us m)
    (hr : Spells rule (.applied Token.Kind.dot.power r) vs m') :
    Spells rule (.expr limit (.projectValues l r)) (us ++ mark .dot :: mark .star :: vs) m'
  | left {limit k e ws m} (h : Spells rule (.expr limit e) ws m) (hlt : limit < k.power) (hle : k.power ≤ m) :
    Spells rule (.left limit k e) ws maxPower
  | nothing {limit k} : Spells rule (.base limit k .current) [] maxPower
  | base {limit k e ws m} (h : Spells rule (.left limit k e) ws m) : Spells rule (.base limit k e) ws maxPower
  | itself {limit} : Spells rule (.applied limit .current) [] (Parser.projectionPower - 1)
  | bracketed {limit e ws m} (h : Spells rule (.expr limit e) ws m) (hs : HeadIn [.lbracket, .filter] ws) :
    Spells rule (.applied limit e) ws (min limit m)
  | dotted {limit e ws m} (h : Spells rule (.member limit e) ws m) :
    Spells rule (.applied limit e) (mark .dot :: ws) m
  | named {limit e ws m} (h : Spells rule (.expr limit e) ws m) (hs : HeadIn [.quotedName, .name, .star] ws) :
    Spells rule (.member limit e) ws (min limit m)
  | memberList {limit es ws m} (h : Spells rule (.items es) ws m) :
    Spells rule (.member limit (.list es)) (mark .lbracket :: ws) maxPower
  | memberHash {limit es ws m} (h : Spells rule (.entries es) ws m) :
    Spells rule (.member limit (.hash es)) (mark .lbrace :: ws) maxPower
  | lastItem {e ws m} (h : Spells rule (.expr 0 e) ws m) :
    Spells rule (.items [e]) (ws ++ [mark .rbracket]) maxPower
  | item {e es us vs m m'} (h : Spells rule (.expr 0 e) us m) (hs : Spells rule (.items es) vs m') :
    Spells rule (.items (e :: es)) (us ++ mark .comma :: vs) maxPower
  | lastEntry {w key e ws m} (hk : w.key? = some key) (h : Spells rule (.expr 0 e) ws m) :
    Spells rule (.entries [(key, e)]) (w :: mark .colon :: (ws ++ [mark .rbrace])) maxPower
  | entry {w key e es us vs m m'} (hk : w.key? = some key) (h : Spells rule (.expr 0 e) us m)
    (hs : Spells rule (.entries es) vs m') :
    Spells rule (.entries ((key, e) :: es)) (w :: mark .colon :: (us ++ mark .comma :: vs)) maxPower
  | noArgs : Spells rule (.args []) [mark .rparen] maxPower
  | arg {e es us vs m m'} (h : Spells rule (.expr 0 e) us m) (hs : Spells rule (.args es) vs m') :
    Spells rule (.args (e :: es)) (us ++ mark .comma :: vs) maxPower
  /-- The comma after an argument may be missing. -/
  | bareArg {e es us vs m m'} (h : Spells rule (.expr 0 e) us m) (hs : Spells rule (.args es) vs m')
    (hp : headPower vs = 0) : Spells rule (.args (e :: es)) (us ++ vs) maxPower

end Signpost.Query
