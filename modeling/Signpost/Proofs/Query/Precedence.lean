import Signpost.Proofs.Query.Spelling
import Signpost.Proofs.Query.Reading

/-!
# Precedence

Names with operators between them are read as the one tree that has them in this order and in which each operator binds
less than what is to the right of it and not more than what is to the left (`ofText_chain`).  Such a tree grows along
its right edge as operators are added (`Tree.push`), and its words spell its expression wherever the limit is below its
operator (`Tree.spells`).  That there is only one such tree follows, since words spell one expression only.
-/

namespace Signpost.Query

open Word (mark)

/-- The operators that stand between two operands. -/
inductive Connective where
  | pipe
  | or
  | and
  | compare (op : Comparison)
  deriving DecidableEq, Repr

namespace Connective

def kind : Connective → Token.Kind
  | pipe => .pipe
  | or => .or
  | and => .and
  | compare op => .compare op

def sign : Connective → List Char
  | pipe => ['|']
  | or => ['|', '|']
  | and => ['&', '&']
  | compare op => op.sign.toList

def apply : Connective → Expr → Expr → Expr
  | pipe => .pipe
  | or => .or
  | and => .and
  | compare op => .compare op

/-- How tightly an operator binds, from the loosest on. -/
def rank : Connective → Nat
  | pipe => 0
  | or => 1
  | and => 2
  | compare _ => 3

variable {op o : Connective}

theorem rank_lt : op.rank < 4 := by
  cases op <;> simp [rank]

/-- The powers with which the operators are read are in the same order. -/
theorem power_le_power_iff : op.kind.power ≤ o.kind.power ↔ op.rank ≤ o.rank := by
  cases op <;> cases o <;> simp [kind, rank, Token.Kind.power]

theorem power_lt_maxPower : op.kind.power < maxPower := by
  cases op <;> simp [kind, Token.Kind.power, maxPower]

theorem apply_inj {a b c d : Expr} (h : op.apply a b = o.apply c d) : op = o ∧ a = c ∧ b = d := by
  cases op <;> cases o <;> simp_all [apply]

theorem apply_ne_field {a b : Expr} {name : String} : op.apply a b ≠ .field name := by
  cases op <;> simp [apply]

end Connective

/-- Operators and their operands, which are names in the end. -/
inductive Tree where
  | leaf (name : String)
  | node (op : Connective) (left right : Tree)
  deriving DecidableEq, Repr

namespace Tree

def expr : Tree → Expr
  | leaf s => .field s
  | node op l r => op.apply l.expr r.expr

/-- The names and operators from left to right. -/
def inorder : Tree → List (String ⊕ Connective)
  | leaf s => [.inl s]
  | node op l r => l.inorder ++ .inr op :: r.inorder

/-- How tightly the tree binds: a name more than any operator. -/
def tightness : Tree → Nat
  | leaf _ => 4
  | node op _ _ => op.rank

/-- Every operator binds less than the tree to its right, and not more than the one to its left. -/
def IsOrdered : Tree → Prop
  | leaf _ => True
  | node op l r => op.rank ≤ l.tightness ∧ op.rank < r.tightness ∧ l.IsOrdered ∧ r.IsOrdered

instance : (t : Tree) → Decidable t.IsOrdered
  | leaf _ => isTrue trivial
  | node _ l r =>
    have : Decidable l.IsOrdered := instDecidableIsOrdered l
    have : Decidable r.IsOrdered := instDecidableIsOrdered r
    inferInstanceAs (Decidable (_ ∧ _ ∧ _ ∧ _))

/-- No operator has one that binds the same to its right. -/
example : ¬ (node .and (leaf "a") (node .and (leaf "b") (leaf "c"))).IsOrdered := by decide

/-- The tree with an operator and a name after it.  The operator takes in what binds at least as much. -/
def push (t : Tree) (op : Connective) (s : String) : Tree :=
  match t with
  | leaf _ => node op t (leaf s)
  | node o l r => if o.rank < op.rank then node o l (r.push op s) else node op t (leaf s)

variable {rule : Json.RealRule} {t u : Tree} {op : Connective} {s : String}

/-! ### Adding an operator -/

@[simp] theorem inorder_push : (t.push op s).inorder = t.inorder ++ [.inr op, .inl s] := by
  induction t with
  | leaf a => rfl
  | node o l r _ ih =>
    rw [push]
    split
    · rw [inorder, ih, inorder, List.append_assoc, List.cons_append]
    · rfl

@[simp] theorem tightness_push : (t.push op s).tightness = min t.tightness op.rank := by
  cases t with
  | leaf a => exact (Nat.min_eq_right (Nat.le_of_lt Connective.rank_lt)).symm
  | node o l r =>
    rw [push]
    split <;> simp only [tightness] <;> omega

theorem IsOrdered.push (h : t.IsOrdered) : (t.push op s).IsOrdered := by
  induction t with
  | leaf a => exact ⟨Nat.le_of_lt Connective.rank_lt, Connective.rank_lt, trivial, trivial⟩
  | node o l r _ ih =>
    obtain ⟨hl, hr, hol, hor⟩ := h
    rw [Tree.push]
    split
    · rename_i hlt
      refine ⟨hl, ?_, hol, ih hor⟩
      rw [tightness_push]
      exact Nat.lt_min.2 ⟨hr, hlt⟩
    · rename_i hle
      exact ⟨Nat.le_of_not_lt hle, Connective.rank_lt, ⟨hl, hr, hol, hor⟩, trivial⟩

/-- Comparisons associate to the left and bind more than `&&`, which binds more than `|`. -/
example : ((((leaf "a").push .pipe "b").push (.compare .equal) "c").push (.compare .less) "d").push .and "e" =
    .node .pipe (.leaf "a") (.node .and
      (.node (.compare .less) (.node (.compare .equal) (.leaf "b") (.leaf "c")) (.leaf "d")) (.leaf "e")) := by
  decide

/-! ### Words -/

/-- The word of a name or an operator. -/
def word : String ⊕ Connective → Word := Sum.elim Expr.nameWord fun op => mark op.kind

/-- The power of the operator that is outermost, which is the greatest if there is none. -/
def power : Tree → Nat
  | leaf _ => maxPower
  | node op _ _ => op.kind.power

theorem power_le_power_iff : op.kind.power ≤ t.power ↔ op.rank ≤ t.tightness := by
  cases t with
  | leaf a => simp only [power, tightness, Nat.le_of_lt Connective.power_lt_maxPower, Nat.le_of_lt Connective.rank_lt]
  | node o l r => exact Connective.power_le_power_iff

theorem power_lt_power_iff : op.kind.power < t.power ↔ op.rank < t.tightness := by
  cases t with
  | leaf a => simp only [power, tightness, Connective.power_lt_maxPower, Connective.rank_lt]
  | node o l r =>
    rw [← Nat.not_le, ← Nat.not_le]
    exact not_congr Connective.power_le_power_iff

theorem power_pos : 0 < t.power := by
  cases t with
  | leaf a => exact Nat.zero_lt_succ _
  | node o l r => cases o <;> simp [power, Connective.kind, Token.Kind.power]

private theorem spells_apply {limit m m' : Nat} {us vs : List Word} {a b : Expr}
    (hl : Spells rule (.left limit op.kind a) us m) (hr : Spells rule (.expr op.kind.power b) vs m') :
    Spells rule (.expr limit (op.apply a b)) (us ++ mark op.kind :: vs) (min op.kind.power m') := by
  cases op with
  | pipe => exact .pipe hl hr
  | or => exact .or hl hr
  | and => exact .and hl hr
  | compare op => exact .compare hl hr

/-- The words of a tree spell its expression wherever its operator binds more than the limit, and what follows may bind
as much as its operator. -/
theorem spells (h : t.IsOrdered) {limit : Nat} (hlimit : limit < t.power) :
    Spells rule (.expr limit t.expr) (t.inorder.map word) t.power := by
  induction t generalizing limit with
  | leaf a => exact .leaf (Expr.leaf_nameWord a)
  | node op l r ihl ihr =>
    obtain ⟨hl, hr, hol, hor⟩ := h
    have hl := power_le_power_iff.2 hl
    have hr := power_lt_power_iff.2 hr
    rw [power] at hlimit
    have hleft : Spells rule (.left limit op.kind l.expr) (l.inorder.map word) maxPower :=
      .left (ihl hol (Nat.lt_of_lt_of_le hlimit hl)) hlimit hl
    have hboth := spells_apply hleft (ihr hor hr)
    rw [Nat.min_eq_left (Nat.le_of_lt hr)] at hboth
    rw [inorder, List.map_append, List.map_cons, power]
    exact hboth

theorem expr_inj (h : t.expr = u.expr) : t = u := by
  induction t generalizing u with
  | leaf a =>
    cases u with
    | leaf b => rw [Expr.field.inj h]
    | node o l r => exact absurd h.symm Connective.apply_ne_field
  | node op l r ihl ihr =>
    cases u with
    | leaf b => exact absurd h Connective.apply_ne_field
    | node o l' r' =>
      obtain ⟨rfl, hl, hr⟩ := Connective.apply_inj h
      rw [ihl hl, ihr hr]

end Tree

/-! ### Texts -/

/-- Blanks, or nothing. -/
abbrev Blanks := { cs : List Char // ∀ c ∈ cs, Token.isBlank c = true }

/-- A name that needs no quotes. -/
abbrev PlainName := { s : String // isPlainName s.toList = true }

/-- An operator and the name after it. -/
structure Link where
  before : Blanks
  op : Connective
  after : Blanks
  name : PlainName

/-- Names with operators between them, with blanks around them. -/
structure Chain where
  before : Blanks
  first : PlainName
  links : List Link
  after : Blanks

namespace Link

def text (k : Link) : List Char := k.before.1 ++ (k.op.sign ++ (k.after.1 ++ k.name.1.toList))

def inorder (k : Link) : List (String ⊕ Connective) := [.inr k.op, .inl k.name.1]

def addTo (t : Tree) (k : Link) : Tree := t.push k.op k.name.1

end Link

namespace Chain

def text (c : Chain) : String :=
  .ofList (c.before.1 ++ (c.first.1.toList ++ (c.links.flatMap Link.text ++ c.after.1)))

/-- The names and operators from left to right. -/
def inorder (c : Chain) : List (String ⊕ Connective) := .inl c.first.1 :: c.links.flatMap Link.inorder

/-- The tree that the operators are added to one after the other. -/
def tree (c : Chain) : Tree := c.links.foldl Link.addTo (.leaf c.first.1)

end Chain

variable {cs : List Char} {op : Connective} {s : String}

private theorem words?_blanks (bs : Blanks) : words? (bs.1 ++ cs) = words? cs := by
  obtain ⟨bs, h⟩ := bs
  induction bs with
  | nil => rfl
  | cons b bs ih =>
    rw [List.forall_mem_cons] at h
    show words? (b :: (bs ++ cs)) = _
    rw [words?_blank _ h.1]
    exact ih h.2

/-- The next character would not go on with a sign. -/
private def Apart (cs : List Char) : Prop := ∀ c ∈ cs.head?, c ∉ ['=', '|']

private theorem first?_connective (h : Apart cs) : Token.first? (op.sign ++ cs) = some (op.kind, op.sign) := by
  have hlexeme : Token.IsLexeme op.kind op.sign := by
    cases op <;> exact .sign rfl
  refine Token.first?_eq_some_iff.2 ⟨cs, rfl, hlexeme, fun c hc => ?_⟩
  obtain ⟨heq, hor⟩ : c ≠ '=' ∧ c ≠ '|' := by simpa using h c hc
  cases op with
  | compare op => cases op <;> simp [Connective.kind, Token.Kind.goesOn, heq]
  | _ => simp [Connective.kind, Token.Kind.goesOn, hor]

/-- A sign starts with a character that is found neither between tokens nor in names. -/
private theorem exists_sign (op : Connective) :
    ∃ c l, op.sign = c :: l ∧ Token.isBlank c = false ∧ isNamePart c = false := by
  cases op with
  | compare op => cases op <;> exact ⟨_, _, rfl, rfl, rfl⟩
  | _ => exact ⟨_, _, rfl, rfl, rfl⟩

private theorem words?_sign (h : Apart cs) : words? (op.sign ++ cs) = (words? cs).map (mark op.kind :: ·) := by
  have hfirst : Token.first? (op.sign ++ cs) = some (op.kind, op.sign) := first?_connective h
  obtain ⟨c, l, hl, hb, -⟩ := exists_sign op
  have hmark : Word.of op.kind op.sign = mark op.kind := by
    cases op <;> rfl
  rw [hl] at hfirst
  rw [hl, List.cons_append, words?_cons hb, ← List.cons_append, hfirst, ← hl, Option.bind_some, List.drop_left, hmark]

/-- After blanks and a name there is nothing that would go on with a sign. -/
private theorem apart_name (bs : Blanks) (n : PlainName) : Apart (bs.1 ++ (n.1.toList ++ cs)) := by
  obtain ⟨bs, hbs⟩ := bs
  intro c hc hsign
  cases bs with
  | cons b bs =>
    obtain rfl : b = c := Option.some.inj hc
    have hb := hbs b List.mem_cons_self
    simp only [List.mem_cons, List.not_mem_nil, or_false] at hsign
    rcases hsign with rfl | rfl <;> cases hb
  | nil =>
    obtain ⟨n, hn⟩ := n
    cases hl : n.toList with
    | nil =>
      rw [hl] at hn
      cases hn
    | cons d l =>
      simp only [hl] at hn hc
      obtain rfl : d = c := Option.some.inj hc
      simp only [List.mem_cons, List.not_mem_nil, or_false] at hsign
      rcases hsign with rfl | rfl <;> cases hn

private theorem free_blanks (bs : Blanks) (h : Free cs) : Free (bs.1 ++ cs) := by
  obtain ⟨bs, hbs⟩ := bs
  cases bs with
  | nil => exact h
  | cons b bs =>
    intro c hc
    obtain rfl : b = c := Option.some.inj hc
    exact Token.goesOn_of_isBlank .name (hbs b List.mem_cons_self)

private theorem free_links (ks : List Link) (bs : Blanks) : Free (ks.flatMap Link.text ++ bs.1) := by
  cases ks with
  | nil =>
    have h : Free (bs.1 ++ []) := free_blanks bs fun c hc => by cases hc
    rwa [List.append_nil] at h
  | cons k ks =>
    obtain ⟨c, l, hl, -, hc⟩ := exists_sign k.op
    rw [List.flatMap_cons, List.append_assoc, Link.text, List.append_assoc, List.append_assoc, hl]
    refine free_blanks k.before fun d hd => ?_
    obtain rfl : c = d := Option.some.inj hd
    exact hc

private theorem words?_links (ks : List Link) (bs : Blanks) :
    words? (ks.flatMap Link.text ++ bs.1) = some ((ks.flatMap Link.inorder).map Tree.word) := by
  induction ks with
  | nil =>
    have h : words? (bs.1 ++ []) = words? [] := words?_blanks bs
    rwa [List.append_nil, words?_nil] at h
  | cons k ks ih =>
    rw [List.flatMap_cons, List.append_assoc, Link.text, List.append_assoc, List.append_assoc, List.append_assoc,
      words?_blanks, words?_sign (apart_name _ _), words?_blanks, words?_name k.name.2 (free_links ks bs), ih]
    rfl

/-- The words of a chain are those of its names and operators. -/
theorem Chain.words?_text (c : Chain) : words? c.text.toList = some (c.inorder.map Tree.word) := by
  rw [text, String.toList_ofList, words?_blanks, words?_name c.first.2 (free_links _ _), words?_links]
  rfl

private theorem inorder_foldl (ks : List Link) (t : Tree) :
    (ks.foldl Link.addTo t).inorder = t.inorder ++ ks.flatMap Link.inorder := by
  induction ks generalizing t with
  | nil => exact (List.append_nil _).symm
  | cons k ks ih =>
    rw [List.foldl_cons, ih, Link.addTo, Tree.inorder_push, List.flatMap_cons, List.append_assoc]
    rfl

private theorem isOrdered_foldl (ks : List Link) {t : Tree} (h : t.IsOrdered) : (ks.foldl Link.addTo t).IsOrdered := by
  induction ks generalizing t with
  | nil => exact h
  | cons k ks ih => exact ih h.push

theorem Chain.inorder_tree (c : Chain) : c.tree.inorder = c.inorder := inorder_foldl _ _

theorem Chain.isOrdered_tree (c : Chain) : c.tree.IsOrdered := isOrdered_foldl _ trivial

/-- A chain of names and operators is read as the expression of the one tree with these names and operators in order in
which each operator binds less than its right side and not more than its left side. -/
theorem Expr.ofText_chain (c : Chain) : ∃ t : Tree, t.inorder = c.inorder ∧ t.IsOrdered ∧
    (∀ u : Tree, u.inorder = c.inorder → u.IsOrdered → u = t) ∧ ofText c.text = .ok t.expr := by
  have hread : ∀ t : Tree, t.inorder = c.inorder → t.IsOrdered → ofText c.text = .ok t.expr := by
    intro t hin ho
    refine ofTextWith_ok_iff.2 ⟨c.inorder.map Tree.word, t.power, c.words?_text, ?_⟩
    rw [← hin]
    exact Tree.spells ho Tree.power_pos
  refine ⟨c.tree, c.inorder_tree, c.isOrdered_tree, fun u hin ho => ?_, hread _ c.inorder_tree c.isOrdered_tree⟩
  exact Tree.expr_inj (Except.ok.inj ((hread u hin ho).symm.trans (hread _ c.inorder_tree c.isOrdered_tree)))

end Signpost.Query
