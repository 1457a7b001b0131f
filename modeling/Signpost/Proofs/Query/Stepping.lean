import Signpost.Query.Parser

/-!
# Readers that count their steps

The readers of a query end because each leaves fewer tokens than it was given, which is part of what they return.  Here
they are written once more without that: as calls of one another and loops over a cursor, which go as deep as they are
allowed to and count a step for each call and for each turn of a loop (`Counted`).  A loop is given by what one turn of it
does.  The parts of a slice are an array of three, and to write another part ends the run.  A counting reader is in step
with a reader of queries (`InStep`) if it comes to the same without too many steps, or was not allowed to go deep enough.
-/

namespace Signpost.Query.Parser

/-- Why a run ends early. -/
inductive Stop where
  | mistake (e : SyntaxError)
  /-- A number for a part of a slice that there is not. -/
  | outOfRange (place : Nat)
  /-- A call or a turn deeper than allowed. -/
  | outOfDepth

/-- What a run comes to, and the number of its steps. -/
structure Counted (α : Type) where
  steps : Nat
  outcome : Except Stop α

namespace Counted

variable {α β σ : Type}

/-- The steps of both, the second only if the first gives something. -/
def bind (c : Counted α) (f : α → Counted β) : Counted β :=
  match c.outcome with
  | .ok a => ⟨c.steps + (f a).steps, (f a).outcome⟩
  | .error s => ⟨c.steps, .error s⟩

instance : Monad Counted where
  pure a := ⟨0, .ok a⟩
  bind := bind

theorem pure_bind (a : α) (f : α → Counted β) : pure a >>= f = f a := by
  show (⟨0 + (f a).steps, (f a).outcome⟩ : Counted β) = f a
  rw [Nat.zero_add]

theorem bind_assoc {γ : Type} (c : Counted α) (f : α → Counted β) (g : β → Counted γ) :
    c >>= f >>= g = c >>= fun a => f a >>= g := by
  show (c.bind f).bind g = c.bind fun a => (f a).bind g
  unfold bind
  cases c.outcome with
  | error s => rfl
  | ok a =>
    dsimp only
    cases (f a).outcome with
    | error s => rfl
    | ok b =>
      dsimp only
      rw [Nat.add_assoc]

/-- The same run with one step more. -/
def step (c : Counted α) : Counted α := ⟨c.steps + 1, c.outcome⟩

def halt (s : Stop) : Counted α := ⟨0, .error s⟩

def fail (e : SyntaxError) : Counted α := halt (.mistake e)

def ofExcept : Except SyntaxError α → Counted α
  | .ok a => pure a
  | .error e => fail e

/-- The same with another value and the cursor where it is. -/
def onValue (f : α → β) (c : Counted (α × List Token)) : Counted (β × List Token) :=
  ⟨c.steps, c.outcome.map fun x => (f x.1, x.2)⟩

/-- What a turn of a loop does: it ends the loop, or leaves it in another state. -/
inductive Turn (σ α : Type) where
  | done (a : α)
  | again (s : σ)

theorem onValue_bind {γ : Type} (f : α → β) (c : Counted (α × List Token)) (g : β × List Token → Counted γ) :
    c.onValue f >>= g = c >>= fun x => g (f x.1, x.2) := by
  obtain ⟨steps, outcome⟩ := c
  cases outcome <;> rfl

/-- Turn after turn from a state. -/
def loop (turn : σ → List Token → Counted (Turn σ α × List Token)) : Nat → σ → List Token → Counted (α × List Token)
  | 0, _, _ => halt .outOfDepth
  | depth + 1, s, ts => step do
    match ← turn s ts with
    | (.done a, rest) => return (a, rest)
    | (.again s, rest) => loop turn depth s rest

/-- The cursor behind a token of one kind. -/
def expect (stop : Nat) (k : Token.Kind) (ts : List Token) : Counted (List Token) :=
  ofExcept ((Parser.expect stop k ts).map (·.rest))

/-- A turn over a slice; a number is written to the part that it is for. -/
def sliceTurn (stop : Nat) (s : Vector (Option Int) 3 × Nat) (ts : List Token) :
    Counted (Turn (Vector (Option Int) 3 × Nat) (Vector (Option Int) 3) × List Token) :=
  match ts with
  | [] => fail (.ended stop)
  | t :: rest =>
    match t.kind with
    | .rbracket => return (.done s.1, rest)
    | .colon => if s.2 + 1 < 3 then return (.again (s.1, s.2 + 1), rest) else fail (.unexpected t)
    | .number => do
      let n ← ofExcept t.number
      if h : s.2 < 3 then return (.again (s.1.set s.2 (some n) h, s.2), rest) else halt (.outOfRange s.2)
    | _ => fail (.unexpected t)

section

/-! ### Readers, given one for expressions -/

variable (rule : Json.RealRule) (stop : Nat) (expr : Nat → List Token → Counted (Expr × List Token)) (depth : Nat)

/-- A turn over the items of a list. -/
def itemTurn (items : List Expr) (ts : List Token) : Counted (Turn (List Expr) (List Expr) × List Token) := do
  let (e, rest) ← expr 0 ts
  if nextIs .rbracket rest then return (.done (items ++ [e]), rest.tail)
  else
    let rest ← expect stop .comma rest
    return (.again (items ++ [e]), rest)

def listItems (ts : List Token) : Counted (List Expr × List Token) := step (loop (itemTurn stop expr) depth [] ts)

/-- The key of an entry. -/
def key (t : Token) : Except SyntaxError String :=
  match t.kind with
  | .name => .ok t.text
  | .quotedName => t.quotedText
  | _ => .error (.unexpected t)

/-- A turn over the entries of a hash. -/
def entryTurn (entries : List (String × Expr)) (ts : List Token) :
    Counted (Turn (List (String × Expr)) (List (String × Expr)) × List Token) :=
  match ts with
  | [] => fail (.ended stop)
  | t :: rest => do
    let key ← ofExcept (key t)
    let rest ← expect stop .colon rest
    let (e, rest) ← expr 0 rest
    if nextIs .rbrace rest then return (.done (entries ++ [(key, e)]), rest.tail)
    else
      let rest ← expect stop .comma rest
      return (.again (entries ++ [(key, e)]), rest)

def hashEntries (ts : List Token) : Counted (List (String × Expr) × List Token) :=
  step (loop (entryTurn stop expr) depth [] ts)

/-- A turn over the arguments of a call, which does not look whether there are any tokens left. -/
def argumentTurn (args : List Expr) (ts : List Token) : Counted (Turn (List Expr) (List Expr) × List Token) :=
  if nextIs .rparen ts then return (.done args, ts.tail)
  else do
    let (e, rest) ← expr 0 ts
    return (.again (args ++ [e]), if nextIs .comma rest then rest.tail else rest)

def member (limit : Nat) (ts : List Token) : Counted (Expr × List Token) :=
  step <| match ts with
  | [] => fail (.ended stop)
  | t :: rest =>
    match t.kind with
    | .quotedName | .name | .star => expr limit (t :: rest)
    | .lbracket => (listItems stop expr depth rest).onValue .list
    | .lbrace => (hashEntries stop expr depth rest).onValue .hash
    | _ => fail (.unexpected t)

def applied (limit : Nat) (ts : List Token) : Counted (Expr × List Token) :=
  step <| match ts with
  | [] => return (.current, [])
  | t :: rest =>
    if t.kind.power < projectionPower then return (.current, t :: rest)
    else if t.kind = .lbracket ∨ t.kind = .filter then expr limit (t :: rest)
    else if t.kind = .dot then member stop expr depth limit rest
    else fail (.unexpected t)

def filtered (left : Expr) (ts : List Token) : Counted (Expr × List Token) := step do
  let (condition, rest) ← expr 0 ts
  let rest ← expect stop .rbracket rest
  if nextIs .flatten rest then return (.filter left .current condition, rest)
  else (applied stop expr depth Token.Kind.filter.power rest).onValue (.filter left · condition)

def indexed (left : Expr) (ts : List Token) : Counted (Expr × List Token) :=
  step <| match ts with
  | [] => fail (.ended stop)
  | t :: rest =>
    if t.kind = .colon ∨ nextIs .colon rest then do
      let (parts, rest) ← loop (sliceTurn stop) depth (#v[none, none, none], 0) (t :: rest)
      (applied stop expr depth Token.Kind.star.power rest).onValue
        (.project (.slice left parts[0] parts[1] parts[2]))
    else do
      let n ← ofExcept t.number
      let rest ← expect stop .rbracket rest
      return (.index left n, rest)

def operand (t : Token) (ts : List Token) : Counted (Expr × List Token) :=
  step <| match t.kind with
  | .json => do
    let l ← ofExcept (t.literal rule)
    return (.literal l, ts)
  | .raw => return (.literal (.string t.rawText), ts)
  | .name => return (.field t.text, ts)
  | .quotedName =>
    if nextIs .lparen ts then fail (.quotedCall t.offset)
    else do
      let name ← ofExcept t.quotedText
      return (.field name, ts)
  | .star =>
    if nextIs .rbracket ts then return (.projectValues .current .current, ts)
    else (applied stop expr depth Token.Kind.star.power ts).onValue (.projectValues .current)
  | .filter => filtered stop expr depth .current ts
  | .lbrace => (hashEntries stop expr depth ts).onValue .hash
  | .lparen => do
    let (e, rest) ← expr 0 ts
    let rest ← expect stop .rparen rest
    return (e, rest)
  | .flatten => (applied stop expr depth Token.Kind.flatten.power ts).onValue (.project (.flatten .current))
  | .not => (expr Token.Kind.not.power ts).onValue .not
  | .lbracket =>
    match ts with
    | [] => (listItems stop expr depth []).onValue .list
    | u :: rest =>
      match u.kind with
      | .number | .colon => indexed stop expr depth .current (u :: rest)
      | .star =>
        if nextIs .rbracket rest then
          (applied stop expr depth Token.Kind.star.power rest.tail).onValue (.project .current)
        else (listItems stop expr depth (u :: rest)).onValue .list
      | _ => (listItems stop expr depth (u :: rest)).onValue .list
  | .current => return (.current, ts)
  | .reference => (expr Token.Kind.reference.power ts).onValue .reference
  | _ => fail (.unexpected t)

def operator (t : Token) (left : Expr) (ts : List Token) : Counted (Expr × List Token) :=
  step <| match t.kind with
  | .compare op => (expr (Token.Kind.compare op).power ts).onValue (.compare op left)
  | .dot =>
    if nextIs .star ts then (applied stop expr depth Token.Kind.dot.power ts.tail).onValue (.projectValues left)
    else (member stop expr depth Token.Kind.dot.power ts).onValue (.sub left)
  | .pipe => (expr Token.Kind.pipe.power ts).onValue (.pipe left)
  | .or => (expr Token.Kind.or.power ts).onValue (.or left)
  | .and => (expr Token.Kind.and.power ts).onValue (.and left)
  | .lparen =>
    match left with
    | .field name => (loop (argumentTurn expr) depth [] ts).onValue (.call name)
    | callee => fail (.notCallable callee t.offset)
  | .filter => filtered stop expr depth left ts
  | .flatten => (applied stop expr depth Token.Kind.flatten.power ts).onValue (.project (.flatten left))
  | .lbracket =>
    if nextIs .number ts ∨ nextIs .colon ts then indexed stop expr depth left ts
    else do
      let rest ← expect stop .star ts
      let rest ← expect stop .rbracket rest
      (applied stop expr depth Token.Kind.star.power rest).onValue (.project left)
  | _ => fail (.unexpected t)

/-- A turn over the operators that bind more than `limit`. -/
def operatorTurn (limit : Nat) (left : Expr) (ts : List Token) : Counted (Turn Expr Expr × List Token) :=
  match ts with
  | [] => return (.done left, [])
  | t :: rest =>
    if limit < t.kind.power then (operator stop expr depth t left rest).onValue .again
    else return (.done left, t :: rest)

end

/-- An expression, with calls and turns that go at most so deep. -/
def expression (rule : Json.RealRule) (stop : Nat) : Nat → Nat → List Token → Counted (Expr × List Token)
  | 0, _, _ => halt .outOfDepth
  | depth + 1, limit, ts =>
    step <| match ts with
    | [] => fail (.ended stop)
    | t :: rest => do
      let (left, rest) ← operand rule stop (expression rule stop depth) depth t rest
      loop (operatorTurn stop (expression rule stop depth) depth limit) depth left rest

/-- A query that takes all the tokens. -/
def all (rule : Json.RealRule) (stop depth : Nat) (ts : List Token) : Counted Expr := step do
  let (e, rest) ← expression rule stop depth 0 ts
  match rest with
  | [] => return e
  | t :: _ => fail (.unexpected t)

/-! ### Runs beside readers -/

/-- A counting run beside a reader of queries that is given `n` tokens: it comes to the same, or goes deeper than it may,
if `deep` holds.  It takes at most five steps for each token that is read and `k` more, and if it fails, at most five for
each token that there is and `k'` more. -/
inductive InStep {β : Type} (f : β → α) (deep : Prop) (n : Nat) (k k' : Int) {m : Nat} :
    Counted (α × List Token) → Result β m → Prop
  | ok {steps : Nat} {b : β} {rest : List Token} {h : rest.length < m}
      (hsteps : (steps + 5 * rest.length : Int) ≤ 5 * n + k) :
      InStep f deep n k k' ⟨steps, .ok (f b, rest)⟩ (.ok ⟨b, rest, h⟩)
  | mistake {steps : Nat} {e : SyntaxError} (hsteps : (steps : Int) ≤ 5 * n + k') :
      InStep f deep n k k' ⟨steps, .error (.mistake e)⟩ (.error e)
  | outOfDepth {steps : Nat} {x : Result β m} (hdeep : deep) (hsteps : (steps : Int) ≤ 5 * n + k') :
      InStep f deep n k k' ⟨steps, .error .outOfDepth⟩ x

namespace InStep

variable {γ δ ε : Type} {f : β → α} {g : γ → δ} {deep deep' : Prop} {m m' n stop : Nat} {k k' l l' : Int}
  {c : Counted (α × List Token)} {x : Result β m} {ts : List Token}

/-- The same with larger bounds, perhaps from more tokens on. -/
theorem mono {r : Nat} (h : InStep f deep r k k' c x) (hk : (5 * r + k : Int) ≤ 5 * n + l)
    (hk' : (5 * r + k' : Int) ≤ 5 * n + l') : InStep f deep n l l' c x := by
  cases h with
  | ok hsteps => exact .ok (by omega)
  | mistake hsteps => exact .mistake (by omega)
  | outOfDepth h hsteps => exact .outOfDepth h (by omega)

theorem deeper (h : InStep f deep n k k' c x) (hdeep : deep → deep') : InStep f deep' n k k' c x := by
  cases h with
  | ok hsteps => exact .ok hsteps
  | mistake hsteps => exact .mistake hsteps
  | outOfDepth h hsteps => exact .outOfDepth (hdeep h) hsteps

/-- Steps that were taken before, down to so many tokens. -/
theorem after {steps r : Nat} (h : InStep f deep r (l - k) (l' - k) c x) (hsteps : (steps + 5 * r : Int) ≤ 5 * n + k) :
    InStep f deep n l l' ⟨steps + c.steps, c.outcome⟩ x := by
  cases h with
  | @ok s b rest _ h =>
    have hsum : ((steps + s : Nat) + 5 * rest.length : Int) ≤ 5 * n + l := by omega
    exact .ok hsum
  | @mistake s e h =>
    have hsum : ((steps + s : Nat) : Int) ≤ 5 * n + l' := by omega
    exact .mistake hsum
  | @outOfDepth s _ hdeep h =>
    have hsum : ((steps + s : Nat) : Int) ≤ 5 * n + l' := by omega
    exact .outOfDepth hdeep hsum

protected theorem step (h : InStep f deep n (k - 1) (k' - 1) c x) : InStep f deep n k k' c.step x := by
  have hafter : InStep f deep n k k' ⟨1 + c.steps, c.outcome⟩ x := after (k := 1) h (by omega)
  rwa [Nat.add_comm] at hafter

protected theorem bind {F : α × List Token → Counted (δ × List Token)} {G : Parsed β m → Result γ m'}
    (h : InStep f deep n k k' c x) (hk : k' ≤ l')
    (hF : ∀ b rest h, InStep g deep rest.length (l - k) (l' - k) (F (f b, rest)) (G ⟨b, rest, h⟩)) :
    InStep g deep n l l' (c >>= F) (x >>= G) := by
  cases h with
  | ok hsteps => exact (hF _ _ _).after hsteps
  | @mistake steps e hsteps =>
    have hle : (steps : Int) ≤ 5 * n + l' := by omega
    exact .mistake hle
  | @outOfDepth steps _ hdeep hsteps =>
    have hle : (steps : Int) ≤ 5 * n + l' := by omega
    exact .outOfDepth hdeep hle

/-- Nothing was done so far. -/
protected theorem pure {b : β} {rest : List Token} {h : rest.length < m} (hk : (5 * rest.length : Int) ≤ 5 * n + k) :
    InStep f deep n k k' (pure (f b, rest)) (.ok ⟨b, rest, h⟩) := by
  have hnone : ((0 : Nat) + 5 * rest.length : Int) ≤ 5 * n + k := by omega
  exact .ok hnone

protected theorem fail {e : SyntaxError} (hk : 0 ≤ 5 * n + k') :
    InStep f deep n k k' (fail e) (.error e : Result β m) := .mistake hk

protected theorem ofExcept {y : Except SyntaxError ε} {F : ε → Counted (α × List Token)} {G : ε → Result β m}
    (hk : 0 ≤ 5 * n + k') (hF : ∀ a, InStep f deep n k k' (F a) (G a)) :
    InStep f deep n k k' (ofExcept y >>= F) (y >>= G) := by
  cases y with
  | error e => exact .mistake hk
  | ok a =>
    rw [Counted.ofExcept, pure_bind]
    exact hF a

/-- Going on behind a token of one kind, for which there are five steps more. -/
protected theorem expect {kind : Token.Kind} {F : List Token → Counted (α × List Token)}
    {G : Parsed Token ts.length → Result β m} (hk : 0 ≤ 5 * n + k')
    (hF : ∀ t rest h, InStep f deep rest.length (5 * (n - ts.length + 1) + k) (5 * (n - ts.length + 1) + k') (F rest)
      (G ⟨t, rest, h⟩)) :
    InStep f deep n k k' (expect stop kind ts >>= F) (Parser.expect stop kind ts >>= G) := by
  cases ts with
  | nil => exact .fail hk
  | cons t rest =>
    rw [expect, Parser.expect]
    by_cases hkind : t.kind = kind
    · rw [if_pos hkind]
      have hlen : ((t :: rest).length : Int) = rest.length + 1 := by simp
      show InStep f deep _ k k' (pure rest >>= F) _
      rw [pure_bind]
      exact (hF t rest (Nat.lt_succ_self _)).mono (by omega) (by omega)
    · rw [if_neg hkind]
      exact .fail hk

/-- The same value made of what is read by both. -/
theorem onValue {e : β → γ} {c : Counted (β × List Token)} {G : Parsed β m → Result γ m'}
    (h : InStep id deep n k k' c x) (hG : ∀ b rest h, ∃ h', G ⟨b, rest, h⟩ = .ok ⟨e b, rest, h'⟩) :
    InStep id deep n k k' (c.onValue e) (x >>= G) := by
  cases h with
  | @ok steps b rest hlt hsteps =>
    obtain ⟨hlt', heq⟩ := hG b rest hlt
    show InStep id deep n k k' _ (G ⟨b, rest, hlt⟩)
    rw [heq]
    exact .ok hsteps
  | mistake hsteps => exact .mistake hsteps
  | outOfDepth hdeep hsteps => exact .outOfDepth hdeep hsteps

/-- The same beside a reader that makes more of what it reads. -/
theorem through {f' : γ → α} {e : β → γ} {G : Parsed β m → Result γ m'} (h : InStep f deep n k k' c x)
    (hf : ∀ b, f b = f' (e b)) (hG : ∀ b rest h, ∃ h', G ⟨b, rest, h⟩ = .ok ⟨e b, rest, h'⟩) :
    InStep f' deep n k k' c (x >>= G) := by
  cases h with
  | @ok steps b rest hlt hsteps =>
    obtain ⟨hlt', heq⟩ := hG b rest hlt
    show InStep f' deep n k k' _ (G ⟨b, rest, hlt⟩)
    rw [heq, hf b]
    exact .ok hsteps
  | mistake hsteps => exact .mistake hsteps
  | outOfDepth hdeep hsteps => exact .outOfDepth hdeep hsteps

theorem weaken {G : Parsed β m → Result β m'} (h : InStep f deep n k k' c x)
    (hG : ∀ b rest h, ∃ h', G ⟨b, rest, h⟩ = .ok ⟨b, rest, h'⟩) : InStep f deep n k k' c (x >>= G) :=
  h.through (fun _ => rfl) hG

/-- The same beside a reader whose result is only seen from more tokens. -/
theorem mapped {hm : m ≤ m'} (h : InStep f deep n k k' c x) : InStep f deep n k k' c (x.map (·.weaken hm)) := by
  cases h with
  | ok hsteps => exact .ok hsteps
  | mistake hsteps => exact .mistake hsteps
  | outOfDepth hdeep hsteps => exact .outOfDepth hdeep hsteps

protected theorem ite {p q : Prop} [Decidable p] [Decidable q] {c' : Counted (α × List Token)} {x' : Result β m}
    (hpq : p ↔ q) (h : q → InStep f deep n k k' c x) (h' : ¬ q → InStep f deep n k k' c' x') :
    InStep f deep n k k' (if p then c else c') (if q then x else x') := by
  by_cases hq : q
  · rw [if_pos hq, if_pos (hpq.2 hq)]
    exact h hq
  · rw [if_neg hq, if_neg (mt hpq.1 hq)]
    exact h' hq

end InStep

theorem expect_cons (stop : Nat) (k : Token.Kind) (t : Token) (ts : List Token) :
    expect stop k (t :: ts) = if t.kind = k then pure ts else fail (.unexpected t) := by
  rw [expect, Parser.expect]
  split <;> rfl

theorem nextIs_cons {k : Token.Kind} {t : Token} {ts : List Token} : nextIs k (t :: ts) = true ↔ t.kind = k :=
  beq_iff_eq

end Counted

end Signpost.Query.Parser
