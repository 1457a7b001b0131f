import Signpost.Query.Leaf

/-!
# Reading queries

An operator precedence parser over the tokens of a query. `expression` reads an operand and then every
operator that binds more than a limit (`operators`); what follows a projection is read by `applied`.
Each reader returns what is left of the tokens together with the proof that this is shorter, so that
the recursion ends.
-/

namespace Signpost.Query

/-- How strongly an operator binds what stands before it; nothing else binds at all. -/
def Token.Kind.power : Token.Kind → Nat
  | pipe => 1
  | or => 2
  | and => 3
  | compare _ => 5
  | flatten => 9
  | star => 20
  | filter => 21
  | dot => 40
  | not => 45
  | lbrace => 50
  | lbracket => 55
  | lparen => 60
  | _ => 0

namespace Parser

/-- The power from which a token goes on with a projection. -/
def projectionPower : Nat := 10

/-- The power of the next token, none at the end. -/
def nextPower : List Token → Nat
  | [] => 0
  | t :: _ => t.kind.power

/-- Whether the next token is of this kind. -/
def nextIs (k : Token.Kind) : List Token → Bool
  | [] => false
  | t :: _ => t.kind == k

/-- Something read from fewer than `bound` tokens, and the tokens that are left. -/
structure Parsed (α : Type) (bound : Nat) where
  value : α
  rest : List Token
  shorter : rest.length < bound

/-- The same, seen from more tokens. -/
def Parsed.weaken {α : Type} {m n : Nat} (h : m ≤ n) (p : Parsed α m) : Parsed α n :=
  ⟨p.value, p.rest, Nat.lt_of_lt_of_le p.shorter h⟩

/-- The same tokens, with another value. -/
def Parsed.map {α β : Type} {n : Nat} (f : α → β) (p : Parsed α n) : Parsed β n :=
  ⟨f p.value, p.rest, p.shorter⟩

/-- Either a mistake or something read. -/
abbrev Result (α : Type) (bound : Nat) := Except SyntaxError (Parsed α bound)

/-- The mistake that the next token is: one that must not stand here, or the end of the text. -/
def unexpected (stop : Nat) : List Token → SyntaxError
  | [] => .ended stop
  | t :: _ => .unexpected t

/-- A token of one kind. -/
def expect (stop : Nat) (k : Token.Kind) (ts : List Token) : Result Token ts.length :=
  match ts with
  | [] => .error (unexpected stop [])
  | t :: rest => if t.kind = k then .ok ⟨t, rest, by simp⟩ else .error (.unexpected t)

/-- The bounds of a slice, and the place whose number comes next. -/
structure Bounds where
  start : Option Int
  stop : Option Int
  step : Option Int
  place : Nat

/-- The bounds with a number in its place. -/
def Bounds.put (b : Bounds) (n : Int) : Bounds :=
  match b.place with
  | 0 => { b with start := some n }
  | 1 => { b with stop := some n }
  | _ => { b with step := some n }

/-- The bounds of a slice up to and with the closing bracket. A number in a place that has one takes
its place. -/
def bounds (stop : Nat) (b : Bounds) (ts : List Token) : Result Bounds ts.length :=
  match ts with
  | [] => .error (unexpected stop [])
  | t :: rest =>
    match t.kind with
    | .rbracket => .ok ⟨b, rest, by simp⟩
    | .colon =>
      if b.place < 2 then
        (bounds stop { b with place := b.place + 1 } rest).map (·.weaken (by simp))
      else .error (.unexpected t)
    | .number =>
      match t.number with
      | .error e => .error e
      | .ok n => (bounds stop (b.put n) rest).map (·.weaken (by simp))
    | _ => .error (.unexpected t)

variable (rule : Json.RealRule) (stop : Nat)

mutual

/-- An operand and the operators after it that bind more than `limit`. -/
def expression (limit : Nat) (ts : List Token) : Result Expr ts.length :=
  match ts with
  | [] => .error (.ended stop)
  | t :: rest => do
    let ⟨left, rest₁, h₁⟩ ← operand t rest
    let ⟨e, rest₂, h₂⟩ ← operators limit left rest₁
    return ⟨e, rest₂, by simp; omega⟩
  termination_by (ts.length, 0)
  decreasing_by all_goals simp_wf; omega

/-- The operators that bind more than `limit`, applied to what stands before them. -/
def operators (limit : Nat) (left : Expr) (ts : List Token) : Result Expr (ts.length + 1) :=
  match ts with
  | [] => .ok ⟨left, [], by simp⟩
  | t :: rest =>
    if limit < t.kind.power then do
      let ⟨left, rest₁, h₁⟩ ← operator t left rest
      let ⟨e, rest₂, h₂⟩ ← operators limit left rest₁
      return ⟨e, rest₂, by simp; omega⟩
    else .ok ⟨left, t :: rest, by simp⟩
  termination_by (ts.length, 0)
  decreasing_by all_goals simp_wf; omega

/-- What starts with the token `t`. -/
def operand (t : Token) (ts : List Token) : Result Expr (ts.length + 1) :=
  match t.kind with
  | .json => t.literal rule |>.map fun l => ⟨.literal l, ts, by simp⟩
  | .raw => .ok ⟨.literal (.string t.rawText), ts, by simp⟩
  | .name => .ok ⟨.field t.text, ts, by simp⟩
  | .quotedName =>
    if nextIs .lparen ts then .error (.quotedCall t.offset)
    else t.quotedText.map fun name => ⟨.field name, ts, by simp⟩
  | .star =>
    if nextIs .rbracket ts then .ok ⟨.projectValues .current .current, ts, by simp⟩
    else do
      let p ← applied Token.Kind.star.power ts
      return p.map (.projectValues .current)
  | .filter => do
    let p ← filtered .current ts
    return p.weaken (by simp)
  | .lbrace => do
    let p ← hashEntries ts
    return (p.map .hash).weaken (by simp)
  | .lparen => do
    let ⟨e, rest, h⟩ ← expression 0 ts
    let ⟨_, rest, h'⟩ ← expect stop .rparen rest
    return ⟨e, rest, by omega⟩
  | .flatten => do
    let p ← applied Token.Kind.flatten.power ts
    return p.map (.project (.flatten .current))
  | .not => do
    let p ← expression Token.Kind.not.power ts
    return (p.map .not).weaken (by simp)
  | .lbracket =>
    match ts with
    | [] => .error (.ended stop)
    | u :: rest =>
      match u.kind with
      | .number => do
        let p ← indexed .current (u :: rest)
        return p.weaken (by simp)
      | .colon => do
        let p ← indexed .current (u :: rest)
        return p.weaken (by simp)
      | .star =>
        match rest with
        | v :: rest' =>
          if v.kind = .rbracket then do
            let p ← applied Token.Kind.star.power rest'
            return (p.map (.project .current)).weaken (by simp)
          else do
            let p ← listItems (u :: v :: rest')
            return (p.map .list).weaken (by simp)
        | [] => do
          let p ← listItems [u]
          return (p.map .list).weaken (by simp)
      | _ => do
        let p ← listItems (u :: rest)
        return (p.map .list).weaken (by simp)
  | .current => .ok ⟨.current, ts, by simp⟩
  | .reference => do
    let p ← expression Token.Kind.reference.power ts
    return (p.map .reference).weaken (by simp)
  | _ => .error (.unexpected t)
  termination_by (ts.length, 3)
  decreasing_by all_goals simp_wf; try omega

/-- What the operator `t` makes of what stands before it. -/
def operator (t : Token) (left : Expr) (ts : List Token) : Result Expr (ts.length + 1) :=
  match t.kind with
  | .compare op => do
    let p ← expression (Token.Kind.compare op).power ts
    return (p.map (.compare op left)).weaken (by simp)
  | .dot =>
    match ts with
    | [] => .error (.ended stop)
    | u :: rest =>
      if u.kind = .star then do
        let p ← applied Token.Kind.dot.power rest
        return (p.map (.projectValues left)).weaken (by simp)
      else do
        let p ← member Token.Kind.dot.power (u :: rest)
        return (p.map (.sub left)).weaken (by simp)
  | .pipe => do
    let p ← expression Token.Kind.pipe.power ts
    return (p.map (.pipe left)).weaken (by simp)
  | .or => do
    let p ← expression Token.Kind.or.power ts
    return (p.map (.or left)).weaken (by simp)
  | .and => do
    let p ← expression Token.Kind.and.power ts
    return (p.map (.and left)).weaken (by simp)
  | .lparen =>
    match left with
    | .field name => do
      let p ← arguments ts
      return (p.map (.call name)).weaken (by simp)
    | callee => .error (.notCallable callee t.offset)
  | .filter => do
    let p ← filtered left ts
    return p.weaken (by simp)
  | .flatten => do
    let p ← applied Token.Kind.flatten.power ts
    return p.map (.project (.flatten left))
  | .lbracket =>
    match ts with
    | [] => .error (.ended stop)
    | u :: rest =>
      match u.kind with
      | .number => do
        let p ← indexed left (u :: rest)
        return p.weaken (by simp)
      | .colon => do
        let p ← indexed left (u :: rest)
        return p.weaken (by simp)
      | .star => do
        let ⟨_, rest', h⟩ ← expect stop .rbracket rest
        let ⟨right, rest'', h'⟩ ← applied Token.Kind.star.power rest'
        return ⟨.project left right, rest'', by simp; omega⟩
      | _ => .error (.unexpected u)
  | _ => .error (.unexpected t)
  termination_by (ts.length, 3)
  decreasing_by all_goals simp_wf; try omega

/-- The condition of a filter, after its bracket, and what is applied to each element that meets it. -/
def filtered (left : Expr) (ts : List Token) : Result Expr ts.length := do
  let ⟨condition, rest₁, h₁⟩ ← expression 0 ts
  let ⟨_, rest₂, h₂⟩ ← expect stop .rbracket rest₁
  if nextIs .flatten rest₂ then return ⟨.filter left .current condition, rest₂, by omega⟩
  else
    let ⟨right, rest₃, h₃⟩ ← applied Token.Kind.filter.power rest₂
    return ⟨.filter left right condition, rest₃, by omega⟩
  termination_by (ts.length, 2)
  decreasing_by all_goals try omega

/-- An index or a slice, after its bracket. -/
def indexed (left : Expr) (ts : List Token) : Result Expr ts.length :=
  match ts with
  | [] => .error (.ended stop)
  | t :: rest =>
    if t.kind = .colon ∨ nextIs .colon rest then do
      let ⟨b, rest₁, h₁⟩ ← bounds stop ⟨none, none, none, 0⟩ (t :: rest)
      let ⟨right, rest₂, h₂⟩ ← applied Token.Kind.star.power rest₁
      return ⟨.project (.slice left b.start b.stop b.step) right, rest₂, by simp at h₁ ⊢; omega⟩
    else do
      let n ← t.number
      let ⟨_, rest₁, h₁⟩ ← expect stop .rbracket rest
      return ⟨.index left n, rest₁, by simp; omega⟩
  termination_by (ts.length, 2)
  decreasing_by all_goals simp_wf; simp at h₁; try omega

/-- What is applied to each element of a projection, up to operators that bind no more than `limit`. -/
def applied (limit : Nat) (ts : List Token) : Result Expr (ts.length + 1) :=
  match ts with
  | [] => .ok ⟨.current, [], by simp⟩
  | t :: rest =>
    if t.kind.power < projectionPower then .ok ⟨.current, t :: rest, by simp⟩
    else if t.kind = .lbracket ∨ t.kind = .filter then do
      let p ← expression limit (t :: rest)
      return p.weaken (by simp)
    else if t.kind = .dot then do
      let p ← member limit rest
      return p.weaken (by simp; omega)
    else .error (.unexpected t)
  termination_by (ts.length, 1)
  decreasing_by all_goals simp_wf; try omega

/-- What follows a dot. -/
def member (limit : Nat) (ts : List Token) : Result Expr ts.length :=
  match ts with
  | [] => .error (.ended stop)
  | t :: rest =>
    match t.kind with
    | .quotedName => expression limit (t :: rest)
    | .name => expression limit (t :: rest)
    | .star => expression limit (t :: rest)
    | .lbracket => do
      let p ← listItems rest
      return (p.map .list).weaken (by simp)
    | .lbrace => do
      let p ← hashEntries rest
      return (p.map .hash).weaken (by simp)
    | _ => .error (.unexpected t)
  termination_by (ts.length, 1)
  decreasing_by all_goals simp_wf; try omega

/-- The items of a list, after its bracket. -/
def listItems (ts : List Token) : Result (List Expr) ts.length := do
  let ⟨e, rest₁, h₁⟩ ← expression 0 ts
  match rest₁, h₁ with
  | [], _ => .error (.ended stop)
  | t :: rest₂, h₁ =>
    if t.kind = .rbracket then return ⟨[e], rest₂, by simp at h₁; omega⟩
    else if t.kind = .comma then
      let p ← listItems rest₂
      return (p.map (e :: ·)).weaken (by simp at h₁; omega)
    else .error (.unexpected t)
  termination_by (ts.length, 1)
  decreasing_by
    all_goals try simp at h₁
    all_goals omega

/-- The entries of a hash, after its brace. -/
def hashEntries (ts : List Token) : Result (List (String × Expr)) ts.length :=
  match ts with
  | [] => .error (.ended stop)
  | t :: rest => do
    let key ← match t.kind with
      | .name => Except.ok t.text
      | .quotedName => t.quotedText
      | _ => .error (.unexpected t)
    let ⟨_, rest₁, h₁⟩ ← expect stop .colon rest
    let ⟨e, rest₂, h₂⟩ ← expression 0 rest₁
    match rest₂, h₂ with
    | [], _ => .error (.ended stop)
    | u :: rest₃, h₂ =>
      if u.kind = .rbrace then return ⟨[(key, e)], rest₃, by simp at h₂ ⊢; omega⟩
      else if u.kind = .comma then
        let p ← hashEntries rest₃
        return (p.map ((key, e) :: ·)).weaken (by simp at h₂ ⊢; omega)
      else .error (.unexpected u)
  termination_by (ts.length, 1)
  decreasing_by all_goals simp_wf; all_goals (try simp at h₂); all_goals omega

/-- The arguments of a call up to and with the closing parenthesis. Commas between them may be left
out. -/
def arguments (ts : List Token) : Result (List Expr) ts.length :=
  match ts with
  | [] => .error (.ended stop)
  | t :: rest =>
    if t.kind = .rparen then .ok ⟨[], rest, by simp⟩
    else do
      let ⟨e, rest₁, h₁⟩ ← expression 0 (t :: rest)
      match rest₁, h₁ with
      | [], _ => .error (.ended stop)
      | u :: rest₂, h₁ =>
        if u.kind = .comma then
          let p ← arguments rest₂
          return (p.map (e :: ·)).weaken (by simp at h₁ ⊢; omega)
        else
          let p ← arguments (u :: rest₂)
          return (p.map (e :: ·)).weaken (by simp at h₁ ⊢; omega)
  termination_by (ts.length, 1)
  decreasing_by all_goals simp_wf; all_goals (try simp at h₁); all_goals omega

end

/-- A query that takes all the tokens. -/
def all (ts : List Token) : Except SyntaxError Expr := do
  let p ← expression rule stop 0 ts
  match p.rest with
  | [] => return p.value
  | t :: _ => .error (.unexpected t)

end Parser

/-- Reads a query, with a rule for the floating point numbers in it. -/
def Expr.ofTextWith (rule : Json.RealRule) (text : String) : Except SyntaxError Expr :=
  match Token.scan text.toList with
  | .error offset => .error (.noToken offset)
  | .ok ts => Parser.all rule (byteLength text.toList) ts

/-- Reads a query. -/
def Expr.ofText (text : String) : Except SyntaxError Expr := ofTextWith .scaled text

end Signpost.Query
