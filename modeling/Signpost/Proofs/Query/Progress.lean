import Signpost.Proofs.Query.Reading
import Signpost.Proofs.Query.Stepping

/-!
# Reading makes progress

The counting readers are in step with the readers of queries: each takes at most five steps for each token that it reads
(`inStep_expression`), because an expression takes one step less than that, which pays for the turn of a loop that reads
it.  Every turn of a loop reads something (`Progresses`), so that neither loops nor calls go on without an end, whatever
the tokens are (`reading_progresses`).
-/

namespace Signpost.Query.Parser

namespace Counted

variable {α β σ : Type}

/-! ### Loops

Each is settled from the expressions that it reads, by induction on how deep it may go.
-/

section

variable {rule : Json.RealRule} {stop n depth limit : Nat} {expr : Nat → List Token → Counted (Expr × List Token)}
  {deep : Prop} {ts : List Token} {left : Expr} {t : Token}

/-- Expressions of at most `n` tokens are read in step. -/
def ReadsInStep (rule : Json.RealRule) (stop : Nat) (expr : Nat → List Token → Counted (Expr × List Token))
    (deep : Prop) (n : Nat) : Prop :=
  ∀ ⦃limit ts⦄, ts.length ≤ n →
    InStep id deep ts.length (-1) 1 (expr limit ts) (Parser.expression rule stop limit ts)

theorem place_put (b : Bounds) (i : Int) : (b.put i).place = b.place := by
  unfold Bounds.put
  split <;> rfl

/-- The bounds of a slice as an array of its parts. -/
def parts (b : Bounds) : Vector (Option Int) 3 := #v[b.start, b.stop, b.step]

theorem parts_put (b : Bounds) (i : Int) (hb : b.place < 3) : parts (b.put i) = (parts b).set b.place (some i) hb := by
  obtain ⟨start, stop, step, place⟩ := b
  have hplace : place = 0 ∨ place = 1 ∨ place = 2 := by
    dsimp only at hb
    omega
  rcases hplace with rfl | rfl | rfl <;> rfl

theorem inStep_slice {b : Bounds} (hb : b.place < 3) (hdepth : depth ≤ ts.length → deep) :
    InStep parts deep ts.length (-4) 1 (loop (sliceTurn stop) depth (parts b, b.place) ts) (bounds stop b ts) := by
  induction depth generalizing b ts with
  | zero => exact .outOfDepth (hdepth (Nat.zero_le _)) (by omega)
  | succ depth ihd =>
    rw [loop]
    refine .step ?_
    cases ts with
    | nil => exact .fail (by simp)
    | cons t ts =>
      have hlen : ((t :: ts).length : Int) = ts.length + 1 := by simp
      have hrec (b : Bounds) (hb : b.place < 3) :
          InStep parts deep ts.length (-4) 1 (loop (sliceTurn stop) depth (parts b, b.place) ts) (bounds stop b ts) :=
        ihd hb fun h => hdepth (by simpa using h)
      rw [sliceTurn, bounds]
      cases t.kind
      case rbracket => exact .pure (by omega)
      case colon =>
        dsimp only
        by_cases hnext : b.place + 1 < 3
        · rw [if_pos hnext, if_pos (Nat.lt_of_succ_lt_succ hnext), pure_bind]
          exact (hrec { b with place := b.place + 1 } hnext).mapped.mono (by omega) (by omega)
        · rw [if_neg hnext, if_neg (mt Nat.succ_lt_succ hnext)]
          exact .fail (by omega)
      case number =>
        dsimp only
        cases t.number with
        | error e => exact .fail (by omega)
        | ok i =>
          rw [ofExcept, pure_bind, dif_pos hb, pure_bind]
          have hrest := hrec (b.put i) (by rwa [place_put])
          rw [place_put, parts_put b i hb] at hrest
          exact hrest.mapped.mono (by omega) (by omega)
      all_goals exact .fail (by omega)

theorem inStep_items (ih : ReadsInStep rule stop expr deep n) (items : List Expr) (hts : ts.length ≤ n)
    (hdepth : depth ≤ ts.length → deep) :
    InStep (items ++ ·) deep ts.length (-5) 2 (loop (itemTurn stop expr) depth items ts)
      (Parser.listItems rule stop ts) := by
  induction depth generalizing items ts with
  | zero => exact .outOfDepth (hdepth (Nat.zero_le _)) (by omega)
  | succ depth ihd =>
    rw [loop, Parser.listItems, itemTurn, bind_assoc]
    refine .step (.bind (ih hts) (by omega) fun e rest hlt => ?_)
    cases rest with
    | nil => exact .fail (by simp)
    | cons t rest =>
      have hlen : ((t :: rest).length : Int) = rest.length + 1 := by simp
      dsimp only
      by_cases hbracket : t.kind = .rbracket
      · rw [if_pos (nextIs_cons.2 hbracket), if_pos hbracket, pure_bind]
        exact .pure (by simp; omega)
      rw [if_neg (mt nextIs_cons.1 hbracket), if_neg hbracket, expect_cons]
      by_cases hcomma : t.kind = .comma
      · rw [if_pos hcomma, if_pos hcomma, pure_bind, pure_bind]
        rw [List.length_cons] at hlt
        have hle : rest.length ≤ n := by omega
        have hrest := ihd (items ++ [e]) hle fun h => hdepth (by omega)
        exact (hrest.mono (by omega) (by omega)).through (by simp) fun _ _ _ => ⟨_, rfl⟩
      · rw [if_neg hcomma, if_neg hcomma]
        exact .fail (by omega)

theorem inStep_arguments (ih : ReadsInStep rule stop expr deep n) (args : List Expr) (hts : ts.length ≤ n)
    (hdepth : depth ≤ ts.length → deep) :
    InStep (args ++ ·) deep ts.length (-4) 2 (loop (argumentTurn expr) depth args ts)
      (Parser.arguments rule stop ts) := by
  induction depth generalizing args ts with
  | zero => exact .outOfDepth (hdepth (Nat.zero_le _)) (by omega)
  | succ depth ihd =>
    rw [loop, argumentTurn]
    refine .step ?_
    cases ts with
    | nil =>
      -- that there are no tokens left is found out when an expression is to be read
      have hread := @ih 0 [] (Nat.zero_le n)
      rw [Parser.expression] at hread
      rw [Parser.arguments, if_neg (by simp [nextIs]), bind_assoc]
      refine hread.bind (G := fun _ => .error (.ended stop)) (by omega) fun e rest hlt => ?_
      exact absurd hlt (Nat.not_lt_zero _)
    | cons t ts =>
      rw [Parser.arguments]
      have hlen : ((t :: ts).length : Int) = ts.length + 1 := by simp
      by_cases hparen : t.kind = .rparen
      · rw [if_pos (nextIs_cons.2 hparen), if_pos hparen, pure_bind]
        have hdone : InStep (args ++ ·) deep (t :: ts).length (-5) 1 (pure (args ++ [], ts))
            (.ok ⟨[], ts, Nat.lt_succ_self _⟩ : Result (List Expr) (t :: ts).length) := .pure (by omega)
        rw [List.append_nil] at hdone
        exact hdone
      rw [if_neg (mt nextIs_cons.1 hparen), if_neg hparen, bind_assoc]
      refine .bind (ih hts) (by omega) fun e rest hlt => ?_
      dsimp only
      rw [pure_bind]
      cases rest with
      | nil =>
        have hrest := @ihd [] (args ++ [e]) (Nat.zero_le n) fun h => hdepth (by omega)
        rw [Parser.arguments] at hrest
        exact (hrest.mono (by simp) (by simp)).through (G := fun _ => .error (.ended stop)) (e := (e :: ·)) (by simp)
          fun _ _ h => absurd h (Nat.not_lt_zero _)
      | cons u rest =>
        have hlen : ((u :: rest).length : Int) = rest.length + 1 := by simp
        have hnat : (u :: rest).length = rest.length + 1 := by simp
        dsimp only
        by_cases hcomma : u.kind = .comma
        · rw [if_pos (nextIs_cons.2 hcomma), if_pos hcomma]
          have hrest := @ihd rest (args ++ [e]) (by omega) fun h => hdepth (by omega)
          exact (hrest.mono (by omega) (by omega)).through (by simp) fun _ _ _ => ⟨_, rfl⟩
        · rw [if_neg (mt nextIs_cons.1 hcomma), if_neg hcomma]
          have hrest := @ihd (u :: rest) (args ++ [e]) (by omega) fun h => hdepth (by omega)
          exact (hrest.mono (by omega) (by omega)).through (by simp) fun _ _ _ => ⟨_, rfl⟩

private theorem inStep_key {α β : Type} {f : β → α} {m : Nat} {k k' : Int} {F : String → Counted (α × List Token)}
    {G : String → Result β m} (hk : 0 ≤ 5 * n + k') (hF : ∀ key, InStep f deep n k k' (F key) (G key)) :
    InStep f deep n k k' (ofExcept (key t) >>= F)
      (match t.kind with
        | .name => Except.ok t.text >>= G
        | .quotedName => t.quotedText >>= G
        | _ => .error (.unexpected t) >>= G) := by
  rw [key]
  cases t.kind
  case name | quotedName => exact .ofExcept hk hF
  all_goals exact .fail hk

theorem inStep_entries (ih : ReadsInStep rule stop expr deep n) (entries : List (String × Expr))
    (hts : ts.length ≤ n) (hdepth : depth ≤ ts.length → deep) :
    InStep (entries ++ ·) deep ts.length (-5) 2 (loop (entryTurn stop expr) depth entries ts)
      (Parser.hashEntries rule stop ts) := by
  induction depth generalizing entries ts with
  | zero => exact .outOfDepth (hdepth (Nat.zero_le _)) (by omega)
  | succ depth ihd =>
    rw [loop]
    refine .step ?_
    cases ts with
    | nil =>
      rw [Parser.hashEntries]
      exact .fail (by simp)
    | cons t ts =>
      have hlen : ((t :: ts).length : Int) = ts.length + 1 := by simp
      have hnat : (t :: ts).length = ts.length + 1 := by simp
      rw [Parser.hashEntries, entryTurn, bind_assoc]
      refine inStep_key (by omega) fun key => ?_
      rw [bind_assoc]
      refine .expect (by omega) fun _ rest hrest => ?_
      rw [bind_assoc]
      refine .bind (ih (by omega)) (by omega) fun e rest hlt => ?_
      cases rest with
      | nil => exact .fail (by rw [List.length_nil]; omega)
      | cons u rest =>
        have hlen' : ((u :: rest).length : Int) = rest.length + 1 := by simp
        have hnat' : (u :: rest).length = rest.length + 1 := by simp
        dsimp only
        by_cases hbrace : u.kind = .rbrace
        · rw [if_pos (nextIs_cons.2 hbrace), if_pos hbrace, pure_bind]
          exact .pure (by simp; omega)
        rw [if_neg (mt nextIs_cons.1 hbrace), if_neg hbrace, expect_cons]
        by_cases hcomma : u.kind = .comma
        · rw [if_pos hcomma, if_pos hcomma, pure_bind, pure_bind]
          have hrest := @ihd rest (entries ++ [(key, e)]) (by omega) fun h => hdepth (by omega)
          exact (hrest.mono (by omega) (by omega)).through (by simp) fun _ _ _ => ⟨_, rfl⟩
        · rw [if_neg hcomma, if_neg hcomma]
          exact .fail (by omega)

/-! ### Readers -/

variable (ih : ReadsInStep rule stop expr deep n) (hts : ts.length ≤ n) (hdepth : depth ≤ n → deep)

include ih hts hdepth

theorem inStep_listItems :
    InStep id deep ts.length (-4) 3 (listItems stop expr depth ts) (Parser.listItems rule stop ts) := by
  have hloop := inStep_items ih [] hts fun h => hdepth (Nat.le_trans h hts)
  exact .step hloop

theorem inStep_hashEntries :
    InStep id deep ts.length (-4) 3 (hashEntries stop expr depth ts) (Parser.hashEntries rule stop ts) := by
  have hloop := inStep_entries ih [] hts fun h => hdepth (Nat.le_trans h hts)
  exact .step hloop

theorem inStep_member :
    InStep id deep ts.length 0 2 (member stop expr depth limit ts) (Parser.member rule stop limit ts) := by
  cases ts with
  | nil =>
    rw [Parser.member]
    exact .step (.fail (by simp))
  | cons t ts =>
    have hlen : ((t :: ts).length : Int) = ts.length + 1 := by simp
    have hle : ts.length ≤ n := Nat.le_of_succ_le hts
    rw [member, Parser.member]
    refine .step ?_
    cases t.kind
    case quotedName | name | star => exact ih hts
    case lbracket => exact (inStep_listItems ih hle hdepth).mono (by omega) (by omega) |>.onValue fun _ _ _ => ⟨_, rfl⟩
    case lbrace => exact (inStep_hashEntries ih hle hdepth).mono (by omega) (by omega) |>.onValue fun _ _ _ => ⟨_, rfl⟩
    all_goals exact .fail (by omega)

theorem inStep_applied :
    InStep id deep ts.length 1 2 (applied stop expr depth limit ts) (Parser.applied rule stop limit ts) := by
  cases ts with
  | nil =>
    rw [Parser.applied]
    exact .step (.pure (by simp))
  | cons t ts =>
    have hlen : ((t :: ts).length : Int) = ts.length + 1 := by simp
    rw [applied, Parser.applied]
    refine .step (.ite Iff.rfl (fun _ => .pure (by omega)) fun _ => ?_)
    refine .ite Iff.rfl (fun _ => ?_) fun _ => .ite Iff.rfl (fun _ => ?_) fun _ => .fail (by omega)
    · exact ((ih hts).mono (by omega) (by omega)).weaken fun _ _ _ => ⟨_, rfl⟩
    · have hle : ts.length ≤ n := Nat.le_of_succ_le hts
      exact ((inStep_member ih hle hdepth).mono (by omega) (by omega)).weaken fun _ _ _ => ⟨_, rfl⟩

theorem inStep_filtered :
    InStep id deep ts.length (-4) 2 (filtered stop expr depth left ts) (Parser.filtered rule stop left ts) := by
  rw [filtered, Parser.filtered]
  refine .step (.bind (ih hts) (by omega) fun condition rest hlt => ?_)
  refine .expect (by omega) fun _ rest' hrest => ?_
  refine .ite Iff.rfl (fun _ => .pure (by omega)) fun _ => ?_
  have hle : rest'.length ≤ n := by omega
  exact ((inStep_applied ih hle hdepth).mono (by omega) (by omega)).onValue fun _ _ _ => ⟨_, rfl⟩

theorem inStep_indexed :
    InStep id deep ts.length (-2) 2 (indexed stop expr depth left ts) (Parser.indexed rule stop left ts) := by
  cases ts with
  | nil =>
    rw [Parser.indexed]
    exact .step (.fail (by simp))
  | cons t ts =>
    have hlen : ((t :: ts).length : Int) = ts.length + 1 := by simp
    rw [indexed, Parser.indexed]
    refine .step (.ite Iff.rfl (fun _ => ?_) fun _ => ?_)
    · have hslice : InStep parts deep (t :: ts).length (-4) 1 _ (bounds stop ⟨none, none, none, 0⟩ (t :: ts)) :=
        inStep_slice (by decide) fun h => hdepth (Nat.le_trans h hts)
      refine hslice.bind (by omega) fun b rest hrest => ?_
      have hle : rest.length ≤ n := by omega
      exact ((inStep_applied ih hle hdepth).mono (by omega) (by omega)).onValue fun _ _ _ => ⟨_, rfl⟩
    · refine .ofExcept (by omega) fun i => .expect (by omega) fun _ rest hrest => ?_
      exact .pure (by omega)

/-- What starts with a bracket. -/
private theorem inStep_bracket (hk : t.kind = .lbracket) :
    InStep id deep ts.length 2 4 (operand rule stop expr depth t ts) (Parser.operand rule stop t ts) := by
  rw [operand.eq_def, Parser.operand.eq_def]
  simp only [hk]
  refine .step ?_
  have hitems := inStep_listItems ih hts hdepth
  cases ts with
  | nil =>
    rw [Parser.listItems, Parser.expression] at hitems
    refine (hitems.mono (by omega) (by omega)).onValue (G := fun _ => .error (.ended stop)) fun _ _ h => ?_
    exact absurd h (Nat.not_lt_zero _)
  | cons u ts =>
    have hlen : ((u :: ts).length : Int) = ts.length + 1 := by simp
    dsimp only
    have hlist : InStep id deep (u :: ts).length (2 - 1) (4 - 1) _ _ := hitems.mono (by omega) (by omega)
    cases u.kind
    case number | colon =>
      exact ((inStep_indexed ih hts hdepth).mono (by omega) (by omega)).weaken fun _ _ _ => ⟨_, rfl⟩
    case star =>
      dsimp only
      cases ts with
      | nil => exact hlist.onValue fun _ _ _ => ⟨_, rfl⟩
      | cons v ts =>
        have hlen' : ((v :: ts).length : Int) = ts.length + 1 := by simp
        have hle : ts.length ≤ n := Nat.le_of_succ_le (Nat.le_of_succ_le hts)
        refine .ite nextIs_cons (fun _ => ?_) fun _ => hlist.onValue fun _ _ _ => ⟨_, rfl⟩
        exact ((inStep_applied ih hle hdepth).mono (by omega) (by omega)).onValue fun _ _ _ => ⟨_, rfl⟩
    all_goals exact hlist.onValue fun _ _ _ => ⟨_, rfl⟩

theorem inStep_operand :
    InStep id deep ts.length 2 4 (operand rule stop expr depth t ts) (Parser.operand rule stop t ts) := by
  by_cases hk : t.kind = .lbracket
  · exact inStep_bracket ih hts hdepth hk
  rw [operand.eq_def, Parser.operand.eq_def]
  refine .step ?_
  cases hkind : t.kind
  case lbracket => exact absurd hkind hk
  case json =>
    cases t.literal rule with
    | error e => exact .fail (by omega)
    | ok l => exact .pure (by omega)
  case raw | name | current => exact .pure (by omega)
  case quotedName =>
    refine .ite Iff.rfl (fun _ => .fail (by omega)) fun _ => ?_
    cases t.quotedText with
    | error e => exact .fail (by omega)
    | ok name => exact .pure (by omega)
  case star =>
    refine .ite Iff.rfl (fun _ => .pure (by omega)) fun _ => ?_
    exact ((inStep_applied ih hts hdepth).mono (by omega) (by omega)).onValue fun _ _ _ => ⟨_, rfl⟩
  case filter => exact ((inStep_filtered ih hts hdepth).mono (by omega) (by omega)).weaken fun _ _ _ => ⟨_, rfl⟩
  case lbrace =>
    exact ((inStep_hashEntries ih hts hdepth).mono (by omega) (by omega)).onValue fun _ _ _ => ⟨_, rfl⟩
  case lparen =>
    refine .bind (ih hts) (by omega) fun e rest hlt => .expect (by omega) fun _ rest' hrest => ?_
    exact .pure (by omega)
  case flatten => exact ((inStep_applied ih hts hdepth).mono (by omega) (by omega)).onValue fun _ _ _ => ⟨_, rfl⟩
  case not | reference => exact ((ih hts).mono (by omega) (by omega)).onValue fun _ _ _ => ⟨_, rfl⟩
  all_goals exact .fail (by omega)

/-- A bracket behind an operand. -/
private theorem inStep_bracket_after (hk : t.kind = .lbracket) :
    InStep id deep ts.length 2 4 (operator stop expr depth t left ts) (Parser.operator rule stop t left ts) := by
  rw [operator.eq_def, Parser.operator.eq_def]
  simp only [hk]
  refine .step ?_
  cases ts with
  | nil => exact .fail (by simp)
  | cons u ts =>
    have hlen : ((u :: ts).length : Int) = ts.length + 1 := by simp
    have hnat : (u :: ts).length = ts.length + 1 := by simp
    have hnext : nextIs .number (u :: ts) = true ∨ nextIs .colon (u :: ts) = true ↔
        u.kind = .number ∨ u.kind = .colon := or_congr nextIs_cons nextIs_cons
    dsimp only
    by_cases hindex : u.kind = .number ∨ u.kind = .colon
    · have hindexed : InStep id deep (u :: ts).length (2 - 1) (4 - 1) (indexed stop expr depth left (u :: ts))
          (Parser.indexed rule stop left (u :: ts)) := (inStep_indexed ih hts hdepth).mono (by omega) (by omega)
      rw [if_pos (hnext.2 hindex)]
      rcases hindex with hkind | hkind <;> rw [hkind] <;> exact hindexed.weaken fun _ _ _ => ⟨_, rfl⟩
    · rw [if_neg (mt hnext.1 hindex), expect_cons]
      by_cases hstar : u.kind = .star
      · rw [if_pos hstar, hstar, pure_bind]
        refine .expect (by omega) fun _ rest hrest => ?_
        have hle : rest.length ≤ n := by omega
        exact ((inStep_applied ih hle hdepth).mono (by omega) (by omega)).onValue fun _ _ _ => ⟨_, rfl⟩
      · rw [if_neg hstar]
        cases hkind : u.kind
        case number | colon | star => simp [hkind] at hindex hstar
        all_goals exact .fail (by omega)

theorem inStep_operator :
    InStep id deep ts.length 2 4 (operator stop expr depth t left ts) (Parser.operator rule stop t left ts) := by
  by_cases hk : t.kind = .lbracket
  · exact inStep_bracket_after ih hts hdepth hk
  rw [operator.eq_def, Parser.operator.eq_def]
  refine .step ?_
  cases hkind : t.kind
  case lbracket => exact absurd hkind hk
  case compare | pipe | or | and => exact ((ih hts).mono (by omega) (by omega)).onValue fun _ _ _ => ⟨_, rfl⟩
  case dot =>
    have hmember : InStep id deep ts.length (2 - 1) (4 - 1) (member stop expr depth Token.Kind.dot.power ts)
        (Parser.member rule stop Token.Kind.dot.power ts) := (inStep_member ih hts hdepth).mono (by omega) (by omega)
    cases ts with
    | nil =>
      rw [Parser.member] at hmember
      exact hmember.onValue (G := fun _ => .error (.ended stop)) fun _ _ h => absurd h (by simp)
    | cons u ts =>
      have hlen : ((u :: ts).length : Int) = ts.length + 1 := by simp
      refine .ite nextIs_cons (fun _ => ?_) fun _ => hmember.onValue fun _ _ _ => ⟨_, rfl⟩
      have hle : ts.length ≤ n := Nat.le_of_succ_le hts
      exact ((inStep_applied ih hle hdepth).mono (by omega) (by omega)).onValue fun _ _ _ => ⟨_, rfl⟩
  case lparen =>
    cases left
    case field name =>
      have hargs : InStep id deep ts.length (-4) 2 (loop (argumentTurn expr) depth [] ts)
          (Parser.arguments rule stop ts) := inStep_arguments ih [] hts fun h => hdepth (Nat.le_trans h hts)
      exact (hargs.mono (by omega) (by omega)).onValue fun _ _ _ => ⟨_, rfl⟩
    all_goals exact .fail (by omega)
  case filter => exact ((inStep_filtered ih hts hdepth).mono (by omega) (by omega)).weaken fun _ _ _ => ⟨_, rfl⟩
  case flatten => exact ((inStep_applied ih hts hdepth).mono (by omega) (by omega)).onValue fun _ _ _ => ⟨_, rfl⟩
  all_goals exact .fail (by omega)

theorem inStep_operators {d : Nat} (hd : d ≤ ts.length → deep) :
    InStep id deep ts.length 1 3 (loop (operatorTurn stop expr depth limit) d left ts)
      (Parser.operators rule stop limit left ts) := by
  induction d generalizing left ts with
  | zero => exact .outOfDepth (hd (Nat.zero_le _)) (by omega)
  | succ d ihd =>
    rw [loop]
    refine .step ?_
    cases ts with
    | nil =>
      rw [Parser.operators]
      exact .pure (by simp)
    | cons t ts =>
      have hlen : ((t :: ts).length : Int) = ts.length + 1 := by simp
      have hnat : (t :: ts).length = ts.length + 1 := by simp
      rw [operatorTurn, Parser.operators]
      by_cases hlimit : limit < t.kind.power
      · rw [if_pos hlimit, if_pos hlimit, onValue_bind]
        have hle : ts.length ≤ n := by omega
        -- the token of the operator pays for this turn
        have hoperator : InStep id deep (t :: ts).length (-3) 2 (operator stop expr depth t left ts)
            (Parser.operator rule stop t left ts) := (inStep_operator ih hle hdepth).mono (by omega) (by omega)
        refine InStep.bind hoperator (by omega) fun e rest hlt => ?_
        have hrest := @ihd rest e (by omega) fun h => hd (by omega)
        exact (hrest.mono (by omega) (by omega)).weaken fun _ _ _ => ⟨_, rfl⟩
      · rw [if_neg hlimit, if_neg hlimit]
        exact .pure (by simp)

end

theorem inStep_expression (rule : Json.RealRule) (stop depth limit : Nat) (ts : List Token) :
    InStep id (depth ≤ ts.length) ts.length (-1) 1 (expression rule stop depth limit ts)
      (Parser.expression rule stop limit ts) := by
  induction depth generalizing limit ts with
  | zero => exact .outOfDepth (Nat.zero_le _) (by omega)
  | succ depth ihd =>
    cases ts with
    | nil =>
      rw [Parser.expression]
      exact .step (.fail (by simp))
    | cons t ts =>
      have hlen : ((t :: ts).length : Int) = ts.length + 1 := by simp
      have hnat : (t :: ts).length = ts.length + 1 := by simp
      have ih : ReadsInStep rule stop (expression rule stop depth) (depth + 1 ≤ (t :: ts).length) ts.length := by
        intro limit us hus
        exact (ihd limit us).deeper (by omega)
      rw [expression, Parser.expression]
      have hdepth : depth ≤ ts.length → depth + 1 ≤ (t :: ts).length := by omega
      have hoperand : InStep id (depth + 1 ≤ (t :: ts).length) (t :: ts).length (-3) 0
          (operand rule stop (expression rule stop depth) depth t ts) (Parser.operand rule stop t ts) :=
        (inStep_operand ih (Nat.le_refl _) hdepth).mono (by omega) (by omega)
      refine .step (.bind hoperand (by omega) fun e rest hlt => ?_)
      have hle : rest.length ≤ ts.length := Nat.le_of_lt_succ hlt
      have hoperators : InStep id (depth + 1 ≤ (t :: ts).length) rest.length 1 3
          (loop (operatorTurn stop (expression rule stop depth) depth limit) depth e rest)
          (Parser.operators rule stop limit e rest) :=
        inStep_operators ih hle hdepth fun h => hdepth (Nat.le_trans h hle)
      exact (hoperators.mono (by omega) (by omega)).weaken fun _ _ _ => ⟨_, rfl⟩

/-! ### What a run comes to -/

theorem InStep.steps_le {f : β → α} {deep : Prop} {n m : Nat} {k k' : Int} {c : Counted (α × List Token)}
    {x : Result β m} (h : InStep f deep n k k' c x) (hk : k ≤ k') : (c.steps : Int) ≤ 5 * n + k' := by
  cases h with
  | @ok steps b rest hlt hsteps =>
    show (steps : Int) ≤ _
    omega
  | mistake hsteps => exact hsteps
  | outOfDepth hdeep hsteps => exact hsteps

theorem InStep.ne_outOfRange {f : β → α} {deep : Prop} {n m : Nat} {k k' : Int} {c : Counted (α × List Token)}
    {x : Result β m} (h : InStep f deep n k k' c x) (place : Nat) : c.outcome ≠ .error (.outOfRange place) := by
  intro hc
  cases h <;> cases hc

theorem InStep.outcome_eq {f : β → α} {deep : Prop} {n m : Nat} {k k' : Int} {c : Counted (α × List Token)}
    {x : Result β m} (h : InStep f deep n k k' c x) (hdeep : ¬ deep) :
    c.outcome = (x.map fun p => (f p.value, p.rest)).mapError .mistake := by
  cases h with
  | ok hsteps => rfl
  | mistake hsteps => rfl
  | outOfDepth h hsteps => exact absurd h hdeep

theorem steps_all_le (rule : Json.RealRule) (stop depth : Nat) (ts : List Token) :
    (all rule stop depth ts).steps ≤ 5 * ts.length + 2 := by
  have hstep := inStep_expression rule stop depth 0 ts
  have hsteps := hstep.steps_le (by omega)
  unfold all
  generalize expression rule stop depth 0 ts = c at hsteps
  obtain ⟨steps, outcome⟩ := c
  dsimp only at hsteps
  have hle : steps + 1 ≤ 5 * ts.length + 2 := by omega
  cases outcome with
  | error s => exact hle
  | ok x =>
    obtain ⟨e, rest⟩ := x
    cases rest <;> exact hle

theorem outcome_all (rule : Json.RealRule) (stop : Nat) {depth : Nat} {ts : List Token} (hdepth : ts.length < depth) :
    (all rule stop depth ts).outcome = (Parser.all rule stop ts).mapError .mistake := by
  have hstep := inStep_expression rule stop depth 0 ts
  unfold all Parser.all
  generalize expression rule stop depth 0 ts = c at hstep
  generalize Parser.expression rule stop 0 ts = x at hstep
  cases hstep with
  | @ok steps e rest hlt hsteps => cases rest <;> rfl
  | mistake hsteps => rfl
  | outOfDepth hdeep hsteps => exact absurd hdeep (Nat.not_le_of_lt hdepth)

/-! ### Turns -/

/-- A turn that does not fail leaves fewer tokens than it found. -/
def Progresses (turn : σ → List Token → Counted (Turn σ α × List Token)) : Prop :=
  ∀ s ts result rest, (turn s ts).outcome = .ok (result, rest) → rest.length < ts.length

theorem InStep.shorter {f : β → α} {deep : Prop} {n m : Nat} {k k' : Int} {c : Counted (α × List Token)}
    {x : Result β m} {a : α} {rest : List Token} (h : InStep f deep n k k' c x) (hc : c.outcome = .ok (a, rest)) :
    rest.length < m := by
  cases h with
  | @ok steps b rest' hlt hsteps =>
    cases hc
    exact hlt
  | mistake hsteps => cases hc
  | outOfDepth hdeep hsteps => cases hc

theorem exists_of_bind {c : Counted α} {f : α → Counted β} {b : β} (h : (c >>= f).outcome = .ok b) :
    ∃ a, c.outcome = .ok a ∧ (f a).outcome = .ok b := by
  obtain ⟨steps, outcome⟩ := c
  cases outcome with
  | error s => cases h
  | ok a => exact ⟨a, rfl, h⟩

theorem exists_of_onValue {f : α → β} {c : Counted (α × List Token)} {b : β} {rest : List Token}
    (h : (c.onValue f).outcome = .ok (b, rest)) : ∃ a, c.outcome = .ok (a, rest) := by
  obtain ⟨steps, outcome⟩ := c
  cases outcome with
  | error s => cases h
  | ok x =>
    obtain ⟨a, us⟩ := x
    cases h
    exact ⟨a, rfl⟩

theorem length_of_expect {stop : Nat} {k : Token.Kind} {ts rest : List Token}
    (h : (expect stop k ts).outcome = .ok rest) : rest.length < ts.length := by
  unfold expect at h
  cases hx : Parser.expect stop k ts with
  | error e =>
    rw [hx] at h
    cases h
  | ok p =>
    rw [hx] at h
    cases h
    exact p.shorter

section

variable (rule : Json.RealRule) (stop depth : Nat)

private theorem shorter_expression {limit : Nat} {ts rest : List Token} {e : Expr}
    (h : (expression rule stop depth limit ts).outcome = .ok (e, rest)) : rest.length < ts.length :=
  (inStep_expression rule stop depth limit ts).shorter h

theorem progresses_items : Progresses (itemTurn stop (expression rule stop depth)) := by
  intro items ts result rest h
  obtain ⟨⟨e, us⟩, hread, h⟩ := exists_of_bind h
  have hus := shorter_expression rule stop depth hread
  dsimp only at h
  split at h
  · cases h
    rw [List.length_tail]
    omega
  · obtain ⟨vs, hcomma, h⟩ := exists_of_bind h
    have hvs := length_of_expect hcomma
    cases h
    omega

theorem progresses_entries : Progresses (entryTurn stop (expression rule stop depth)) := by
  intro entries ts result rest h
  cases ts with
  | nil => cases h
  | cons t ts =>
    obtain ⟨key, -, h⟩ := exists_of_bind h
    obtain ⟨us, hcolon, h⟩ := exists_of_bind h
    obtain ⟨⟨e, vs⟩, hread, h⟩ := exists_of_bind h
    have hus := length_of_expect hcolon
    have hvs := shorter_expression rule stop depth hread
    rw [List.length_cons]
    dsimp only at h
    split at h
    · cases h
      rw [List.length_tail]
      omega
    · obtain ⟨ws, hcomma, h⟩ := exists_of_bind h
      have hws := length_of_expect hcomma
      cases h
      omega

theorem progresses_arguments : Progresses (argumentTurn (expression rule stop depth)) := by
  intro args ts result rest h
  rw [argumentTurn] at h
  by_cases hparen : nextIs .rparen ts = true
  · rw [if_pos hparen] at h
    cases h
    cases ts with
    | nil => cases hparen
    | cons t ts => exact Nat.lt_succ_self _
  · rw [if_neg hparen] at h
    obtain ⟨⟨e, us⟩, hread, h⟩ := exists_of_bind h
    have hus := shorter_expression rule stop depth hread
    cases h
    split
    · rw [List.length_tail]
      omega
    · exact hus

theorem progresses_slice : Progresses (sliceTurn stop) := by
  intro s ts result rest h
  cases ts with
  | nil => cases h
  | cons t ts =>
    rw [List.length_cons]
    unfold sliceTurn at h
    cases hkind : t.kind <;> simp only [hkind] at h
    case rbracket =>
      cases h
      omega
    case colon =>
      split at h <;> cases h
      omega
    case number =>
      obtain ⟨i, -, h⟩ := exists_of_bind h
      split at h <;> cases h
      omega
    all_goals cases h

/-- There is a turn over the operators as long as one binds more than the limit. -/
theorem progresses_operators {limit : Nat} {left : Expr} {ts rest : List Token} {result : Turn Expr Expr}
    (hlimit : limit < nextPower ts)
    (h : (operatorTurn stop (expression rule stop depth) depth limit left ts).outcome = .ok (result, rest)) :
    rest.length < ts.length := by
  cases ts with
  | nil => cases hlimit
  | cons t ts =>
    have ih : ReadsInStep rule stop (expression rule stop depth) True ts.length := by
      intro limit us _
      exact (inStep_expression rule stop depth limit us).deeper fun _ => trivial
    have hoperator : InStep id True ts.length 2 4 (operator stop (expression rule stop depth) depth t left ts)
        (Parser.operator rule stop t left ts) := inStep_operator ih (Nat.le_refl _) fun _ => trivial
    have hpower : limit < t.kind.power := hlimit
    rw [operatorTurn, if_pos hpower] at h
    obtain ⟨e, hread⟩ := exists_of_onValue h
    exact hoperator.shorter hread

end

end Counted

open Counted in
/-- Reading makes progress.  An expression that is read ends behind its start, before a token that binds no more than the
limit.  Every turn of a loop leaves fewer tokens or fails.  The counting readers take at most five steps for each token
and one or two more, whatever the tokens are and however deep they may go, and write to no part of a slice that there is
not.  If they may go deeper than there are tokens, they come to what is read. -/
theorem reading_progresses (rule : Json.RealRule) (stop : Nat) :
    (∀ limit ts p, expression rule stop limit ts = .ok p →
      ∃ us, us ≠ [] ∧ ts = us ++ p.rest ∧ nextPower p.rest ≤ limit) ∧
    (∀ depth limit left ts result rest, limit < nextPower ts →
      (operatorTurn stop (Counted.expression rule stop depth) depth limit left ts).outcome = .ok (result, rest) →
      rest.length < ts.length) ∧
    (∀ depth, Progresses (argumentTurn (Counted.expression rule stop depth)) ∧ Progresses (sliceTurn stop) ∧
      Progresses (itemTurn stop (Counted.expression rule stop depth)) ∧
      Progresses (entryTurn stop (Counted.expression rule stop depth))) ∧
    (∀ depth limit ts, (Counted.expression rule stop depth limit ts).steps ≤ 5 * ts.length + 1 ∧
      (∀ place, (Counted.expression rule stop depth limit ts).outcome ≠ .error (.outOfRange place)) ∧
      (ts.length < depth → (Counted.expression rule stop depth limit ts).outcome =
        ((expression rule stop limit ts).map fun p => (p.value, p.rest)).mapError .mistake)) ∧
    ∀ depth ts, (Counted.all rule stop depth ts).steps ≤ 5 * ts.length + 2 ∧
      (ts.length < depth → (Counted.all rule stop depth ts).outcome = (all rule stop ts).mapError .mistake) := by
  refine ⟨fun limit ts p hp => ?_, fun depth limit left ts result rest => progresses_operators rule stop depth,
    fun depth => ?_, fun depth limit ts => ?_, fun depth ts => ?_⟩
  · obtain ⟨⟨us, m, hus, -, -⟩, hpower⟩ := sound _ (Nat.le_refl _) ⟨p.shorter, hp⟩
    refine ⟨us, ?_, hus, hpower⟩
    rintro rfl
    have hshorter := p.shorter
    rw [← List.nil_append p.rest, ← hus] at hshorter
    exact Nat.lt_irrefl _ hshorter
  · exact ⟨progresses_arguments rule stop depth, progresses_slice stop, progresses_items rule stop depth,
      progresses_entries rule stop depth⟩
  · have hstep := inStep_expression rule stop depth limit ts
    have hsteps := hstep.steps_le (by omega)
    exact ⟨by omega, hstep.ne_outOfRange, fun hdepth => hstep.outcome_eq (Nat.not_le_of_lt hdepth)⟩
  · exact ⟨steps_all_le rule stop depth ts, outcome_all rule stop⟩

/-- The query `a.b`. -/
private def path : List Token := [⟨.name, ['a'], 0⟩, ⟨.dot, ['.'], 1⟩, ⟨.name, ['b'], 2⟩]

theorem reading_progresses_path :
    (∃ p, expression .scaled 3 0 path = .ok p ∧ ∃ us, us ≠ [] ∧ path = us ++ p.rest ∧ nextPower p.rest ≤ 0) ∧
    (Counted.expression .scaled 3 4 0 path).steps = 9 := by
  obtain ⟨hread, -, -, hrun, -⟩ := reading_progresses .scaled 3
  have hrun := (hrun 4 0 path).2.2 (by decide)
  refine ⟨?_, by rfl⟩
  cases hp : expression .scaled 3 0 path with
  | error e =>
    rw [hp] at hrun
    cases hrun
  | ok p => exact ⟨p, rfl, hread 0 path p hp⟩

end Signpost.Query.Parser
