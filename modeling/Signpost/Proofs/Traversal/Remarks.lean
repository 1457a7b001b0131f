import Signpost.Proofs.Traversal.Scoping

/-!
# Remarks

Emitted steps may hold remarks, which are written as constants named `_`.  Steps can be stripped of them
(`Step.allUnremarked`), and so can tokens (`allUnremarked`), at every level.  Both come to the same
(`allUnremarked_tokensOf`), as nothing else that is emitted has a constant of that name.
-/

namespace Signpost.Traversal

open Code (Token Ident code parens braces squares)

/-! ### Steps without remarks -/

mutual

/-- The operation without the remarks in its blocks. -/
def Operation.unremarked : Operation → Operation
  | .both l steps v => .both l (Step.allUnremarked steps) v
  | .either l steps v => .either l (Step.allUnremarked steps) v
  | .andThen s item steps v => .andThen s item (Step.allUnremarked steps) v
  | .each s source item steps v => .each s source item (Step.allUnremarked steps) v
  | .any s item steps v => .any s item (Step.allUnremarked steps) v
  | op => op

/-- The step without remarks, which is none if it is one itself. -/
def Step.unremarked : Step → List Step
  | .bind name op => [.bind name op.unremarked]
  | .note _ => []
  | .const name t c => [.const name t c]
  | .guard c => [.guard c]

/-- The steps without remarks. -/
def Step.allUnremarked : List Step → List Step
  | [] => []
  | s :: ss => s.unremarked ++ Step.allUnremarked ss

end

attribute [simp] Operation.unremarked

@[simp] theorem Step.allUnremarked_nil : Step.allUnremarked [] = [] := rfl

@[simp] theorem Step.allUnremarked_append {ss ts : List Step} :
    Step.allUnremarked (ss ++ ts) = Step.allUnremarked ss ++ Step.allUnremarked ts := by
  induction ss with
  | nil => rfl
  | cons s ss ih => rw [List.cons_append, Step.allUnremarked, Step.allUnremarked, ih, List.append_assoc]

@[simp] theorem Step.allUnremarked_bind {name : Ident} {op : Operation} :
    Step.allUnremarked [.bind name op] = [.bind name op.unremarked] := rfl

@[simp] theorem Step.allUnremarked_guard {c : Ident} {ss : List Step} :
    Step.allUnremarked (.guard c :: ss) = .guard c :: Step.allUnremarked ss := rfl

theorem Step.tokensOf_append {ss ts : List Step} :
    Step.tokensOf (ss ++ ts) = Step.tokensOf ss ++ Step.tokensOf ts := by
  induction ss with
  | nil => rfl
  | cons s ss ih => rw [List.cons_append, Step.tokensOf, Step.tokensOf, ih, List.append_assoc]

/-! ### Tokens without remarks -/

mutual

/-- The token without the remarks inside it. -/
def unremarked : Token → Token
  | .leaf s => .leaf s
  | .group b ts => .group b (allUnremarked ts)

/-- The tokens without remarks: every constant of a text that is named `_` is left out, at every level. -/
def allUnremarked : List Token → List Token
  | [] => []
  | .leaf "const" :: .leaf "_" :: .leaf ":" :: .leaf "&" :: .leaf "str" :: .leaf "=" :: .leaf _ :: .leaf ";" :: ts =>
    allUnremarked ts
  | t :: ts => unremarked t :: allUnremarked ts

end

variable {w v : String} {ts us : List Token}

@[simp] theorem allUnremarked_nil : allUnremarked [] = [] := by rw [allUnremarked]

@[simp] theorem allUnremarked_group {b : Code.Bracket} :
    allUnremarked (.group b ts :: us) = .group b (allUnremarked ts) :: allUnremarked us := by
  rw [allUnremarked, unremarked]
  simp

theorem allUnremarked_other (h : w ≠ "const") : allUnremarked (.leaf w :: ts) = .leaf w :: allUnremarked ts := by
  rw [allUnremarked, unremarked]
  simp [h]

/-- A constant of another name is no remark. -/
theorem allUnremarked_before (h : v ≠ "_") :
    allUnremarked (.leaf w :: .leaf v :: ts) = .leaf w :: allUnremarked (.leaf v :: ts) := by
  rw [allUnremarked, unremarked]
  simp [h]

@[simp] theorem allUnremarked_before_group {b : Code.Bracket} :
    allUnremarked (.leaf w :: .group b ts :: us) = .leaf w :: allUnremarked (.group b ts :: us) := by
  rw [allUnremarked, unremarked]
  simp

@[simp] theorem allUnremarked_last : allUnremarked [.leaf w] = [.leaf w] := by
  rw [allUnremarked, unremarked, allUnremarked]
  simp

theorem allUnremarked_remark {remark : String} :
    allUnremarked ((Step.note remark).tokens ++ us) = allUnremarked us := by
  have hcode : code "const _ : & str =" =
      [.leaf "const", .leaf "_", .leaf ":", .leaf "&", .leaf "str", .leaf "="] := rfl
  rw [Step.tokens, hcode, Code.string]
  simp [allUnremarked]

/-! ### What is no remark -/

/-- A token that starts no remark and holds none. -/
def isOther : Token → Bool
  | .leaf w => w != "const"
  | .group _ ts => ts.isEmpty

theorem allUnremarked_others (h : ts.all isOther = true) : allUnremarked (ts ++ us) = ts ++ allUnremarked us := by
  induction ts with
  | nil => rfl
  | cons t ts ih =>
    rw [List.all_cons, Bool.and_eq_true] at h
    cases t with
    | leaf w =>
      have hw : w ≠ "const" := by simpa [isOther] using h.1
      rw [List.cons_append, allUnremarked_other hw, ih h.2, List.cons_append]
    | group b inner =>
      obtain rfl : inner = [] := by simpa [isOther] using h.1
      rw [List.cons_append, allUnremarked_group, ih h.2, allUnremarked_nil, List.cons_append]

theorem allUnremarked_word (h : us.head? ≠ some (.leaf "_")) :
    allUnremarked (.leaf w :: us) = .leaf w :: allUnremarked us := by
  cases us with
  | nil => simp
  | cons u us =>
    cases u with
    | leaf v =>
      refine allUnremarked_before ?_
      rintro rfl
      exact h rfl
    | group b ts => simp

/-- No type has a remark in it. -/
theorem allUnremarked_type {t : Ty} (ht : t.tokens [] none = some ts) (h : us.head? ≠ some (.leaf "_")) :
    allUnremarked (ts ++ us) = ts ++ allUnremarked us := by
  have hopening : ∀ s ∈ ["bool", "str", ":: std :: string :: String", ":: std :: vec :: Vec <",
      ":: std :: collections :: HashMap <", ":: std :: option :: Option <"], (code s).all isOther = true := by decide
  induction t generalizing ts us with
  | bool | string | str =>
    cases ht
    exact allUnremarked_others (hopening _ (by simp))
  | int bits | float bits =>
    cases ht
    exact allUnremarked_word h
  | model name =>
    obtain ⟨i, -, rfl⟩ := Option.map_eq_some_iff.1 ht
    have hword := allUnremarked_word (w := i.text) h
    simpa [allUnremarked_other, Code.ident] using hword
  | vec t ih | option t ih =>
    obtain ⟨ts, hts, ht⟩ := Option.bind_eq_some_iff.1 ht
    cases ht
    rw [List.append_assoc, List.append_assoc, allUnremarked_others (hopening _ (by simp)), ih hts (by simp)]
    simp [allUnremarked_other]
  | map k v ihk ihv =>
    obtain ⟨ks, hks, ht⟩ := Option.bind_eq_some_iff.1 ht
    obtain ⟨vs, hvs, ht⟩ := Option.bind_eq_some_iff.1 ht
    cases ht
    rw [List.append_assoc, List.append_assoc, allUnremarked_others (hopening _ (by simp)), ihk hks (by simp)]
    rw [List.cons_append, allUnremarked_other (by decide), List.append_assoc, ihv hvs (by simp)]
    simp [allUnremarked_other]
  | ref t ih =>
    obtain ⟨ts, hts, ht⟩ := Option.bind_eq_some_iff.1 ht
    cases ht
    simp [allUnremarked_other, ih hts h]

theorem allUnremarked_plainType (t : Ty) (us : List Token) (h : us.head? ≠ some (.leaf "_")) :
    allUnremarked (plainType t ++ us) = plainType t ++ allUnremarked us := by
  rw [plainType]
  cases ht : t.tokens [] none with
  | none => rfl
  | some ts => exact allUnremarked_type ht h

theorem allUnremarked_commas {α : Type} {f : α → Token} (hf : ∀ a, ∃ w, f a = .leaf w) (items : List α) :
    allUnremarked (Code.commas (items.map fun a => [f a])) = Code.commas (items.map fun a => [f a]) := by
  induction items with
  | nil => simp [Code.commas]
  | cons a items ih =>
    obtain ⟨w, hw⟩ := hf a
    cases items with
    | nil => simp [Code.commas, hw]
    | cons b items =>
      rw [List.map_cons] at ih ⊢
      simpa [Code.commas, hw, allUnremarked_before, allUnremarked_other] using ih

theorem allUnremarked_constant {c : Constant} :
    allUnremarked (c.tokens ++ .leaf ";" :: us) = c.tokens ++ .leaf ";" :: allUnremarked us := by
  have hend : ∀ w, allUnremarked (.leaf w :: .leaf ";" :: us) = .leaf w :: .leaf ";" :: allUnremarked us := by
    intro w
    rw [allUnremarked_before (by decide), allUnremarked_other (by decide)]
  cases c with
  | bool b | string s => exact hend _
  | int n =>
    rw [Constant.tokens, Code.integer]
    split <;> simp [allUnremarked_other, hend]
  | float negative x =>
    rw [Constant.tokens, Code.decimal]
    split <;> simp [allUnremarked_other, hend]

theorem allUnremarked_tail (v : Tail) : allUnremarked v.tokens = v.tokens := by
  cases v with
  | plain i => exact allUnremarked_last
  | present i => simp [Tail.tokens, parens, Code.ident]
  | equal l r => simp [Tail.tokens, Code.ident, allUnremarked_before, allUnremarked_other]

/-! ### Steps as tokens -/

theorem allUnremarked_code (s : String) (h : (code s).all isOther = true) (us : List Token) :
    allUnremarked (code s ++ us) = code s ++ allUnremarked us := allUnremarked_others h

theorem allUnremarked_collect : allUnremarked (collect ++ us) = collect ++ allUnremarked us :=
  allUnremarked_others (by decide)

attribute [local simp] method closure early Code.ident parens braces squares allUnremarked_before
  allUnremarked_other allUnremarked_tail allUnremarked_collect

mutual

theorem allUnremarked_operation : (op : Operation) → (∀ i ∈ op.binders, i.text ≠ "_") → (us : List Token) →
    allUnremarked (op.tokens ++ .leaf ";" :: us) = op.unremarked.tokens ++ .leaf ";" :: allUnremarked us
  | .both l steps v, h, us | .either l steps v, h, us => by
    simp [Operation.tokens, allUnremarked_tokensOf steps h]
  | .andThen s item steps v, h, us | .any s item steps v, h, us => by
    simp [Operation.tokens, allUnremarked_tokensOf steps fun i hi => h i (List.mem_cons_of_mem _ hi)]
  | .each s source item steps v, h, us => by
    have hsteps : ∀ i ∈ Step.bindersOf steps, i.text ≠ "_" := fun i hi => h i (List.mem_cons_of_mem _ hi)
    cases source <;> simp [Operation.tokens, allUnremarked_tokensOf steps hsteps]
  | .optionalField s f eager, h, us | .entry s key eager, h, us => by
    cases eager <;> simp [Operation.tokens, Code.string]
  | .field s f, h, us | .unwrap s, h, us | .deref s, h, us | .copied s, h, us | .text s, h, us | .mapText s v, h, us
  | .not s, h, us | .containsText s v, h, us | .values s, h, us | .flatten s, h, us | .keys s k, h, us => by
    simp [Operation.tokens]
  | .charCount s, h, us | .length s, h, us => by
    simp [Operation.tokens, allUnremarked_code "as i64" (by decide)]
  | .wrap s, h, us => by
    simp [Operation.tokens, allUnremarked_code ":: std :: option :: Option :: Some" (by decide)]
  | .cast s t, h, us => by
    have htype := allUnremarked_plainType t (.leaf ";" :: us) (by simp)
    simp [Operation.tokens, htype]
  | .mapCast s v t, h, us => by
    have htype := allUnremarked_plainType t [] (by simp)
    rw [List.append_nil, allUnremarked_nil, List.append_nil] at htype
    simp [Operation.tokens, htype]
  | .compare op l r, h, us => by
    have hsign : op.sign ≠ "_" ∧ op.sign ≠ "const" := by cases op <;> decide
    simp [Operation.tokens, hsign]
  | .list items, h, us => by
    have hitems := allUnremarked_commas (f := fun i : Ident => .leaf i.text) (fun i => ⟨_, rfl⟩) items
    simp [Operation.tokens, allUnremarked_code ":: std :: vec !" (by decide), hitems]
  | .names [], h, us => by
    simp [Operation.tokens, allUnremarked_code ":: std :: vec :: Vec :: < & str > :: new" (by decide)]
  | .names (k :: ks), h, us => by
    have hkeys := allUnremarked_commas (f := Code.string) (fun k => ⟨_, rfl⟩) (k :: ks)
    rw [Operation.tokens, Operation.unremarked, Operation.tokens]
    · simp [allUnremarked_code ":: std :: vec !" (by decide), hkeys, -List.map_cons]
    all_goals simp

theorem allUnremarked_step : (s : Step) → (∀ i ∈ s.binders, i.text ≠ "_") → (us : List Token) →
    allUnremarked (s.tokens ++ us) = Step.tokensOf s.unremarked ++ allUnremarked us
  | .bind name op, h, us => by
    have hop := allUnremarked_operation op (fun i hi => h i (List.mem_cons_of_mem _ hi)) us
    simp [Step.tokens, Step.tokensOf, Step.unremarked, hop]
  | .const name t c, h, us => by
    have hname : name.text ≠ "_" := h name (by simp [Step.binders])
    have htype := allUnremarked_plainType t (.leaf "=" :: (c.tokens ++ .leaf ";" :: us)) (by simp)
    simp [Step.tokens, Step.tokensOf, Step.unremarked, hname, htype, allUnremarked_constant]
  | .guard c, h, us => by
    have hcode := allUnremarked_code "return None ;" (by decide) []
    rw [List.append_nil] at hcode
    simp [Step.tokens, Step.tokensOf, Step.unremarked, hcode]
  | .note remark, h, us => allUnremarked_remark

/-- To strip steps of remarks is to strip their tokens of them, if no constant is named `_`. -/
theorem allUnremarked_tokensOf : (steps : List Step) → (∀ i ∈ Step.bindersOf steps, i.text ≠ "_") →
    {us : List Token} →
    allUnremarked (Step.tokensOf steps ++ us) = Step.tokensOf (Step.allUnremarked steps) ++ allUnremarked us
  | [], h, us => rfl
  | s :: ss, h, us => by
    rw [Step.bindersOf, List.forall_mem_append] at h
    rw [Step.tokensOf, Step.allUnremarked, Step.tokensOf_append, List.append_assoc, List.append_assoc,
      allUnremarked_step s h.1, allUnremarked_tokensOf ss h.2]

end

end Signpost.Traversal
