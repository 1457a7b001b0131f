import Mathlib
import Signpost.Proofs.Query.Rereading

/-!
# Queries without quotes

A text without quotes has no literals, and its names need no quotes either: what is read from it is plain
(`plain_of_spells`).  So `Expr.ofText_render_iff` says which of these queries survive being written and read again.
-/

namespace Signpost.Query

open Query.Expr

/-- The text has no quotes of any kind. -/
def IsUnquoted (cs : List Char) : Prop := ∀ c ∈ cs, c ∉ ['\'', '"', '\x60']

instance (cs : List Char) : Decidable (IsUnquoted cs) := List.decidableBAll _ cs

/-- A word that is written without quotes. -/
structure Word.Bare (w : Word) : Prop where
  unquoted : w.kind ∉ [.json, .raw, .quotedName]
  plain : w.kind = .name → isPlainName w.lexeme = true

/-- The first word of a text without quotes is none in quotes. -/
private theorem unquoted_of_first? {c : Char} {cs l : List Char} {k : Token.Kind} (hc : c ∉ ['\'', '"', '\x60'])
    (h : Token.first? (c :: cs) = some (k, l)) : k ∉ [.json, .raw, .quotedName] := by
  obtain ⟨_, heq, hl, -⟩ := Token.first?_eq_some_iff.1 h
  cases hl with
  | json | raw | quotedName =>
    obtain ⟨rfl, -⟩ := List.cons.inj heq
    exact absurd hc (by decide)
  | name | number | negative => simp
  | sign hk =>
    intro hmem
    have hquoted : ∀ k ∈ [Token.Kind.json, .raw, .quotedName], k.isVariable = true := by decide
    rw [hquoted k hmem] at hk
    cases hk

theorem bare_of_words? {cs : List Char} {ws : List Word} (hq : IsUnquoted cs) (h : words? cs = some ws) :
    ∀ w ∈ ws, w.Bare := by
  have hunquoted : ∀ w ∈ ws, w.kind ∉ [.json, .raw, .quotedName] :=
    forall_of_words? h fun c ds k l hd hf => unquoted_of_first? (hq c (hd.subset List.mem_cons_self)) hf
  exact fun w hw => ⟨hunquoted w hw, isPlainName_of_words? h w hw⟩

/-! ### What is read is plain -/

variable {rule : Json.RealRule} {part : Part} {m : Nat} {ws : List Word} {w : Word}

private theorem inRange_of_number? {n : Int} (h : w.number? = some n) : InRange n := by
  unfold Word.number? at h
  split at h
  · cases hn : w.token.number with
    | error e => simp [hn, Except.toOption] at h
    | ok i =>
      simp only [hn, Except.toOption, Option.some.injEq] at h
      subst h
      unfold Token.number at hn
      split at hn <;> grind [InRange]
  · cases h

/-- All the bounds are in range. -/
def Parser.Bounds.InRange (b : Parser.Bounds) : Prop :=
  (∀ n ∈ b.start, Expr.InRange n) ∧ (∀ n ∈ b.stop, Expr.InRange n) ∧ ∀ n ∈ b.step, Expr.InRange n

private theorem inRange_put {b : Parser.Bounds} {n : Int} (hb : b.InRange) (hn : InRange n) : (b.put n).InRange := by
  obtain ⟨h₁, h₂, h₃⟩ := hb
  unfold Parser.Bounds.put
  split <;> refine ⟨?_, ?_, ?_⟩ <;> simp_all

private theorem inRange_boundsOf? {b b' : Parser.Bounds} (hb : b.InRange) (h : boundsOf? b ws = some b') :
    b'.InRange := by
  induction ws generalizing b with
  | nil =>
    cases h
    exact hb
  | cons w ws ih =>
    rw [boundsOf?] at h
    by_cases hk : w.kind = .colon
    · rw [if_pos hk] at h
      split at h
      · exact ih (b := { b with place := b.place + 1 }) hb h
      · cases h
    · rw [if_neg hk] at h
      obtain ⟨n, hn, h⟩ := Option.bind_eq_some_iff.1 h
      exact ih (inRange_put hb (inRange_of_number? hn)) h

private theorem plain_of_key {key : String} (hw : w.Bare) (h : w.key? = some key) :
    isPlainName key.toList = true := by
  unfold Word.key? at h
  split at h <;> rename_i hk
  · cases h
    rw [Token.text, String.toList_ofList]
    exact hw.plain hk
  · exact absurd (by simp [hk]) hw.unquoted
  · cases h

private theorem plain_of_leaf {e : Expr} (hw : w.Bare) (h : w.leaf? rule = some (e, m)) : e.Plain := by
  unfold Word.leaf? at h
  split at h <;> rename_i hk
  · cases h
    refine .field ?_
    rw [Token.text, String.toList_ofList]
    exact hw.plain hk
  · exact absurd (by simp [hk]) hw.unquoted
  · exact absurd (by simp [hk]) hw.unquoted
  · exact absurd (by simp [hk]) hw.unquoted
  · cases h
    exact .current
  · cases h

/-- What is spelled is plain. -/
def Part.Plain : Part → Prop
  | .expr _ e | .left _ _ e | .base _ _ e | .applied _ e | .member _ e => e.Plain
  | .items es => es ≠ [] ∧ ∀ e ∈ es, e.Plain
  | .args es => ∀ e ∈ es, e.Plain
  | .entries es => es ≠ [] ∧ (∀ x ∈ es, isPlainName x.1.toList = true) ∧ ∀ x ∈ es, x.2.Plain

theorem plain_of_spells (h : Spells rule part ws m) (hw : ∀ w ∈ ws, w.Bare) : part.Plain := by
  induction h with
  | leaf h => exact plain_of_leaf (hw _ (by simp)) h
  | group _ ih => exact ih fun w hm => hw w (by simp [hm])
  | not _ ih => exact .not (ih fun w hm => hw w (by simp [hm]))
  | reference _ ih => exact .reference (ih fun w hm => hw w (by simp [hm]))
  | list _ _ ih =>
    obtain ⟨hne, hes⟩ := ih fun w hm => hw w (by simp [hm])
    exact .list hne hes
  | hash _ ih =>
    obtain ⟨hne, hk, hes⟩ := ih fun w hm => hw w (by simp [hm])
    exact .hash hne hk hes
  | compare _ _ ihl ihr =>
    exact .compare (ihl fun w hm => hw w (by simp [hm])) (ihr fun w hm => hw w (by simp [hm]))
  | and _ _ ihl ihr => exact .and (ihl fun w hm => hw w (by simp [hm])) (ihr fun w hm => hw w (by simp [hm]))
  | or _ _ ihl ihr => exact .or (ihl fun w hm => hw w (by simp [hm])) (ihr fun w hm => hw w (by simp [hm]))
  | pipe _ _ ihl ihr => exact .pipe (ihl fun w hm => hw w (by simp [hm])) (ihr fun w hm => hw w (by simp [hm]))
  | sub _ _ _ ihl ihr => exact .sub (ihl fun w hm => hw w (by simp [hm])) (ihr fun w hm => hw w (by simp [hm]))
  | call _ _ ihl iha =>
    have hn := ihl fun w hm => hw w (by simp [hm])
    cases hn with | field hn
    exact .call hn (iha fun w hm => hw w (by simp [hm]))
  | index _ hn ihl => exact .index (ihl fun w hm => hw w (by simp [hm])) (inRange_of_number? hn)
  | slice _ _ hb _ ihl ihr =>
    obtain ⟨ha, hb, hc⟩ := inRange_boundsOf? ⟨by simp, by simp, by simp⟩ hb
    exact .slices (ihl fun w hm => hw w (by simp [hm])) ha hb hc (ihr fun w hm => hw w (by simp [hm]))
  | elements _ _ ihl ihr =>
    exact .elements (ihl fun w hm => hw w (by simp [hm])) (ihr fun w hm => hw w (by simp [hm]))
  | flatten _ _ ihl ihr =>
    exact .flattened (ihl fun w hm => hw w (by simp [hm])) (ihr fun w hm => hw w (by simp [hm]))
  | filter _ _ _ ihl ihc ihr =>
    exact .filter (ihl fun w hm => hw w (by simp [hm])) (ihr fun w hm => hw w (by simp [hm]))
      (ihc fun w hm => hw w (by simp [hm]))
  | values _ ih => exact .projectValues .current (ih fun w hm => hw w (by simp [hm]))
  | valuesOf _ _ ihl ihr =>
    exact .projectValues (ihl fun w hm => hw w (by simp [hm])) (ihr fun w hm => hw w (by simp [hm]))
  | left _ _ _ ih => exact ih hw
  | nothing => exact .current
  | base _ ih => exact ih hw
  | itself => exact .current
  | bracketed _ _ ih => exact ih hw
  | dotted _ ih => exact ih fun w hm => hw w (by simp [hm])
  | named _ _ ih => exact ih hw
  | memberList _ ih =>
    obtain ⟨hne, hes⟩ := ih fun w hm => hw w (by simp [hm])
    exact .list hne hes
  | memberHash _ ih =>
    obtain ⟨hne, hk, hes⟩ := ih fun w hm => hw w (by simp [hm])
    exact .hash hne hk hes
  | lastItem _ ih =>
    have he := ih fun w hm => hw w (by simp [hm])
    exact ⟨by simp, List.forall_mem_singleton.2 he⟩
  | item _ _ ih ihs =>
    have he := ih fun w hm => hw w (by simp [hm])
    obtain ⟨-, hes⟩ := ihs fun w hm => hw w (by simp [hm])
    exact ⟨by simp, List.forall_mem_cons.2 ⟨he, hes⟩⟩
  | lastEntry hk _ ih =>
    have he := ih fun w hm => hw w (by simp [hm])
    have hkey := plain_of_key (hw _ (by simp)) hk
    exact ⟨by simp, List.forall_mem_singleton.2 hkey, List.forall_mem_singleton.2 he⟩
  | entry hk _ _ ih ihs =>
    have he := ih fun w hm => hw w (by simp [hm])
    have hkey := plain_of_key (hw _ (by simp)) hk
    obtain ⟨-, hks, hes⟩ := ihs fun w hm => hw w (by simp [hm])
    exact ⟨by simp, List.forall_mem_cons.2 ⟨hkey, hks⟩, List.forall_mem_cons.2 ⟨he, hes⟩⟩
  | noArgs => exact fun _ h => by cases h
  | arg _ _ ih ihs =>
    have he := ih fun w hm => hw w (by simp [hm])
    exact List.forall_mem_cons.2 ⟨he, ihs fun w hm => hw w (by simp [hm])⟩
  | bareArg _ _ _ ih ihs =>
    have he := ih fun w hm => hw w (by simp [hm])
    exact List.forall_mem_cons.2 ⟨he, ihs fun w hm => hw w (by simp [hm])⟩

namespace Expr

theorem plain_of_ofTextWith {text : String} {e : Expr} (hq : IsUnquoted text.toList)
    (h : ofTextWith rule text = .ok e) : Plain e := by
  obtain ⟨ws, m, hws, hs⟩ := ofTextWith_ok_iff.1 h
  exact plain_of_spells hs (bare_of_words? hq hws)

/-- A query that was read from a text without quotes is written so that it is read back, exactly if it is faithful
and no two references are written next to each other. -/
theorem ofText_render_iff {text : String} {e : Expr} (hq : IsUnquoted text.toList) (h : ofText text = .ok e) :
    ofText e.render = .ok e ↔ e.faithful false = true ∧ joined e.words = e.words :=
  ofTextWith_render_iff (plain_of_ofTextWith hq h)

theorem ofText_render_filter :
    ofText "a | b[?!c]" = .ok (pipe (field "a") (filter (field "b") current (not (field "c")))) ∧
      ofText (pipe (field "a") (filter (field "b") current (not (field "c")))).render =
        .ok (pipe (field "a") (filter (field "b") current (not (field "c")))) := by
  have h : ofText "a | b[?!c]" = .ok (pipe (field "a") (filter (field "b") current (not (field "c")))) := by cbv
  exact ⟨h, (ofText_render_iff (by decide) h).2 ⟨by decide, by decide⟩⟩

/-- A dot takes a projection for one operand and writes it in parentheses, with which no operand of a dot starts. -/
example : ofText "a.b[*]" = .ok (sub (field "a") (project (field "b") current)) ∧
    (sub (field "a") (project (field "b") current)).render = "a.(b[*])" ∧
    (sub (field "a") (project (field "b") current)).faithful false = false := ⟨by cbv, by decide, by decide⟩

end Expr

end Signpost.Query
