import Signpost.Pattern.Matching

/-!
# What patterns match

`Pattern.Leads` says between which places of a text a pattern matches, with repetitions of any number of rounds, and the
matcher finds exactly these places (`mem_ends_iff`): rounds that stay where they are may be left out, and the others use
up the text (`Rounds.exists_short`).  A pattern that asks nothing of places takes a language (`Takes`), wherever it
stands, and one that starts and ends with the text matches a language (`Accepts.isMatch_iff`).
-/

namespace Signpost.Pattern

/-- So many rounds of a step lead from one place to another. -/
inductive Rounds (step : Place → Place → Prop) : Nat → Place → Place → Prop
  | done {p : Place} : Rounds step 0 p p
  | more {n : Nat} {p q r : Place} (h : step p q) (hr : Rounds step n q r) : Rounds step (n + 1) p r

/-- A match that starts at the first place may end at the second.  Bounds in the wrong order, which no text of a pattern
has, ask for the lower one. -/
def Leads : Pattern → Place → Place → Prop
  | empty, p, q => q = p
  | one s, p, q => ∃ c cs, p.after = c :: cs ∧ s.contains c = true ∧ q = ⟨some c, cs⟩
  | assert a, p, q => a.holds p = true ∧ q = p
  | seq x y, p, r => ∃ q, x.Leads p q ∧ y.Leads q r
  | alt x y, p, q => x.Leads p q ∨ y.Leads p q
  | times x least most, p, q => ∃ n, least ≤ n ∧ (∀ m ∈ most, n ≤ max least m) ∧ Rounds x.Leads n p q

variable {step : Place → Place → Prop} {round : Place → List Place} {ps : List Place} {p q r : Place} {m n : Nat}

/-! ### Rounds -/

namespace Rounds

theorem add_iff : Rounds step (m + n) p r ↔ ∃ q, Rounds step m p q ∧ Rounds step n q r := by
  induction m generalizing p with
  | zero =>
    rw [Nat.zero_add]
    refine ⟨fun h => ⟨p, .done, h⟩, ?_⟩
    rintro ⟨q, hq, h⟩
    cases hq
    exact h
  | succ m ih =>
    rw [Nat.succ_add]
    constructor
    · intro h
      cases h with
      | more h hr =>
        obtain ⟨q, hq, hr⟩ := ih.1 hr
        exact ⟨q, .more h hq, hr⟩
    · rintro ⟨q, hq, hr⟩
      cases hq with
      | more h hq => exact .more h (ih.2 ⟨q, hq, hr⟩)

/-- A step that stays where it is or comes nearer to the end of the text. -/
abbrev GoesOn (step : Place → Place → Prop) : Prop := ∀ p q, step p q → q = p ∨ q.after.length < p.after.length

theorem goesOn (hstep : GoesOn step) (h : Rounds step n p q) : q = p ∨ q.after.length < p.after.length := by
  induction h with
  | done => exact .inl rfl
  | more h _ ih =>
    obtain rfl | hlt := hstep _ _ h
    · exact ih
    · obtain rfl | hlt' := ih
      · exact .inr hlt
      · exact .inr (Nat.lt_trans hlt' hlt)

/-- As many rounds as there are characters left are enough. -/
theorem exists_short (hstep : GoesOn step) (h : Rounds step n p q) :
    ∃ k ≤ n, k ≤ p.after.length ∧ Rounds step k p q := by
  induction h with
  | done => exact ⟨0, Nat.le_refl _, Nat.zero_le _, .done⟩
  | more h _ ih =>
    obtain ⟨k, hk, hlength, hr⟩ := ih
    obtain rfl | hlt := hstep _ _ h
    · exact ⟨k, Nat.le_succ_of_le hk, hlength, hr⟩
    · exact ⟨k + 1, Nat.succ_le_succ hk, by omega, .more h hr⟩

end Rounds

theorem mem_after_iff : q ∈ after round n ps ↔ ∃ p ∈ ps, Rounds (fun p q => q ∈ round p) n p q := by
  induction n generalizing ps with
  | zero =>
    refine ⟨fun h => ⟨q, h, .done⟩, ?_⟩
    rintro ⟨p, hp, h⟩
    cases h
    exact hp
  | succ n ih =>
    rw [after, ih]
    simp only [List.mem_eraseDups, List.mem_flatMap]
    constructor
    · rintro ⟨r, ⟨p, hp, hr⟩, h⟩
      exact ⟨p, hp, .more hr h⟩
    · rintro ⟨p, hp, h⟩
      cases h with
      | more hr h => exact ⟨_, ⟨p, hp, hr⟩, h⟩

theorem mem_within_iff : q ∈ within round n ps ↔ ∃ k ≤ n, ∃ p ∈ ps, Rounds (fun p q => q ∈ round p) k p q := by
  induction n generalizing ps with
  | zero =>
    constructor
    · exact fun h => ⟨0, Nat.le_refl _, q, h, .done⟩
    · rintro ⟨k, hk, p, hp, h⟩
      obtain rfl := Nat.le_zero.1 hk
      cases h
      exact hp
  | succ n ih =>
    rw [within, ih]
    simp only [List.mem_eraseDups, List.mem_append, List.mem_flatMap]
    constructor
    · rintro ⟨k, hk, r, hr | ⟨p, hp, hr⟩, h⟩
      · exact ⟨k, Nat.le_succ_of_le hk, r, hr, h⟩
      · exact ⟨k + 1, Nat.succ_le_succ hk, p, hp, .more hr h⟩
    · rintro ⟨k, hk, p, hp, h⟩
      cases h with
      | done => exact ⟨0, Nat.zero_le _, q, .inl hp, .done⟩
      | more hr h => exact ⟨_, Nat.le_of_succ_le_succ hk, _, .inr ⟨p, hp, hr⟩, h⟩

/-! ### Matching -/

theorem goesOn_leads : (x : Pattern) → Rounds.GoesOn x.Leads
  | empty, p, q, h => .inl h
  | one s, p, q, h => by
    obtain ⟨c, cs, hp, -, rfl⟩ := h
    rw [hp]
    exact .inr (Nat.lt_succ_self _)
  | assert a, p, q, h => .inl h.2
  | seq x y, p, q, h => by
    obtain ⟨r, hx, hy⟩ := h
    obtain rfl | hlt := goesOn_leads x p r hx
    · exact goesOn_leads y _ q hy
    · obtain rfl | hlt' := goesOn_leads y r q hy
      · exact .inr hlt
      · exact .inr (Nat.lt_trans hlt' hlt)
  | alt x y, p, q, h => h.elim (goesOn_leads x p q) (goesOn_leads y p q)
  | times x least most, p, q, h => by
    obtain ⟨n, -, -, h⟩ := h
    exact h.goesOn (goesOn_leads x)

/-- The matcher finds the ends of all matches. -/
theorem mem_ends_iff {x : Pattern} : q ∈ x.ends p ↔ x.Leads p q := by
  induction x generalizing p q with
  | empty => exact List.mem_singleton
  | one s =>
    rw [ends, Leads]
    cases p.after with
    | nil => simp
    | cons c cs =>
      constructor
      · intro h
        dsimp only at h
        split at h
        · exact ⟨c, cs, rfl, ‹_›, List.mem_singleton.1 h⟩
        · cases h
      · rintro ⟨_, _, ⟨⟩, hc, rfl⟩
        dsimp only
        rw [if_pos hc]
        exact List.mem_singleton_self _
  | assert a =>
    rw [ends, Leads]
    by_cases ha : a.holds p = true <;> simp [ha]
  | seq x y hx hy => simp only [ends, Leads, List.mem_eraseDups, List.mem_flatMap, hx, hy]
  | alt x y hx hy => simp only [ends, Leads, List.mem_eraseDups, List.mem_append, hx, hy]
  | times x least most hx =>
    have hstep : (fun p q => q ∈ x.ends p) = x.Leads := funext fun p => funext fun q => propext hx
    -- so many rounds that have to be made, and then further ones
    have hwithin (k : Nat) : q ∈ within x.ends k (after x.ends least [p]) ↔
        ∃ j ≤ k, Rounds x.Leads (least + j) p q := by
      simp only [mem_within_iff, mem_after_iff, List.mem_singleton, exists_eq_left, hstep, Rounds.add_iff]
    have hshort {j : Nat} (h : Rounds x.Leads (least + j) p q) :
        ∃ k ≤ j, k ≤ p.after.length ∧ Rounds x.Leads (least + k) p q := by
      obtain ⟨r, hr, h⟩ := Rounds.add_iff.1 h
      obtain ⟨k, hk, hlength, h⟩ := h.exists_short (goesOn_leads x)
      refine ⟨k, hk, ?_, Rounds.add_iff.2 ⟨r, hr, h⟩⟩
      obtain rfl | hlt := hr.goesOn (goesOn_leads x)
      · exact hlength
      · omega
    cases most with
    | none =>
      rw [ends, Leads, hwithin]
      constructor
      · rintro ⟨j, -, h⟩
        exact ⟨_, Nat.le_add_right _ _, by simp, h⟩
      · rintro ⟨n, hn, -, h⟩
        obtain ⟨j, rfl⟩ := Nat.exists_eq_add_of_le hn
        obtain ⟨k, -, hlength, h⟩ := hshort h
        exact ⟨k, hlength, h⟩
    | some m =>
      rw [ends, Leads, hwithin]
      constructor
      · rintro ⟨j, hj, h⟩
        refine ⟨_, Nat.le_add_right _ _, ?_, h⟩
        rintro _ ⟨⟩
        omega
      · rintro ⟨n, hn, hmost, h⟩
        obtain ⟨j, rfl⟩ := Nat.exists_eq_add_of_le hn
        obtain ⟨k, hk, hlength, h⟩ := hshort h
        have hm := hmost m rfl
        exact ⟨k, by omega, h⟩

theorem isMatch_iff {x : Pattern} {s : String} :
    x.isMatch s = true ↔ ∃ p ∈ placesFrom none s.toList, ∃ q, x.Leads p q := by
  rw [isMatch, List.any_eq_true]
  refine exists_congr fun p => and_congr_right fun _ => ?_
  rw [Bool.not_eq_true', List.isEmpty_eq_false_iff_exists_mem]
  exact exists_congr fun q => mem_ends_iff

/-- Only the first place of a text has nothing before it. -/
theorem eq_of_mem_placesFrom {cs : List Char} (h : p ∈ placesFrom none cs) (hp : p.before = none) :
    p = ⟨none, cs⟩ := by
  have hsome (c : Char) (cs : List Char) (h : p ∈ placesFrom (some c) cs) : p.before ≠ none := by
    induction cs generalizing c with
    | nil =>
      obtain rfl := List.mem_singleton.1 h
      exact Option.some_ne_none c
    | cons d cs ih =>
      obtain rfl | h := List.mem_cons.1 h
      · exact Option.some_ne_none c
      · exact ih d h
  cases cs with
  | nil => exact List.mem_singleton.1 h
  | cons c cs => exact (List.mem_cons.1 h).resolve_right fun h => hsome c cs h hp

theorem mem_placesFrom (cs : List Char) : ⟨none, cs⟩ ∈ placesFrom none cs := by
  cases cs with
  | nil => exact List.mem_singleton.2 rfl
  | cons c cs => exact List.mem_cons_self

/-! ### Languages -/

/-- The pattern takes the texts of a language, whatever comes before and behind. -/
def Takes (x : Pattern) (L : List Char → Prop) : Prop :=
  ∀ p rest, (∃ q, q.after = rest ∧ x.Leads p q) ↔ ∃ ws, L ws ∧ p.after = ws ++ rest

namespace Takes

variable {x y : Pattern} {L M : List Char → Prop}

theorem congr (h : x.Takes L) (hL : ∀ ws, L ws ↔ M ws) : x.Takes M :=
  funext (fun ws => propext (hL ws)) ▸ h

theorem empty : Pattern.empty.Takes (· = []) := by
  intro p rest
  simp [Leads]

theorem one (s : CharClass) : (Pattern.one s).Takes fun ws => ∃ c, s.contains c = true ∧ ws = [c] := by
  intro p rest
  constructor
  · rintro ⟨q, rfl, c, cs, hp, hc, rfl⟩
    exact ⟨[c], ⟨c, hc, rfl⟩, hp⟩
  · rintro ⟨ws, ⟨c, hc, rfl⟩, hp⟩
    exact ⟨⟨some c, rest⟩, rfl, c, rest, hp, hc, rfl⟩

theorem seq (hx : x.Takes L) (hy : y.Takes M) :
    (x.seq y).Takes fun ws => ∃ us vs, L us ∧ M vs ∧ ws = us ++ vs := by
  intro p rest
  constructor
  · rintro ⟨r, hr, q, hpq, hqr⟩
    obtain ⟨us, hus, hp⟩ := (hx p q.after).1 ⟨q, rfl, hpq⟩
    obtain ⟨vs, hvs, hq⟩ := (hy q rest).1 ⟨r, hr, hqr⟩
    exact ⟨us ++ vs, ⟨us, vs, hus, hvs, rfl⟩, by rw [hp, hq, List.append_assoc]⟩
  · rintro ⟨_, ⟨us, vs, hus, hvs, rfl⟩, hp⟩
    rw [List.append_assoc] at hp
    obtain ⟨q, hq, hpq⟩ := (hx p (vs ++ rest)).2 ⟨us, hus, hp⟩
    obtain ⟨r, hr, hqr⟩ := (hy q rest).2 ⟨vs, hvs, hq⟩
    exact ⟨r, hr, q, hpq, hqr⟩

theorem alt (hx : x.Takes L) (hy : y.Takes M) : (x.alt y).Takes fun ws => L ws ∨ M ws := by
  intro p rest
  simp only [Leads, and_or_left, exists_or, hx p rest, hy p rest, or_and_right]

private theorem rounds_iff (hx : x.Takes L) {rest : List Char} :
    (∃ q, q.after = rest ∧ Rounds x.Leads n p q) ↔
      ∃ wss : List (List Char), wss.length = n ∧ (∀ ws ∈ wss, L ws) ∧ p.after = wss.flatten ++ rest := by
  induction n generalizing p with
  | zero =>
    constructor
    · rintro ⟨q, rfl, h⟩
      cases h
      exact ⟨[], rfl, List.forall_mem_nil _, rfl⟩
    · rintro ⟨wss, hwss, -, hp⟩
      obtain rfl := List.length_eq_zero_iff.1 hwss
      exact ⟨p, hp, .done⟩
  | succ n ih =>
    constructor
    · rintro ⟨r, hr, h⟩
      cases h with
      | @more _ _ q _ hpq hqr =>
        obtain ⟨ws, hws, hp⟩ := (hx p q.after).1 ⟨q, rfl, hpq⟩
        obtain ⟨wss, hlength, hwss, hq⟩ := ih.1 ⟨r, hr, hqr⟩
        refine ⟨ws :: wss, congrArg (· + 1) hlength, List.forall_mem_cons.2 ⟨hws, hwss⟩, ?_⟩
        rw [hp, hq, List.flatten_cons, List.append_assoc]
    · rintro ⟨wss, hlength, hwss, hp⟩
      cases wss with
      | nil => cases hlength
      | cons ws wss =>
        obtain ⟨hws, hwss⟩ := List.forall_mem_cons.1 hwss
        rw [List.flatten_cons, List.append_assoc] at hp
        obtain ⟨q, hq, hpq⟩ := (hx p (wss.flatten ++ rest)).2 ⟨ws, hws, hp⟩
        obtain ⟨r, hr, hqr⟩ := ih.2 ⟨wss, Nat.succ.inj hlength, hwss, hq⟩
        exact ⟨r, hr, .more hpq hqr⟩

theorem times (hx : x.Takes L) (least : Nat) (most : Option Nat) :
    (x.times least most).Takes fun ws => ∃ wss : List (List Char), least ≤ wss.length ∧
      (∀ m ∈ most, wss.length ≤ max least m) ∧ (∀ ws ∈ wss, L ws) ∧ ws = wss.flatten := by
  intro p rest
  constructor
  · rintro ⟨q, hq, n, hleast, hmost, h⟩
    obtain ⟨wss, rfl, hwss, hp⟩ := (rounds_iff hx).1 ⟨q, hq, h⟩
    exact ⟨_, ⟨wss, hleast, hmost, hwss, rfl⟩, hp⟩
  · rintro ⟨_, ⟨wss, hleast, hmost, hwss, rfl⟩, hp⟩
    obtain ⟨q, hq, h⟩ := (rounds_iff hx).2 ⟨wss, rfl, hwss, hp⟩
    exact ⟨q, hq, _, hleast, hmost, h⟩

end Takes

/-- The pattern matches from a place on exactly if a text of the language is left there. -/
def Accepts (x : Pattern) (L : List Char → Prop) : Prop := ∀ p, (∃ q, x.Leads p q) ↔ L p.after

namespace Accepts

variable {x y : Pattern} {L M : List Char → Prop}

theorem textEnd : ((Pattern.assert .textEnd).seq .empty).Accepts (· = []) := by
  intro p
  simp [Leads, Assertion.holds]

theorem seq (hx : x.Takes L) (hy : y.Accepts M) :
    (x.seq y).Accepts fun ws => ∃ us vs, L us ∧ M vs ∧ ws = us ++ vs := by
  intro p
  constructor
  · rintro ⟨r, q, hpq, hqr⟩
    obtain ⟨us, hus, hp⟩ := (hx p q.after).1 ⟨q, rfl, hpq⟩
    exact ⟨us, q.after, hus, (hy q).1 ⟨r, hqr⟩, hp⟩
  · rintro ⟨us, vs, hus, hvs, hp⟩
    obtain ⟨q, rfl, hpq⟩ := (hx p vs).2 ⟨us, hus, hp⟩
    obtain ⟨r, hqr⟩ := (hy q).2 hvs
    exact ⟨r, q, hpq, hqr⟩

/-- Where a match has to start with the text, the language decides. -/
theorem isMatch_iff (h : x.Accepts L) (s : String) :
    ((Pattern.assert .textStart).seq x).isMatch s = true ↔ L s.toList := by
  rw [Pattern.isMatch_iff]
  constructor
  · rintro ⟨p, hp, r, q, ⟨hstart, rfl⟩, hr⟩
    obtain rfl := eq_of_mem_placesFrom hp (Option.isNone_iff_eq_none.1 hstart)
    exact (h _).1 ⟨r, hr⟩
  · intro hs
    obtain ⟨r, hr⟩ := (h ⟨none, s.toList⟩).2 hs
    exact ⟨_, mem_placesFrom _, r, _, ⟨rfl, rfl⟩, hr⟩

end Accepts

end Signpost.Pattern
