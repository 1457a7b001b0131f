import Signpost.Proofs.Json.Grammar

/-!
# Outlines of text

The outline of a text is sane, whatever faults it has: the level of a list or object counts the lists and objects
around it and itself, and whole numbers have 64 bits (`Outline.sane_ofText`).
-/

namespace Signpost.Json.Outline

/-- Levels count lists and objects, and whole numbers have 64 bits. -/
inductive Sane : Nat → Outline → Prop
  | broken {level f} : Sane level (broken f)
  | brokenWord {level f} : Sane level (brokenWord f)
  | null {level} : Sane level null
  | bool {level b} : Sane level (bool b)
  | number {level s} (h : ∀ n, s.read = .ok (.int n) → -0x8000000000000000 ≤ n ∧ n < 0x10000000000000000) :
    Sane level (number s)
  | string {level s} : Sane level (string s)
  | list {level os ending} (h : ∀ o ∈ os, Sane (level + 1) o) : Sane level (list level os ending)
  | object {level es ending} (h : ∀ e ∈ es, Sane (level + 1) e.2) : Sane level (object level es ending)

variable {rule : RealRule} {level : Nat} {o : Outline} {cs : List Char}

private theorem sane_word (h : o.Sane level) (es : List Char) : (word o cs es).result.1.Sane level := by
  induction es generalizing cs with
  | nil =>
    rw [word]
    exact h
  | cons e es ih =>
    cases cs with
    | nil => exact .brokenWord
    | cons c cs =>
      rw [word]
      split
      · rw [Step.result_weaken]
        exact ih
      · exact .brokenWord

private theorem sane_number (rule : RealRule) (cs : List Char) : (number (Number.scan rule cs).1).Sane level := by
  refine .number fun n h => ?_
  obtain ⟨t, -, ht⟩ := exists_of_bind_ok h
  unfold Number.ofText at ht
  dsimp only at ht
  -- the bound of a whole number depends on its sign
  split at ht <;> split at ht
  · cases ht
    omega
  · split at ht <;> cases ht
  · cases ht
    omega
  · split at ht <;> cases ht

/-- What is read of texts of fewer than `n` characters is sane. -/
private structure AllSane (rule : RealRule) (n : Nat) : Prop where
  value : ∀ {level cs}, cs.length < n → (value rule level cs).result.1.Sane level
  items : ∀ {level first cs}, cs.length < n → ∀ o ∈ (items rule level first cs).result.1.1, o.Sane (level + 1)
  entries : ∀ {level first cs}, cs.length < n → ∀ e ∈ (entries rule level first cs).result.1.1, e.2.Sane (level + 1)

section

variable {n : Nat}

private theorem sane_value_step (ih : AllSane rule n) (hlen : cs.length < n + 1) :
    (value rule level cs).result.1.Sane level := by
  cases cs with
  | nil =>
    rw [value.eq_def]
    exact .broken
  | cons c cs =>
    have hlen : cs.length < n := Nat.lt_of_succ_lt_succ hlen
    rw [result_value]
    split
    · exact ih.value hlen
    split
    · exact sane_word .null _
    split
    · exact sane_word .bool _
    split
    · exact sane_word .bool _
    split
    · exact .string
    split
    · exact sane_number rule _
    split
    · exact .list (ih.items hlen)
    split
    · exact .object (ih.entries hlen)
    · exact .broken

private theorem sane_item_step (ih : AllSane rule n) (hlen : cs.length < n + 1) :
    ∀ o ∈ (item rule level cs).result.1.1, o.Sane (level + 1) := by
  have hvalue : (value rule (level + 1) cs).result.1.Sane (level + 1) := sane_value_step ih hlen
  rw [result_item]
  rcases hres : (value rule (level + 1) cs).result with ⟨o, rest?⟩
  rw [hres] at hvalue
  cases rest? with
  | none => exact List.forall_mem_singleton.2 hvalue
  | some rest =>
    have hlt := length_of_result hres
    exact List.forall_mem_cons.2 ⟨hvalue, ih.items (by omega)⟩

private theorem sane_items_step (ih : AllSane rule n) {first : Bool} (hlen : cs.length < n + 1) :
    ∀ o ∈ (items rule level first cs).result.1.1, o.Sane (level + 1) := by
  have hnil : ∀ o ∈ ([] : List Outline), o.Sane (level + 1) := List.forall_mem_nil _
  cases cs with
  | nil =>
    rw [items.eq_def]
    exact hnil
  | cons c cs =>
    rw [result_items]
    split
    · exact ih.items (Nat.lt_of_succ_lt_succ hlen)
    split
    · exact hnil
    split
    · exact sane_item_step ih hlen
    split
    · split
      · exact hnil
      · rename_i d ds hskip
        have hle := length_skipBlanks_le cs
        rw [hskip] at hle
        split
        · exact hnil
        · exact sane_item_step ih (by simp at hlen; omega)
    · exact hnil

private theorem sane_entry_step (ih : AllSane rule n) (hlen : cs.length < n + 1) :
    ∀ e ∈ (entry rule level cs).result.1.1, e.2.Sane (level + 1) := by
  rw [result_entry]
  have hkey : (Quoted.scan cs).2.length ≤ cs.length := Quoted.length_rest_cut_le cs
  split
  · exact List.forall_mem_nil _
  split
  · exact List.forall_mem_singleton.2 .broken
  · rename_i c vs hskip
    have hle := length_skipBlanks_le (Quoted.scan cs).2
    rw [hskip, List.length_cons] at hle
    split
    · have hvalue : (value rule (level + 1) vs).result.1.Sane (level + 1) := ih.value (by omega)
      rcases hres : (value rule (level + 1) vs).result with ⟨o, rest?⟩
      rw [hres] at hvalue
      cases rest? with
      | none => exact List.forall_mem_singleton.2 hvalue
      | some rest =>
        have hlt := length_of_result hres
        exact List.forall_mem_cons.2 ⟨hvalue, ih.entries (by omega)⟩
    · exact List.forall_mem_singleton.2 .broken

private theorem sane_entries_step (ih : AllSane rule n) {first : Bool} (hlen : cs.length < n + 1) :
    ∀ e ∈ (entries rule level first cs).result.1.1, e.2.Sane (level + 1) := by
  have hnil : ∀ e ∈ ([] : List (Scanned String × Outline)), e.2.Sane (level + 1) := List.forall_mem_nil _
  cases cs with
  | nil =>
    rw [entries.eq_def]
    exact hnil
  | cons c cs =>
    rw [result_entries]
    split
    · exact ih.entries (Nat.lt_of_succ_lt_succ hlen)
    split
    · exact hnil
    split
    · split
      · exact sane_entry_step ih (Nat.lt_of_succ_lt hlen)
      · exact hnil
    split
    · split
      · exact hnil
      · rename_i d ds hskip
        have hle := length_skipBlanks_le cs
        rw [hskip, List.length_cons] at hle
        split
        · exact sane_entry_step ih (by simp at hlen; omega)
        · split <;> exact hnil
    · exact hnil

private theorem allSane (rule : RealRule) (n : Nat) : AllSane rule n := by
  induction n with
  | zero => constructor <;> exact fun hlen => absurd hlen (Nat.not_lt_zero _)
  | succ n ih => exact ⟨sane_value_step ih, sane_items_step ih, sane_entries_step ih⟩

end

/-- What is read of a text is sane. -/
theorem sane_ofText (rule : RealRule) (cs : List Char) : (ofText rule cs).1.Sane 1 := by
  have hvalue : (value rule 1 cs).result.1.Sane 1 := (allSane rule _).value (Nat.lt_succ_self _)
  unfold ofText
  dsimp only
  split <;> exact hvalue

end Signpost.Json.Outline
