import Mathlib.Tactic.Common
import Signpost.Proofs.Json.Grammar

/-!
# Backslashes in JSON text

Outside of strings a JSON text has no backslashes, and inside each one takes the next character along, so that what
stands behind an odd number of backslashes is escaped by them.  A backtick is never escaped in JSON: in text that says
something every backtick stands behind an even number of backslashes, and so does the end (`even_of_says`).
-/

namespace Signpost.Json

/-- Goes over a text and tells whether it ends in an odd number of backslashes; nothing if a backtick stands behind an
odd number of them. -/
def parity (odd : Bool) : List Char → Option Bool
  | [] => some odd
  | c :: cs => if c = '\\' then parity (!odd) cs else if c = '\x60' ∧ odd = true then none else parity false cs

theorem parity_append (odd : Bool) (cs ds : List Char) :
    parity odd (cs ++ ds) = (parity odd cs).bind fun o => parity o ds := by
  induction cs generalizing odd with
  | nil => rfl
  | cons c cs ih =>
    rw [List.cons_append, parity, parity]
    split
    · exact ih _
    · split
      · rfl
      · exact ih _

/-- Every backtick stands behind an even number of backslashes, and so does the end. -/
def Even (cs : List Char) : Prop := parity false cs = some false

theorem Even.append {cs ds : List Char} (hc : Even cs) (hd : Even ds) : Even (cs ++ ds) := by
  rw [Even, parity_append, hc]
  exact hd

theorem Even.cons {c : Char} {cs : List Char} (hc : c ≠ '\\') (h : Even cs) : Even (c :: cs) := by
  rw [Even, parity, if_neg hc, if_neg fun h => Bool.false_ne_true h.2]
  exact h

theorem even_of_forall {cs : List Char} (h : ∀ c ∈ cs, c ≠ '\\') : Even cs := by
  induction cs with
  | nil => rfl
  | cons c cs ih => exact .cons (h c List.mem_cons_self) (ih fun d hd => h d (List.mem_cons_of_mem _ hd))

/-- A backslash takes the next character along. -/
theorem Even.escape {c : Char} {cs : List Char} (hc : c ≠ '\x60') (h : Even cs) : Even ('\\' :: c :: cs) := by
  rw [Even, parity, if_pos rfl, parity]
  split
  · exact h
  · rw [if_neg fun h => hc h.1]
    exact h

/-! ### Numbers -/

/-- What numbers are made of. -/
def IsNumeric (c : Char) : Prop := c.isDigit = true ∨ c ∈ ['-', '+', '.', 'e', 'E']

instance (c : Char) : Decidable (IsNumeric c) := inferInstanceAs (Decidable (_ ∨ _))

/-- The text up to the rest is made of such characters. -/
def Takes (p : Char → Prop) (cs rest : List Char) : Prop := ∃ used, cs = used ++ rest ∧ ∀ c ∈ used, p c

section

variable {p : Char → Prop} {cs ds rest : List Char} {c : Char}

theorem Takes.refl : Takes p cs cs := ⟨[], rfl, fun _ h => nomatch h⟩

theorem Takes.cons (hc : p c) (h : Takes p cs rest) : Takes p (c :: cs) rest := by
  obtain ⟨used, rfl, hused⟩ := h
  exact ⟨c :: used, rfl, List.forall_mem_cons.2 ⟨hc, hused⟩⟩

theorem Takes.trans (h : Takes p cs ds) (h' : Takes p ds rest) : Takes p cs rest := by
  obtain ⟨used, rfl, hused⟩ := h
  obtain ⟨used', rfl, hused'⟩ := h'
  exact ⟨used ++ used', (List.append_assoc ..).symm, List.forall_mem_append.2 ⟨hused, hused'⟩⟩

end

namespace NumberText

theorem takes_digits (cs : List Char) : Takes IsNumeric cs (digits cs).2 := by
  induction cs with
  | nil => exact .refl
  | cons c cs ih =>
    rw [digits]
    split
    · rename_i hc
      exact .cons (.inl hc) ih
    · exact .refl

private theorem takes_scanPower (t : NumberText) (cs : List Char) : Takes IsNumeric cs (scanPower t cs).2 := by
  unfold scanPower
  split
  · rename_i c cs
    split
    · rename_i hc
      have hpower : IsNumeric c := .inr (by rcases hc with rfl | rfl <;> decide)
      split
      rename_i negative ds hsign
      have hds : Takes IsNumeric cs ds := by
        split at hsign <;> cases hsign
        · exact .cons (.inr (by decide)) .refl
        · exact .cons (.inr (by decide)) .refl
        · exact .refl
      have := takes_digits ds
      split <;> rename_i hd <;> rw [hd] at this <;> exact .cons hpower (hds.trans this)
    · exact .refl
  · exact .refl

private theorem takes_scanFraction (t : NumberText) (cs : List Char) : Takes IsNumeric cs (scanFraction t cs).2 := by
  unfold scanFraction
  split
  · rename_i cs
    have := takes_digits cs
    split <;> rename_i hd <;> rw [hd] at this
    · exact .cons (.inr (by decide)) this
    · exact .cons (.inr (by decide)) (this.trans (takes_scanPower _ _))
  · exact takes_scanPower t _

private theorem takes_scanUnsigned (negative : Bool) (cs : List Char) :
    Takes IsNumeric cs (scanUnsigned negative cs).2 := by
  unfold scanUnsigned
  have := takes_digits cs
  split <;> rename_i hd <;> rw [hd] at this
  · exact this
  · exact this
  · exact this.trans (takes_scanFraction _ _)

end NumberText

/-- A number is made of digits, signs, a point and the sign of a power. -/
theorem takes_scan (rule : RealRule) (cs : List Char) : Takes IsNumeric cs (Number.scan rule cs).2 := by
  show Takes IsNumeric cs (NumberText.scan cs).2
  unfold NumberText.scan
  split
  · exact .cons (.inr (by decide)) (NumberText.takes_scanUnsigned true _)
  · exact NumberText.takes_scanUnsigned false _

theorem IsNumeric.ne_backslash {c : Char} (h : IsNumeric c) : c ≠ '\\' := by
  rintro rfl
  revert h
  unfold IsNumeric
  decide

/-! ### Strings -/

private theorem ne_backslash_of_value? {c : Char} {n : Nat} (h : Hexadecimal.value? c = some n) : c ≠ '\\' := by
  rintro rfl
  cases h

private theorem even_unit {a b c d : Char} {n : Nat} (h : Quoted.unit? a b c d = some n) {cs : List Char}
    (hcs : Even cs) : Even ('\\' :: 'u' :: a :: b :: c :: d :: cs) := by
  unfold Quoted.unit? at h
  split at h
  · rename_i ha hb hc hd
    exact .escape (by decide) (.cons (ne_backslash_of_value? ha) (.cons (ne_backslash_of_value? hb)
      (.cons (ne_backslash_of_value? hc) (.cons (ne_backslash_of_value? hd) hcs))))
  · cases h

/-- The inside of a string up to its closing quote. -/
private theorem even_of_cut {cs : List Char} (h : (Quoted.cut cs).stop = .closed) :
    ∃ used, cs = used ++ '"' :: (Quoted.cut cs).rest ∧ Even used := by
  fun_induction Quoted.cut cs with
  | case2 rest => exact ⟨[], rfl, rfl⟩
  | case3 a b c d rest n hn ih =>
    obtain ⟨used, hused, heven⟩ := ih h
    exact ⟨'\\' :: 'u' :: a :: b :: c :: d :: used, by rw [Quoted.Cut.push]; simp [← hused], even_unit hn heven⟩
  | case6 c rest _ _ e he ih =>
    obtain ⟨used, hused, heven⟩ := ih h
    have hc : c ≠ '\x60' := by
      rintro rfl
      cases he
    exact ⟨'\\' :: c :: used, by rw [Quoted.Cut.push]; simp [← hused], .escape hc heven⟩
  | case10 c rest _ hunit _ hescape hback _ ih =>
    obtain ⟨used, hused, heven⟩ := ih h
    have hc : c ≠ '\\' := by
      intro hc
      cases rest with
      | nil => exact hback hc rfl
      | cons d rest => exact hescape d rest hc rfl
    exact ⟨c :: used, by rw [Quoted.Cut.push]; simp [← hused], .cons hc heven⟩
  | _ => cases h

/-- The text is even up to the rest. -/
def EvenUpTo (cs rest : List Char) : Prop := ∃ used, cs = used ++ rest ∧ Even used

section

variable {cs ds rest : List Char}

theorem EvenUpTo.refl : EvenUpTo cs cs := ⟨[], rfl, rfl⟩

theorem EvenUpTo.cons {c : Char} (hc : c ≠ '\\') (h : EvenUpTo cs rest) : EvenUpTo (c :: cs) rest := by
  obtain ⟨used, rfl, heven⟩ := h
  exact ⟨c :: used, rfl, heven.cons hc⟩

theorem EvenUpTo.trans (h : EvenUpTo cs ds) (h' : EvenUpTo ds rest) : EvenUpTo cs rest := by
  obtain ⟨used, rfl, heven⟩ := h
  obtain ⟨used', rfl, heven'⟩ := h'
  exact ⟨used ++ used', (List.append_assoc ..).symm, heven.append heven'⟩

theorem Takes.even {p : Char → Prop} (h : Takes p cs rest) (hp : ∀ c, p c → c ≠ '\\') : EvenUpTo cs rest := by
  obtain ⟨used, rfl, hused⟩ := h
  exact ⟨used, rfl, even_of_forall fun c hc => hp c (hused c hc)⟩

theorem evenUpTo_scan {s : String} (h : Quoted.scan cs = (⟨.ok s, none⟩, rest)) : EvenUpTo cs rest := by
  obtain ⟨hread, hrest⟩ := Prod.mk.inj h
  have hstop : (Quoted.cut cs).stop = .closed := by
    have hfault : (Quoted.cut cs).stop.fault? = none := (Scanned.mk.inj hread).2
    revert hfault
    cases (Quoted.cut cs).stop <;> simp [Quoted.Stop.fault?]
  obtain ⟨used, hused, heven⟩ := even_of_cut hstop
  refine ⟨used ++ ['"'], ?_, heven.append rfl⟩
  rw [← hrest, List.append_assoc]
  exact hused

/-! ### Values -/

theorem ne_backslash_of_isBlank {c : Char} (h : Outline.isBlank c = true) : c ≠ '\\' := by
  rintro rfl
  cases h

theorem evenUpTo_skipBlanks (cs : List Char) : EvenUpTo cs (Outline.skipBlanks cs) := by
  induction cs with
  | nil => exact .refl
  | cons c cs ih =>
    rw [Outline.skipBlanks, List.dropWhile_cons]
    split
    · rename_i hc
      exact .cons (ne_backslash_of_isBlank hc) ih
    · exact .refl

end

theorem even_of_says {rule : RealRule} {part : Part} {cs rest : List Char} (h : Says rule part cs rest) :
    EvenUpTo cs rest := by
  induction h with
  | blank hc _ ih | blankItems hc _ ih | blankEntries hc _ ih => exact .cons (ne_backslash_of_isBlank hc) ih
  | null => exact ⟨['n', 'u', 'l', 'l'], rfl, rfl⟩
  | true => exact ⟨['t', 'r', 'u', 'e'], rfl, rfl⟩
  | false => exact ⟨['f', 'a', 'l', 's', 'e'], rfl, rfl⟩
  | @number level n c cs rest _ h =>
    have htakes := takes_scan rule (c :: cs)
    rw [h] at htakes
    exact htakes.even fun _ hc => hc.ne_backslash
  | string h => exact .cons (by decide) (evenUpTo_scan h)
  | array _ _ ih | object _ _ ih => exact .cons (by decide) ih
  | noItems | noEntries => exact .cons (by decide) .refl
  | firstItem _ _ ih => exact ih
  | nextItem _ ih => exact .cons (by decide) ((evenUpTo_skipBlanks _).trans ih)
  | item _ _ ihv ihvs => exact ihv.trans ihvs
  | firstEntry _ ih => exact .cons (by decide) ih
  | nextEntry hc _ ih =>
    refine .cons (by decide) ((evenUpTo_skipBlanks _).trans ?_)
    rw [hc]
    exact .cons (by decide) ih
  | entry hk hc _ _ ihv ihes =>
    refine (evenUpTo_scan hk).trans ((evenUpTo_skipBlanks _).trans ?_)
    rw [hc]
    exact .cons (by decide) (ihv.trans ihes)

end Signpost.Json
