import Signpost.Endpoint.Diagnostics
import Signpost.Endpoint.HostLabel
import Signpost.Proofs.Except
import Signpost.Proofs.Offsets

/-!
# The language of host labels

A label is a letter or a digit and up to 62 letters, digits and hyphens (`checkLabel_ok_iff`).  Labels with points
between them are told apart at the points, as no label has one (`check_true_iff`).  The first part that is no label is
what is reported (`captured_check`).
-/

namespace Signpost.HostLabel

/-- A letter or a digit of ASCII. -/
def IsLetterOrDigit (c : Char) : Prop := ('A' ≤ c ∧ c ≤ 'Z') ∨ ('a' ≤ c ∧ c ≤ 'z') ∨ ('0' ≤ c ∧ c ≤ '9')

/-- The language of labels. -/
def IsLabel : List Char → Prop
  | [] => False
  | c :: cs => IsLetterOrDigit c ∧ (∀ d ∈ cs, IsLetterOrDigit d ∨ d = '-') ∧ cs.length ≤ 62

/-- What a fault says of a text that is no label. -/
def Fault.Holds (label : List Char) : Fault → Prop
  | length text => text = label ∧ (label = [] ∨ 63 < byteLength label)
  | leadingHyphen text => text = label ∧ label.head? = some '-'
  | character text c => text = label ∧ c ∈ label ∧ ¬ (IsLetterOrDigit c ∨ c = '-')

/-- The texts that have to be labels: the text itself, or where labels below others are allowed, what stands between its
points. -/
def parts (s : String) (allowsSubdomains : Bool) : List (List Char) :=
  if allowsSubdomains then s.toList.splitOn '.' else [s.toList]

/-- Whether the check succeeds, and the diagnostics behind it. -/
def captured (d : Diagnostics) (s : String) (allowsSubdomains : Bool) : Bool × Diagnostics :=
  let (checked, d) := d.capture Fault.message (check s allowsSubdomains)
  (checked.isSome, d)

variable {label : List Char} {s : String} {allowsSubdomains : Bool}

/-! ### One label -/

theorem isAlphanum_iff {c : Char} : c.isAlphanum = true ↔ IsLetterOrDigit c := by
  show ((decide ('A' ≤ c ∧ c ≤ 'Z') || decide ('a' ≤ c) && decide (c ≤ 'z')) ||
    decide ('0' ≤ c) && decide (c ≤ '9')) = true ↔ _
  simp only [Bool.or_eq_true, Bool.and_eq_true, decide_eq_true_eq, or_assoc]
  exact Iff.rfl

theorem isLabelChar_iff {c : Char} : isLabelChar c = true ↔ IsLetterOrDigit c ∨ c = '-' := by
  rw [isLabelChar, Bool.or_eq_true, isAlphanum_iff, beq_iff_eq]

private theorem toNat_lt {c : Char} (h : isLabelChar c = true) : c.toNat < 0x80 := by
  obtain (⟨-, h⟩ | ⟨-, h⟩ | ⟨-, h⟩) | rfl := isLabelChar_iff.1 h
  · exact Nat.lt_of_le_of_lt h (by decide)
  · exact Nat.lt_of_le_of_lt h (by decide)
  · exact Nat.lt_of_le_of_lt h (by decide)
  · decide

theorem not_isLetterOrDigit_hyphen : ¬ IsLetterOrDigit '-' := by
  rw [← isAlphanum_iff]
  decide

private theorem find?_eq_none_iff : label.find? (!isLabelChar ·) = none ↔ ∀ c ∈ label, isLabelChar c = true := by
  simp

/-- The check accepts the language.  It counts bytes, but of what it accepts every character takes one. -/
theorem checkLabel_ok_iff : checkLabel label = .ok () ↔ IsLabel label := by
  cases label with
  | nil => exact ⟨fun h => (nomatch h), fun h => h.elim⟩
  | cons c cs =>
    have hbytes (h : ∀ d ∈ c :: cs, isLabelChar d = true) : byteLength (c :: cs) = cs.length + 1 :=
      byteLength_of_ascii fun d hd => toNat_lt (h d hd)
    rw [checkLabel]
    constructor
    · intro h
      split at h
      · cases h
      rename_i hlength
      split at h
      · cases h
      rename_i hhead
      split at h
      · cases h
      rename_i hfind
      have hchars := find?_eq_none_iff.1 hfind
      obtain ⟨hc, hcs⟩ := List.forall_mem_cons.1 hchars
      refine ⟨(isLabelChar_iff.1 hc).resolve_right fun heq => hhead (congrArg some heq),
        fun d hd => isLabelChar_iff.1 (hcs d hd), ?_⟩
      simp [hbytes hchars] at hlength
      omega
    · rintro ⟨hc, hcs, hlength⟩
      have hchars : ∀ d ∈ c :: cs, isLabelChar d = true :=
        List.forall_mem_cons.2 ⟨isLabelChar_iff.2 (.inl hc), fun d hd => isLabelChar_iff.2 (hcs d hd)⟩
      have hhead : (c :: cs).head? ≠ some '-' := fun heq => not_isLetterOrDigit_hyphen (Option.some.inj heq ▸ hc)
      rw [if_neg (by simp [hbytes hchars]; omega), if_neg hhead, find?_eq_none_iff.2 hchars]

theorem holds_of_checkLabel {f : Fault} (h : checkLabel label = .error f) : f.Holds label := by
  rw [checkLabel] at h
  split at h
  · cases h
    rename_i hlength
    exact ⟨rfl, by simpa using hlength⟩
  split at h
  · cases h
    rename_i hhead
    exact ⟨rfl, hhead⟩
  split at h
  · cases h
    rename_i c hfind
    refine ⟨rfl, List.mem_of_find?_eq_some hfind, ?_⟩
    have hc := List.find?_some hfind
    rw [← isLabelChar_iff]
    simpa using hc
  · cases h

theorem IsLabel.point_notMem (h : IsLabel label) : '.' ∉ label := by
  cases label with
  | nil => exact h.elim
  | cons c cs =>
    intro hmem
    have hpoint : isLabelChar '.' = true := by
      obtain heq | hmem := List.mem_cons.1 hmem
      · exact isLabelChar_iff.2 (.inl (heq ▸ h.1))
      · exact isLabelChar_iff.2 (h.2.1 _ hmem)
    cases hpoint

/-! ### Labels below others -/

theorem check_eq : check s allowsSubdomains = (parts s allowsSubdomains).forM checkLabel := by
  cases allowsSubdomains with
  | true => rfl
  | false =>
    rw [check, parts, if_neg Bool.false_ne_true, if_neg Bool.false_ne_true]
    change checkLabel s.toList = (checkLabel s.toList >>= fun _ => .ok ())
    cases checkLabel s.toList <;> rfl

theorem check_ok_iff : check s allowsSubdomains = .ok () ↔ ∀ l ∈ parts s allowsSubdomains, IsLabel l := by
  simp only [check_eq, forM_ok_iff, checkLabel_ok_iff]

theorem check_true_iff : check s true = .ok () ↔
    ∃ labels, labels ≠ [] ∧ (∀ l ∈ labels, IsLabel l) ∧ s.toList = ['.'].intercalate labels := by
  rw [check_ok_iff, parts, if_pos rfl]
  constructor
  · exact fun h => ⟨_, List.splitOn_ne_nil _ _, h, (List.intercalate_splitOn _).symm⟩
  · rintro ⟨labels, hne, hlabels, heq⟩
    rwa [heq, List.splitOn_intercalate _ (fun l hl => (hlabels l hl).point_notMem) hne]

theorem check_append_iff {t : String} :
    check (s ++ "." ++ t) true = .ok () ↔ check s true = .ok () ∧ check t true = .ok () := by
  have htext : (s ++ "." ++ t).toList = s.toList ++ '.' :: t.toList := by simp
  rw [check_ok_iff, check_ok_iff, check_ok_iff, parts, parts, parts, if_pos rfl, if_pos rfl, if_pos rfl, htext,
    List.splitOn_append_cons_self, List.forall_mem_append]

/-! ### Reports -/

theorem captured_of_ok (d : Diagnostics) (h : check s allowsSubdomains = .ok ()) :
    captured d s allowsSubdomains = (true, d) := by
  rw [captured, h]
  rfl

theorem captured_of_error {f : Fault} (d : Diagnostics) (h : check s allowsSubdomains = .error f) :
    captured d s allowsSubdomains = (false, ⟨some f.message⟩) := by
  rw [captured, h]
  rfl

/-- Whether the check succeeds does not depend on the diagnostics. -/
theorem captured_iff {d : Diagnostics} :
    (captured d s allowsSubdomains).1 = true ↔ check s allowsSubdomains = .ok () := by
  cases h : check s allowsSubdomains with
  | error f => simp [captured_of_error d h]
  | ok u => simp [captured_of_ok d h]

/-- A text is a label exactly if it is a letter or a digit and up to 62 letters, digits and hyphens, and labels below
others are one or more of them with points between; so a text with a point in it is checked on both sides of the point.
The diagnostics change exactly if the check fails: a fault of the first part that is no label is reported in place of
whatever was reported before. -/
theorem captured_check (d : Diagnostics) (s : String) (allowsSubdomains : Bool) :
    ((captured d s false).1 = true ↔ IsLabel s.toList) ∧
    ((captured d s true).1 = true ↔
      ∃ labels, labels ≠ [] ∧ (∀ l ∈ labels, IsLabel l) ∧ s.toList = ['.'].intercalate labels) ∧
    (∀ a b, (captured d (a ++ "." ++ b) true).1 = ((captured d a true).1 && (captured d b true).1)) ∧
    ((captured d s allowsSubdomains).1 = true ↔ ∀ e, (captured e s allowsSubdomains).2 = e) ∧
    ((captured d s allowsSubdomains).1 = false → ∃ before label after, ∃ fault : Fault,
      parts s allowsSubdomains = before ++ label :: after ∧ (∀ l ∈ before, IsLabel l) ∧ ¬ IsLabel label ∧
        fault.Holds label ∧ (captured d s allowsSubdomains).2 = ⟨some fault.message⟩) := by
  refine ⟨?_, ?_, fun a b => ?_, ?_, fun h => ?_⟩
  · rw [captured_iff, check_ok_iff, parts, if_neg Bool.false_ne_true, List.forall_mem_singleton]
  · rw [captured_iff, check_true_iff]
  · rw [Bool.eq_iff_iff, Bool.and_eq_true, captured_iff, captured_iff, captured_iff, check_append_iff]
  · cases hcheck : check s allowsSubdomains with
    | error f =>
      rw [captured_of_error d hcheck]
      refine ⟨fun h => (nomatch h), fun h => ?_⟩
      have hnone := h .empty
      rw [captured_of_error .empty hcheck] at hnone
      cases hnone
    | ok u =>
      rw [captured_of_ok d hcheck]
      exact ⟨fun _ e => by rw [captured_of_ok e hcheck], fun _ => rfl⟩
  · obtain ⟨f, hcheck⟩ : ∃ f, check s allowsSubdomains = .error f := by
      cases hcheck : check s allowsSubdomains with
      | error f => exact ⟨f, rfl⟩
      | ok u => simp [captured_of_ok d hcheck] at h
    obtain ⟨before, label, after, hparts, hbefore, hlabel⟩ := exists_of_forM_error (check_eq ▸ hcheck)
    refine ⟨before, label, after, f, hparts, fun l hl => checkLabel_ok_iff.1 (hbefore l hl), fun h => ?_,
      holds_of_checkLabel hlabel, by rw [captured_of_error d hcheck]⟩
    rw [checkLabel_ok_iff.2 h] at hlabel
    cases hlabel

theorem captured_check_longest :
    (captured .empty (String.ofList (List.replicate 63 'a') ++ "." ++ "0-") true).1 = true ∧
      ∃ before label after, ∃ fault : Fault,
        parts "a.-b.é" true = before ++ label :: after ∧ (∀ l ∈ before, IsLabel l) ∧ ¬ IsLabel label ∧
          fault.Holds label ∧ (captured ⟨some "empty host"⟩ "a.-b.é" true).2 = ⟨some fault.message⟩ := by
  obtain ⟨-, -, happend, -⟩ := captured_check .empty "" true
  obtain ⟨-, -, -, -, hreported⟩ := captured_check ⟨some "empty host"⟩ "a.-b.é" true
  refine ⟨?_, hreported rfl⟩
  rw [happend]
  rfl

end Signpost.HostLabel
