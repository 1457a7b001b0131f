import Mathlib.Data.List.Chain
import Signpost.Code.Ident

/-!
# Names in snake case

A name in snake case has no underscore at an end (`ends_snakeCase_ne`) and no two of them next to one another
(`isChain_snakeCase`): its words are not empty, and no letter has a lowercase form with an underscore.  A field that
starts with one is an underscore alone, or has a digit behind it (`toList_fieldName`).  So nothing but the snake case is
lost on the way to a field and an identifier (`name_eq_name_iff`).  Names of small letters are identifiers as they are,
unless they are keywords (`ofName?_letters`).

The words of a name keep all of its letters and numbers (`flatten_words`), but not every number may stand in an
identifier, and some may not start one.  The name has an identifier that a variable may be called exactly if, without
its separators and in lowercase, it is one behind an underscore (`isUsable_ofName?_iff`).
-/

namespace Signpost

open Unicode (alphanumeric toLower)

namespace Naming

private theorem kinds_of_underscore : alphanumeric.contains '_' = false ∧
    Unicode.identifierStart.contains '_' = false ∧ Unicode.identifierContinue.contains '_' = true := by decide +kernel

/-- The code point of the underscore is no partner of a capital, and no small letter has a partner. -/
private theorem runs_apart : ∀ r ∈ Unicode.lowerRuns.toList,
    ¬ ((r.first : Int) + r.offset ≤ 0x5F ∧ (0x5F : Int) ≤ r.last + r.offset) ∧
      ¬ (r.first ≤ 0x7A ∧ 0x61 ≤ r.last) := by decide +kernel

private theorem contains_of_mem_runs (cs : List Char) : ∀ r ∈ runs cs, ∀ c ∈ r, alphanumeric.contains c = true := by
  induction cs with
  | nil => simp [runs]
  | cons c cs ih =>
    rw [runs]
    split
    · rename_i r rs hc hrs
      rw [hrs] at ih
      obtain ⟨hr, hrs⟩ := List.forall_mem_cons.1 ih
      exact List.forall_mem_cons.2 ⟨List.forall_mem_cons.2 ⟨hc, hr⟩, hrs⟩
    · rename_i hc hrs
      simpa using hc
    · simpa using ih

/-- A word is only ended without one more character where its last letter is a capital. -/
private theorem ne_nil_of_mem_wordsFrom {p : Char → Prop} {last : LastCase} {word cs : List Char}
    (hlast : last = .upper → word ≠ []) (hword : ∀ c ∈ word, p c) (hcs : ∀ c ∈ cs, p c) :
    ∀ w ∈ wordsFrom last word cs, w ≠ [] ∧ ∀ c ∈ w, p c := by
  induction last, word, cs using wordsFrom.induct with
  | case1 => simp [wordsFrom]
  | case2 last word c =>
    rw [wordsFrom]
    refine List.forall_mem_singleton.2 ⟨by simp, ?_⟩
    exact List.forall_mem_append.2 ⟨hword, hcs⟩
  | case3 last word c next rest hlower ih =>
    obtain ⟨hc, hrest⟩ := List.forall_mem_cons.1 hcs
    rw [wordsFrom, if_pos hlower]
    refine List.forall_mem_cons.2 ⟨⟨by simp, List.forall_mem_append.2 ⟨hword, List.forall_mem_singleton.2 hc⟩⟩, ?_⟩
    exact ih (fun h => by cases h) (fun c hc => absurd hc List.not_mem_nil) hrest
  | case4 last word c next rest hlower hupper ih =>
    obtain ⟨hc, hrest⟩ := List.forall_mem_cons.1 hcs
    rw [wordsFrom, if_neg hlower, if_pos hupper]
    refine List.forall_mem_cons.2 ⟨⟨hlast hupper.1, hword⟩, ?_⟩
    exact ih (fun _ => List.cons_ne_nil _ _) (List.forall_mem_singleton.2 hc) hrest
  | case5 last word c next rest hlower hupper ih =>
    obtain ⟨hc, hrest⟩ := List.forall_mem_cons.1 hcs
    rw [wordsFrom, if_neg hlower, if_neg hupper]
    exact ih (fun _ => by simp) (List.forall_mem_append.2 ⟨hword, List.forall_mem_singleton.2 hc⟩) hrest

private theorem ne_nil_of_mem_words {name w : List Char} (h : w ∈ words name) : w ≠ [] ∧ ∀ c ∈ w, c ≠ '_' := by
  obtain ⟨r, hr, hw⟩ := List.mem_flatMap.1 h
  refine ne_nil_of_mem_wordsFrom (fun h => by cases h) (fun c hc => absurd hc List.not_mem_nil) (fun c hc => ?_) w hw
  rintro rfl
  exact absurd (contains_of_mem_runs name r hr _ hc) (by rw [kinds_of_underscore.1]; decide)

private theorem ofNat_ne_underscore {n : Nat} (h : n ≠ 0x5F) : Char.ofNat n ≠ '_' := by
  intro heq
  have hn := congrArg Char.toNat heq
  rw [Char.ofNat] at hn
  by_cases hv : n.isValidChar
  · rw [dif_pos hv] at hn
    exact h hn
  · rw [dif_neg hv] at hn
    exact absurd hn (by decide)

private theorem toLower_plain {c : Char} (h : c ≠ '_') : toLower c ≠ [] ∧ '_' ∉ toLower c := by
  have hexpansions : ∀ e ∈ Unicode.lowerExpansions, e.2.map Char.ofNat ≠ [] ∧ '_' ∉ e.2.map Char.ofNat := by decide
  rw [toLower, Unicode.mapCase]
  split
  · rename_i e he
    exact hexpansions e (Array.mem_of_find?_eq_some he)
  · split
    · rename_i n hn
      obtain ⟨r, hr, hn⟩ := Array.exists_of_findSome?_eq_some hn
      refine ⟨List.cons_ne_nil _ _, fun hmem => ofNat_ne_underscore (fun h => ?_) (List.mem_singleton.1 hmem).symm⟩
      rw [Unicode.CaseRun.partner?] at hn
      split at hn
      · have hn := Option.some.inj hn
        have := (runs_apart r (Array.mem_def.1 hr)).1
        omega
      · cases hn
    · exact ⟨List.cons_ne_nil _ _, fun hmem => h (List.mem_singleton.1 hmem).symm⟩

private theorem lower_plain {w : List Char} (hw : w ≠ []) (h : ∀ c ∈ w, c ≠ '_') : lower w ≠ [] ∧ '_' ∉ lower w := by
  induction w using lower.induct with
  | case1 => exact absurd rfl hw
  | case2 => decide
  | case3 c cs hsigma ih =>
    obtain ⟨hc, hcs⟩ := List.forall_mem_cons.1 h
    obtain ⟨hne, hplain⟩ := toLower_plain hc
    rw [lower]
    · refine ⟨by simp [hne], fun hmem => ?_⟩
      rcases List.mem_append.1 hmem with hmem | hmem
      · exact hplain hmem
      · cases cs with
        | nil => cases hmem
        | cons d ds => exact (ih (List.cons_ne_nil _ _) hcs).2 hmem
    · exact hsigma

private theorem ends_intercalate_ne {ws : List (List Char)} (h : ∀ w ∈ ws, w ≠ [] ∧ '_' ∉ w) :
    (['_'].intercalate ws).head? ≠ some '_' ∧ (['_'].intercalate ws).getLast? ≠ some '_' := by
  induction ws with
  | nil => decide
  | cons w ws ih =>
    obtain ⟨⟨hne, hplain⟩, hws⟩ := List.forall_mem_cons.1 h
    cases ws with
    | nil =>
      rw [List.intercalate_singleton]
      exact ⟨fun hh => hplain (List.mem_of_mem_head? hh), fun hl => hplain (List.mem_of_mem_getLast? hl)⟩
    | cons v vs =>
      -- what is behind the underscore is not empty, so that it has the last letter
      have hrest : ['_'].intercalate (v :: vs) ≠ [] := by
        obtain ⟨d, ds, hd⟩ := List.exists_cons_of_ne_nil (hws v List.mem_cons_self).1
        rw [hd]
        cases vs <;> simp [List.intercalate_cons_cons]
      rw [List.intercalate_cons_cons]
      constructor
      · obtain ⟨c, cs, rfl⟩ := List.exists_cons_of_ne_nil hne
        exact fun hh => hplain (List.mem_of_mem_head? hh)
      · rw [List.getLast?_append, List.getLast?_eq_some_getLast hrest, Option.some_or,
          ← List.getLast?_eq_some_getLast hrest]
        exact (ih hws).2

private theorem isChain_intercalate {ws : List (List Char)} (h : ∀ w ∈ ws, w ≠ [] ∧ '_' ∉ w) :
    (['_'].intercalate ws).IsChain fun c d => c = '_' → d ≠ '_' := by
  induction ws with
  | nil => exact .nil
  | cons w ws ih =>
    obtain ⟨⟨-, hplain⟩, hws⟩ := List.forall_mem_cons.1 h
    have hw : w.IsChain fun c d => c = '_' → d ≠ '_' := by
      refine List.Pairwise.isChain (List.pairwise_of_forall_mem_list ?_)
      rintro c hc d - rfl
      exact absurd hc hplain
    cases ws with
    | nil =>
      rw [List.intercalate_singleton]
      exact hw
    | cons v vs =>
      rw [List.intercalate_cons_cons, List.append_assoc]
      refine List.isChain_append.2 ⟨hw, ?_, fun c hc d _ heq => absurd (heq ▸ List.mem_of_mem_getLast? hc) hplain⟩
      refine List.isChain_append.2 ⟨.singleton _, ih hws, fun c _ d hd _ heq => ?_⟩
      exact (ends_intercalate_ne hws).1 (heq ▸ hd)

private theorem plain_of_mem_words {name : String} :
    ∀ w ∈ (words name.toList).map lower, w ≠ [] ∧ '_' ∉ w := by
  refine List.forall_mem_map.2 fun w hw => ?_
  obtain ⟨hne, hplain⟩ := ne_nil_of_mem_words hw
  exact lower_plain hne hplain

/-- A name in snake case has no underscore at an end. -/
theorem ends_snakeCase_ne (name : String) :
    (snakeCase name).toList.head? ≠ some '_' ∧ (snakeCase name).toList.getLast? ≠ some '_' := by
  rw [snakeCase, String.toList_ofList]
  exact ends_intercalate_ne plain_of_mem_words

/-- No two underscores stand next to one another in it. -/
theorem isChain_snakeCase (name : String) :
    (snakeCase name).toList.IsChain fun c d => c = '_' → d ≠ '_' := by
  rw [snakeCase, String.toList_ofList]
  exact isChain_intercalate plain_of_mem_words

theorem head_snakeCase_ne {name : String} {c : Char} {cs : List Char} (h : (snakeCase name).toList = c :: cs) :
    c ≠ '_' := by
  rintro rfl
  exact (ends_snakeCase_ne name).1 (by rw [h, List.head?_cons])

/-! ### Plain names -/

private theorem kinds_of_letter {c : Char} (h : c.isLower = true) : alphanumeric.contains c = true ∧
    Unicode.uppercase.contains c = false ∧ Unicode.identifierStart.contains c = true ∧
    Unicode.identifierContinue.contains c = true ∧ c.isDigit = false ∧ 0x61 ≤ c.toNat ∧ c.toNat ≤ 0x7A := by
  have hall : ∀ n ∈ List.range' 0x61 26, alphanumeric.contains (Char.ofNat n) = true ∧
      Unicode.uppercase.contains (Char.ofNat n) = false ∧ Unicode.identifierStart.contains (Char.ofNat n) = true ∧
      Unicode.identifierContinue.contains (Char.ofNat n) = true ∧ (Char.ofNat n).isDigit = false := by
    decide +kernel
  have hrange : 0x61 ≤ c.toNat ∧ c.toNat ≤ 0x7A := by
    obtain ⟨hfirst, hlast⟩ := Bool.and_eq_true_iff.1 h
    exact ⟨UInt32.le_iff_toNat_le.1 (of_decide_eq_true hfirst), UInt32.le_iff_toNat_le.1 (of_decide_eq_true hlast)⟩
  obtain ⟨h₁, h₂, h₃, h₄, h₅⟩ := hall c.toNat (List.mem_range'_1.2 (by omega))
  rw [Char.ofNat_toNat] at h₁ h₂ h₃ h₄ h₅
  exact ⟨h₁, h₂, h₃, h₄, h₅, hrange⟩

private theorem toLower_letter {c : Char} (h : c.isLower = true) : toLower c = [c] := by
  obtain ⟨-, -, -, -, -, hfirst, hlast⟩ := kinds_of_letter h
  have hexpansions : ∀ e ∈ Unicode.lowerExpansions, ¬ e.1 ≤ 0x7A := by decide
  have hno : Unicode.lowerExpansions.find? (·.1 = c.toNat) = none := by
    refine Array.find?_eq_none.2 fun e he => ?_
    have := hexpansions e he
    simp only [decide_eq_true_eq]
    omega
  have hnone : Unicode.lowerRuns.findSome? (·.partner? c.toNat) = none := by
    refine Array.findSome?_eq_none_iff.2 fun r hr => ?_
    have := (runs_apart r (Array.mem_def.1 hr)).2
    rw [Unicode.CaseRun.partner?, if_neg]
    omega
  rw [toLower, Unicode.mapCase, hno, hnone]

variable {cs : List Char}

private theorem runs_letters (h : ∀ c ∈ cs, c.isLower = true) : runs cs = [cs] := by
  induction cs with
  | nil => rfl
  | cons c cs ih =>
    obtain ⟨hc, hcs⟩ := List.forall_mem_cons.1 h
    rw [runs, ih hcs, (kinds_of_letter hc).1]

private theorem wordsFrom_letters {last : LastCase} {word : List Char} (hlast : last ≠ .upper) (hne : cs ≠ [])
    (h : ∀ c ∈ cs, c.isLower = true) : wordsFrom last word cs = [word ++ cs] := by
  induction last, word, cs using wordsFrom.induct with
  | case1 => exact absurd rfl hne
  | case2 last word c => rw [wordsFrom]
  | case3 last word c next rest hlower ih =>
    have hnext := (kinds_of_letter (h next (by simp))).2.1
    rw [hnext] at hlower
    cases hlower.2
  | case4 last word c next rest hlower hupper ih => exact absurd hupper.1 hlast
  | case5 last word c next rest hlower hupper ih =>
    have hc := (kinds_of_letter (h c (by simp))).2.1
    have hafter : last.after c ≠ .upper := by
      rw [LastCase.after, hc]
      split
      · decide
      · exact hlast
    rw [wordsFrom, if_neg hlower, if_neg hupper,
      ih hafter (List.cons_ne_nil _ _) fun d hd => h d (List.mem_cons_of_mem _ hd), List.append_assoc,
      List.singleton_append]

private theorem lower_letters (h : ∀ c ∈ cs, c.isLower = true) : lower cs = cs := by
  induction cs using lower.induct with
  | case1 => rfl
  | case2 => exact absurd (h 'Σ' (by simp)) (by decide)
  | case3 c cs hsigma ih =>
    obtain ⟨hc, hcs⟩ := List.forall_mem_cons.1 h
    rw [lower, toLower_letter hc, ih hcs, List.singleton_append]
    exact hsigma

/-- A plain name is in snake case. -/
theorem snakeCase_letters {name : String} (hne : name ≠ "") (h : ∀ c ∈ name.toList, c.isLower = true) :
    snakeCase name = name := by
  have hnil : name.toList ≠ [] := by simpa using hne
  rw [snakeCase, words, runs_letters h, List.flatMap_singleton, wordsFrom_letters (by decide) hnil h,
    List.map_singleton, List.nil_append, lower_letters h]
  simp [List.intercalate]

end Naming

namespace Code.Ident

/-- A field is the name in snake case, behind an underscore if that is empty or starts with a digit. -/
theorem toList_fieldName (name : String) :
    ((fieldName name).toList = ['_'] ∧ (Naming.snakeCase name).toList = []) ∨
      (∃ c cs, (fieldName name).toList = '_' :: c :: cs ∧ c.isDigit = true ∧
        (Naming.snakeCase name).toList = c :: cs) ∨
      ∃ c cs, (fieldName name).toList = c :: cs ∧ c ≠ '_' ∧ (Naming.snakeCase name).toList = c :: cs := by
  rw [fieldName]
  split
  · exact .inl ⟨rfl, ‹_›⟩
  · rename_i c cs h
    split
    · rename_i hc
      refine .inr (.inl ⟨c, cs, ?_, hc, h⟩)
      rw [String.toList_append, h]
      rfl
    · exact .inr (.inr ⟨c, cs, h, Naming.head_snakeCase_ne h, h⟩)

/-- The name in snake case is the field without an underscore in front. -/
theorem toList_snakeCase (name : String) :
    (Naming.snakeCase name).toList = (fieldName name).toList.dropWhile (· = '_') := by
  obtain ⟨hf, hs⟩ | ⟨c, cs, hf, hc, hs⟩ | ⟨c, cs, hf, hc, hs⟩ := toList_fieldName name
  · rw [hf, hs]
    rfl
  · have hne : c ≠ '_' := by
      rintro rfl
      cases hc
    simp [hf, hs, hne]
  · simp [hf, hs, hc]

/-- The field tells names in snake case apart. -/
theorem fieldName_eq_iff {m n : String} : fieldName m = fieldName n ↔ Naming.snakeCase m = Naming.snakeCase n := by
  constructor
  · intro h
    rw [← String.toList_inj, toList_snakeCase m, toList_snakeCase n, h]
  · intro h
    rw [fieldName, fieldName, h]

/-- A field of more than an underscore does not end with one. -/
theorem fieldName_ne_append {name s : String} (hs : s ≠ "") : fieldName name ≠ s ++ "_" := by
  intro h
  have hlast : ∀ c cs, (fieldName name).toList = c :: cs → cs.getLast? = some '_' := by
    intro c cs hcs
    obtain ⟨d, ds, hd⟩ := List.exists_cons_of_ne_nil (mt String.toList_eq_nil_iff.1 hs)
    rw [h, String.toList_append, hd, List.cons_append] at hcs
    obtain ⟨-, rfl⟩ := List.cons.inj hcs
    exact List.getLast?_concat
  have hends := (Naming.ends_snakeCase_ne name).2
  obtain ⟨hf, -⟩ | ⟨c, cs, hf, -, hs⟩ | ⟨c, cs, hf, -, hs⟩ := toList_fieldName name
  · cases hlast _ _ hf
  · exact hends (hs ▸ hlast _ _ hf)
  · refine hends ?_
    rw [hs, List.getLast?_cons, hlast _ _ hf]
    rfl

theorem name_of_plain? {name : String} {i : Ident} (h : plain? name = some i) : name = i.name := by
  rw [plain?] at h
  split at h <;> cases h
  rfl

theorem name_of_raw? {name : String} {i : Ident} (h : raw? name = some i) : name = i.name := by
  rw [raw?] at h
  split at h <;> cases h
  rfl

/-- The identifier is the field, with an underscore behind keywords that cannot be raw. -/
theorem fieldName_of_ofName? {name : String} {i : Ident} (h : ofName? name = some i) :
    (∃ s ∈ ["self", "Self", "crate", "super"], i.name = s ++ "_" ∧ fieldName name = s) ∨
      fieldName name ∉ ["self", "Self", "crate", "super"] ∧ fieldName name = i.name := by
  rw [ofName?] at h
  by_cases hspecial : ["self", "Self", "crate", "super"].contains (fieldName name)
  · rw [if_pos hspecial] at h
    exact .inl ⟨_, List.contains_iff_mem.1 hspecial, (name_of_plain? h).symm, rfl⟩
  · refine .inr ⟨mt List.contains_iff_mem.2 hspecial, ?_⟩
    rw [if_neg hspecial] at h
    split at h
    · exact name_of_raw? h
    · exact name_of_plain? h

/-- Identifiers tell names in snake case apart. -/
theorem name_eq_name_iff {m n : String} {i j : Ident} (hm : ofName? m = some i) (hn : ofName? n = some j) :
    i.name = j.name ↔ Naming.snakeCase m = Naming.snakeCase n := by
  have hnonempty : ∀ s ∈ ["self", "Self", "crate", "super"], s ≠ "" := by decide
  constructor
  · intro h
    rw [← fieldName_eq_iff]
    -- no field ends with the underscore that is put behind a keyword
    obtain ⟨s, hs, his, hms⟩ | ⟨-, hmi⟩ := fieldName_of_ofName? hm
    · obtain ⟨t, ht, hjt, hnt⟩ | ⟨-, hnj⟩ := fieldName_of_ofName? hn
      · rw [hms, hnt, String.append_left_inj "_" |>.1 (his.symm.trans (h.trans hjt))]
      · exact absurd (hnj.trans (h.symm.trans his)) (fieldName_ne_append (hnonempty s hs))
    · obtain ⟨t, ht, hjt, hnt⟩ | ⟨-, hnj⟩ := fieldName_of_ofName? hn
      · exact absurd (hmi.trans (h.trans hjt)) (fieldName_ne_append (hnonempty t ht))
      · rw [hmi, hnj, h]
  · intro h
    rw [ofName?, fieldName_eq_iff.2 h, ← ofName?, hn] at hm
    rw [Option.some.inj hm]

/-- The identifier is spelled as the name in snake case unless an underscore is added in front or behind. -/
theorem name_eq_snakeCase_iff {name : String} {i : Ident} (h : ofName? name = some i)
    (hne : Naming.snakeCase name ≠ "") : i.name = Naming.snakeCase name ↔
      ¬ ((Naming.snakeCase name).toList.head?.any Char.isDigit = true ∨
        Naming.snakeCase name ∈ ["self", "Self", "crate", "super"]) := by
  obtain ⟨c, cs, hs⟩ := List.exists_cons_of_ne_nil (mt String.toList_eq_nil_iff.1 hne)
  have hfield : fieldName name = if c.isDigit then "_" ++ Naming.snakeCase name else Naming.snakeCase name := by
    rw [fieldName, hs]
  rw [hs, List.head?_cons, Option.any_some]
  by_cases hc : c.isDigit
  · rw [if_pos hc] at hfield
    refine iff_of_false (fun heq => ?_) fun hno => hno (.inl hc)
    obtain ⟨s, hmem, -, hfs⟩ | ⟨-, hfi⟩ := fieldName_of_ofName? h
    · have hstart : ∀ s ∈ ["self", "Self", "crate", "super"], s.toList.head? ≠ some '_' := by decide
      exact hstart s hmem (by rw [← hfs, hfield, String.toList_append]; rfl)
    · have hlength := congrArg String.length (hfield.symm.trans (hfi.trans heq))
      simp [String.length_append] at hlength
  · rw [if_neg hc] at hfield
    obtain ⟨s, hmem, hi, hfs⟩ | ⟨hplain, hfi⟩ := fieldName_of_ofName? h
    · refine iff_of_false (fun heq => ?_) fun hno => hno (.inr (hfield ▸ hfs ▸ hmem))
      have hlength := congrArg String.length (hi.symm.trans (heq.trans (hfield.symm.trans hfs)))
      simp [String.length_append] at hlength
    · refine iff_of_true (hfi.symm.trans hfield) fun hno => ?_
      exact hno.elim hc (hfield ▸ hplain)

theorem snakeCase_eq_of_ofName? {m n : String} {i : Ident} (hm : ofName? m = some i) (hn : ofName? n = some i) :
    Naming.snakeCase m = Naming.snakeCase n := (name_eq_name_iff hm hn).1 rfl

theorem fieldName_letters {name : String} (hne : name ≠ "") (h : ∀ c ∈ name.toList, c.isLower = true) :
    fieldName name = name := by
  rw [fieldName, Naming.snakeCase_letters hne h]
  split
  · rename_i hnil
    exact absurd (by simpa using hnil) hne
  · rename_i c cs hcs
    have hc := (Naming.kinds_of_letter (h c (by simp [hcs]))).2.2.2.2.1
    rw [hc]
    rfl

/-- A plain name that is no keyword is an identifier as it is. -/
theorem ofName?_letters {name : String} (hne : name ≠ "") (h : ∀ c ∈ name.toList, c.isLower = true)
    (hkeyword : isKeyword name = false) : ofName? name = some ⟨name, false⟩ := by
  -- the names that cannot be raw are keywords too
  have hspecial : ["self", "Self", "crate", "super"].contains name = false := by
    refine Bool.eq_false_iff.2 fun hmem => ?_
    have hall : ∀ s ∈ ["self", "Self", "crate", "super"], isKeyword s = true := by decide
    rw [hall name (List.contains_iff_mem.1 hmem)] at hkeyword
    cases hkeyword
  have htext : isIdentText name.toList = true := by
    cases hname : name.toList with
    | nil => exact absurd (by simpa using hname) hne
    | cons c cs =>
      rw [hname] at h
      obtain ⟨hc, hcs⟩ := List.forall_mem_cons.1 h
      have hstart := (Naming.kinds_of_letter hc).2.2.1
      have hcontinue : cs.all Unicode.identifierContinue.contains = true :=
        List.all_eq_true.2 fun d hd => (Naming.kinds_of_letter (hcs d hd)).2.2.2.1
      rw [isIdentText, hstart, hcontinue, Bool.or_true, Bool.true_and]
  rw [ofName?, fieldName_letters hne h]
  simp only [hspecial, hkeyword, plain?, htext, if_true, Bool.false_eq_true, if_false]

/-- The identifier of a name is a plain name that is no keyword exactly if the name is, in snake case. -/
theorem name_eq_letters_iff {name w : String} {i : Ident} (h : ofName? name = some i) (hne : w ≠ "")
    (hw : ∀ c ∈ w.toList, c.isLower = true) (hkeyword : isKeyword w = false) :
    i.name = w ↔ Naming.snakeCase name = w := by
  have hiff := name_eq_name_iff h (ofName?_letters hne hw hkeyword)
  rwa [Naming.snakeCase_letters hne hw] at hiff

end Code.Ident

/-! ### Letters and numbers of a name -/

namespace Naming

/-- What a name has in snake case without the underscores: its letters and numbers in lowercase. -/
def spelling (name : String) : List Char := (name.toList.filter alphanumeric.contains).flatMap toLower

/-- The same character, or a sigma at the end of a word for any other. -/
def Alike (c d : Char) : Prop := c = d ∨ c = 'ς' ∧ d = 'σ'

private theorem flatten_runs (cs : List Char) : (runs cs).flatten = cs.filter alphanumeric.contains := by
  induction cs with
  | nil => rfl
  | cons c cs ih =>
    rw [runs]
    split
    · rename_i r rs hc hrs
      rw [List.filter_cons_of_pos hc, ← ih, hrs]
      rfl
    · rename_i hc hrs
      rw [List.filter_cons_of_pos hc, ← ih, hrs]
      rfl
    · rename_i hc
      rw [List.filter_cons_of_neg (by simp [hc]), ← ih]
      rfl

private theorem flatten_wordsFrom {last : LastCase} {word cs : List Char} (hne : cs ≠ []) :
    (wordsFrom last word cs).flatten = word ++ cs := by
  induction last, word, cs using wordsFrom.induct with
  | case1 => exact absurd rfl hne
  | case2 last word c => simp [wordsFrom]
  | case3 last word c next rest hlower ih =>
    rw [wordsFrom, if_pos hlower, List.flatten_cons, ih (List.cons_ne_nil _ _)]
    simp
  | case4 last word c next rest hlower hupper ih =>
    rw [wordsFrom, if_neg hlower, if_pos hupper, List.flatten_cons, ih (List.cons_ne_nil _ _)]
    simp
  | case5 last word c next rest hlower hupper ih =>
    rw [wordsFrom, if_neg hlower, if_neg hupper, ih (List.cons_ne_nil _ _)]
    simp

/-- Nothing but separators is lost when a name is cut into words. -/
theorem flatten_words (name : List Char) : (words name).flatten = name.filter alphanumeric.contains := by
  have hrun (r : List Char) : (wordsFrom .none [] r).flatten = r := by
    cases r with
    | nil => rfl
    | cons c cs => exact flatten_wordsFrom (List.cons_ne_nil _ _)
  rw [← flatten_runs, words]
  induction runs name with
  | nil => rfl
  | cons r rs ih => rw [List.flatMap_cons, List.flatten_append, List.flatten_cons, ih, hrun]

private theorem kinds_of_sigma : toLower 'Σ' = ['σ'] ∧
    (Unicode.identifierStart.contains 'ς' = true ∧ Unicode.identifierContinue.contains 'ς' = true) ∧
      Unicode.identifierStart.contains 'σ' = true ∧ Unicode.identifierContinue.contains 'σ' = true := by
  decide +kernel

private theorem alike_lower (w : List Char) : List.Forall₂ Alike (lower w) (w.flatMap toLower) := by
  induction w using lower.induct with
  | case1 => exact .nil
  | case2 =>
    rw [lower, List.flatMap_cons, kinds_of_sigma.1]
    exact .cons (.inr ⟨rfl, rfl⟩) .nil
  | case3 c cs hsigma ih =>
    rw [lower, List.flatMap_cons]
    · exact List.rel_append (List.forall₂_same.2 fun _ _ => .inl rfl) ih
    · exact hsigma

private theorem alike_words (ws : List (List Char)) :
    List.Forall₂ Alike (ws.map lower).flatten (ws.flatten.flatMap toLower) := by
  induction ws with
  | nil => exact .nil
  | cons w ws ih =>
    rw [List.map_cons, List.flatten_cons, List.flatten_cons, List.flatMap_append]
    exact List.rel_append (alike_lower w) ih

end Naming

namespace Code

/-- Whether these characters, after an underscore or without it, are those of an identifier. -/
def SpellsIdent (cs : List Char) : Prop :=
  ∃ d ds, cs = d :: ds ∧ (d.isDigit = true ∨ Unicode.identifierStart.contains d = true) ∧
    ∀ e ∈ ds, Unicode.identifierContinue.contains e = true

theorem spellsIdent_cons {c : Char} {cs : List Char} : SpellsIdent (c :: cs) ↔
    (c.isDigit = true ∨ Unicode.identifierStart.contains c = true) ∧
      ∀ d ∈ cs, Unicode.identifierContinue.contains d = true := by
  constructor
  · rintro ⟨d, ds, h, hspelled⟩
    cases h
    exact hspelled
  · intro h
    exact ⟨c, cs, rfl, h⟩

private theorem spellsIdent_of_alike {cs ds : List Char} (h : List.Forall₂ Naming.Alike cs ds) :
    SpellsIdent cs ↔ SpellsIdent ds := by
  obtain ⟨hfinal, hsigma⟩ := Naming.kinds_of_sigma.2
  cases h with
  | nil => rfl
  | @cons c d cs ds hcd h =>
    rw [spellsIdent_cons, spellsIdent_cons]
    refine and_congr ?_ ?_
    · rcases hcd with rfl | ⟨rfl, rfl⟩
      · rfl
      · simp [hfinal.1, hsigma.1]
    · induction h with
      | nil => simp
      | @cons c d cs ds hcd h ih =>
        rw [List.forall_mem_cons, List.forall_mem_cons, ih]
        refine and_congr_left fun _ => ?_
        rcases hcd with rfl | ⟨rfl, rfl⟩
        · rfl
        · simp [hfinal.2, hsigma.2]

private theorem forall_mem_intercalate {p : Char → Prop} (hp : p '_') (ws : List (List Char)) :
    (∀ c ∈ ['_'].intercalate ws, p c) ↔ ∀ c ∈ ws.flatten, p c := by
  induction ws with
  | nil => simp
  | cons w ws ih =>
    cases ws with
    | nil => simp
    | cons v vs =>
      rw [List.intercalate_cons_cons, List.flatten_cons, List.forall_mem_append, List.forall_mem_append,
        List.forall_mem_append, ih]
      simp [hp]

/-- Underscores between words do not count. -/
private theorem spellsIdent_intercalate {ws : List (List Char)} (h : ∀ w ∈ ws, w ≠ []) :
    SpellsIdent (['_'].intercalate ws) ↔ SpellsIdent ws.flatten := by
  cases ws with
  | nil => rfl
  | cons w ws =>
    obtain ⟨c, cs, rfl⟩ := List.exists_cons_of_ne_nil (h w List.mem_cons_self)
    have hcons : ['_'].intercalate ((c :: cs) :: ws) = c :: ['_'].intercalate (cs :: ws) := by
      cases ws <;> rfl
    rw [hcons, List.flatten_cons, List.cons_append, ← List.flatten_cons, spellsIdent_cons, spellsIdent_cons]
    exact and_congr_right fun _ => forall_mem_intercalate Naming.kinds_of_underscore.2.2 (cs :: ws)

theorem spellsIdent_snakeCase (name : String) :
    SpellsIdent (Naming.snakeCase name).toList ↔ SpellsIdent (Naming.spelling name) := by
  have halike := Naming.alike_words (Naming.words name.toList)
  rw [Naming.flatten_words] at halike
  rw [Naming.snakeCase, String.toList_ofList, Naming.spelling, ← spellsIdent_of_alike halike]
  exact spellsIdent_intercalate fun w hw => (Naming.plain_of_mem_words w hw).1

/-- The words of the language, in use or reserved, that only a raw identifier may be. -/
def reserved : List String :=
  ["abstract", "as", "async", "await", "become", "box", "break", "const", "continue", "crate", "do", "dyn", "else",
   "enum", "extern", "false", "final", "fn", "for", "gen", "if", "impl", "in", "let", "loop", "macro", "match", "mod",
   "move", "mut", "override", "priv", "pub", "ref", "return", "self", "Self", "static", "struct", "super", "trait",
   "true", "try", "type", "typeof", "unsafe", "unsized", "use", "virtual", "where", "while", "yield"]

namespace Ident

/-- A variable or a field may be called this. -/
structure IsUsable (i : Ident) : Prop where
  text : ∃ c cs, i.name.toList = c :: cs ∧ (Unicode.identifierStart.contains c = true ∨ c = '_' ∧ cs ≠ []) ∧
    ∀ d ∈ cs, Unicode.identifierContinue.contains d = true
  plain : i.isRaw = false → i.name ∉ reserved
  raw : i.isRaw = true → i.name ∉ ["crate", "self", "Self", "super", "_"]

variable {name : String} {i : Ident}

theorem isIdentText_cons {c : Char} {cs : List Char} : isIdentText (c :: cs) = true ↔
    (c = '_' ∨ Unicode.identifierStart.contains c = true) ∧ ∀ d ∈ cs, Unicode.identifierContinue.contains d = true := by
  simp [isIdentText]

private theorem text_of_isIdentText {s : String} (h : isIdentText s.toList = true) (hne : s ≠ "_") :
    ∃ c cs, s.toList = c :: cs ∧ (Unicode.identifierStart.contains c = true ∨ c = '_' ∧ cs ≠ []) ∧
      ∀ d ∈ cs, Unicode.identifierContinue.contains d = true := by
  cases hs : s.toList with
  | nil =>
    rw [hs] at h
    cases h
  | cons c cs =>
    rw [hs] at h
    obtain ⟨hstart, hcontinue⟩ := isIdentText_cons.1 h
    refine ⟨c, cs, rfl, ?_, hcontinue⟩
    rcases hstart with rfl | hstart
    · refine .inr ⟨rfl, ?_⟩
      rintro rfl
      exact hne (String.toList_inj.1 hs)
    · exact .inl hstart

private theorem continues_of_isDigit {c : Char} (h : c.isDigit = true) :
    Unicode.identifierContinue.contains c = true := by
  have hdigits : ∀ n ∈ List.range' 48 10, Unicode.identifierContinue.contains (Char.ofNat n) = true := by
    decide +kernel
  obtain ⟨hfirst, hlast⟩ := Char.isDigit_iff_toNat.1 h
  have hdigit := hdigits c.toNat (List.mem_range'_1.2 ⟨hfirst, Nat.lt_succ_of_le hlast⟩)
  rwa [Char.ofNat_toNat] at hdigit

private theorem isIdentText_fieldName (h : SpellsIdent (Naming.snakeCase name).toList) :
    isIdentText (fieldName name).toList = true ∧ fieldName name ≠ "_" := by
  obtain ⟨c, cs, hs, hstart, hcontinue⟩ := h
  by_cases hc : c.isDigit = true
  · have hfield : fieldName name = "_" ++ Naming.snakeCase name := by
      rw [fieldName, hs]
      exact if_pos hc
    have hlist : (fieldName name).toList = '_' :: c :: cs := by
      rw [hfield, String.toList_append, hs]
      rfl
    refine ⟨?_, fun heq => ?_⟩
    · rw [hlist, isIdentText_cons]
      exact ⟨.inl rfl, List.forall_mem_cons.2 ⟨continues_of_isDigit hc, hcontinue⟩⟩
    · rw [heq] at hlist
      cases hlist
  · have hfield : fieldName name = Naming.snakeCase name := by
      rw [fieldName, hs]
      exact if_neg hc
    refine ⟨?_, fun heq => ?_⟩
    · rw [hfield, hs, isIdentText_cons]
      exact ⟨.inr (hstart.resolve_left hc), hcontinue⟩
    · exact (Naming.ends_snakeCase_ne name).1 (by rw [← hfield, heq]; rfl)

private theorem isIdentText_append {cs : List Char} (h : isIdentText cs = true) : isIdentText (cs ++ ['_']) = true := by
  cases cs with
  | nil => cases h
  | cons c cs =>
    obtain ⟨hstart, hcontinue⟩ := isIdentText_cons.1 h
    rw [List.cons_append, isIdentText_cons]
    exact ⟨hstart, List.forall_mem_append.2 ⟨hcontinue, List.forall_mem_singleton.2 Naming.kinds_of_underscore.2.2⟩⟩

private theorem isUsable_plain {s : String} (htext : isIdentText s.toList = true) (hne : s ≠ "_") (hs : s ∉ reserved) :
    IsUsable ⟨s, false⟩ where
  text := text_of_isIdentText htext hne
  plain _ := hs
  raw hraw := by cases hraw

private theorem isUsable_raw {s : String} (htext : isIdentText s.toList = true)
    (hs : s ∉ ["_", "super", "self", "Self", "crate"]) : IsUsable ⟨s, true⟩ where
  text := by
    refine text_of_isIdentText htext ?_
    rintro rfl
    exact hs List.mem_cons_self
  plain hplain := by cases hplain
  raw _ hmem := by
    have hperm : ["crate", "self", "Self", "super", "_"] ⊆ ["_", "super", "self", "Self", "crate"] := by decide
    exact hs (hperm hmem)

/-- The identifier of a name that is spelled like one. -/
private theorem exists_isUsable (h : SpellsIdent (Naming.snakeCase name).toList) :
    ∃ i, ofName? name = some i ∧ i.IsUsable := by
  obtain ⟨htext, hne⟩ := isIdentText_fieldName h
  by_cases hspecial : ["self", "Self", "crate", "super"].contains (fieldName name) = true
  · have hends : ∀ s ∈ ["self", "Self", "crate", "super"], s ++ "_" ∉ reserved ∧ s ++ "_" ≠ "_" := by decide
    obtain ⟨hreserved, hlong⟩ := hends _ (List.contains_iff_mem.1 hspecial)
    have hlonger : isIdentText (fieldName name ++ "_").toList = true := by
      rw [String.toList_append]
      exact isIdentText_append htext
    refine ⟨⟨fieldName name ++ "_", false⟩, ?_, isUsable_plain hlonger hlong hreserved⟩
    rw [ofName?, if_pos hspecial, plain?, if_pos hlonger]
  by_cases hkeyword : isKeyword (fieldName name) = true
  · have hallowed : fieldName name ∉ ["_", "super", "self", "Self", "crate"] := by
      have hplain := mt List.contains_iff_mem.2 hspecial
      simp only [List.mem_cons, List.not_mem_nil, or_false, not_or] at hplain ⊢
      exact ⟨hne, hplain.2.2.2, hplain.1, hplain.2.1, hplain.2.2.1⟩
    have hcontains := Bool.eq_false_iff.2 (mt List.contains_iff_mem.1 hallowed)
    refine ⟨⟨fieldName name, true⟩, ?_, isUsable_raw htext hallowed⟩
    rw [ofName?, if_neg hspecial, if_pos hkeyword, raw?, htext, hcontains]
    rfl
  · have hkeywords : ∀ s ∈ reserved, isKeyword s = true := by decide
    refine ⟨⟨fieldName name, false⟩, ?_, isUsable_plain htext hne fun hmem => hkeyword (hkeywords _ hmem)⟩
    rw [ofName?, if_neg hspecial, if_neg hkeyword, plain?, if_pos htext]

/-- The field of an identifier that may be used has no other characters either. -/
private theorem text_fieldName (h : ofName? name = some i) (husable : i.IsUsable) {c : Char} {cs : List Char}
    (hf : (fieldName name).toList = c :: cs) : (Unicode.identifierStart.contains c = true ∨ c = '_' ∧ cs ≠ []) ∧
      ∀ d ∈ cs, Unicode.identifierContinue.contains d = true := by
  obtain ⟨d, ds, htext, hstart, hcontinue⟩ := husable.text
  obtain ⟨s, hs, hi, hfield⟩ | ⟨-, hfield⟩ := fieldName_of_ofName? h
  · -- no keyword starts with an underscore, so the one behind does not matter
    have hhead : ∀ s ∈ ["self", "Self", "crate", "super"], s.toList.head? ≠ some '_' := by decide
    have hc := hhead s hs
    rw [← hfield, hf, List.head?_cons] at hc
    rw [hi, ← hfield, String.toList_append, hf, List.cons_append] at htext
    obtain ⟨rfl, rfl⟩ := List.cons.inj htext
    refine ⟨.inl (hstart.resolve_right fun hunderscore => ?_), fun e he => hcontinue e (List.mem_append_left _ he)⟩
    exact hc (congrArg some hunderscore.1)
  · rw [← hfield, hf] at htext
    obtain ⟨rfl, rfl⟩ := List.cons.inj htext
    exact ⟨hstart, hcontinue⟩

/-- An identifier that may be used is spelled like its name. -/
private theorem spellsIdent_of_isUsable (h : ofName? name = some i) (husable : i.IsUsable) :
    SpellsIdent (Naming.snakeCase name).toList := by
  obtain ⟨hf, -⟩ | ⟨c, cs, hf, hdigit, hs⟩ | ⟨c, cs, hf, hne, hs⟩ := toList_fieldName name
  · obtain ⟨hstart | ⟨-, hmore⟩, -⟩ := text_fieldName h husable hf
    · rw [Naming.kinds_of_underscore.2.1] at hstart
      cases hstart
    · exact absurd rfl hmore
  · obtain ⟨-, hcontinue⟩ := text_fieldName h husable hf
    rw [hs, spellsIdent_cons]
    exact ⟨.inl hdigit, (List.forall_mem_cons.1 hcontinue).2⟩
  · obtain ⟨hstart, hcontinue⟩ := text_fieldName h husable hf
    rw [hs, spellsIdent_cons]
    exact ⟨.inr (hstart.resolve_right fun h => hne h.1), hcontinue⟩

/-- A name has an identifier that may be used exactly if its letters and numbers in lowercase are those of one behind an
underscore or without it. -/
theorem isUsable_ofName?_iff (name : String) :
    (∃ i, ofName? name = some i ∧ i.IsUsable) ↔ SpellsIdent (Naming.spelling name) := by
  rw [← spellsIdent_snakeCase]
  constructor
  · rintro ⟨i, hi, husable⟩
    exact spellsIdent_of_isUsable hi husable
  · exact exists_isUsable

end Ident

end Code

end Signpost
